import Duplex.Server.Clock
import Duplex.Server.Dispatch

-- Requests of clients and their bodies. After each thing that a client does everything runs to
-- rest.

namespace Duplex.Server

-- More of a body has come. A body that grows too large is refused at that point.
def extendBody (v : Server) (x : Exchange) (data : Bytes) : Server :=
  match x.work with
  | .poll _ _ _ => v
  | .upload sid body =>
    match v.session? sid with
    | none => v
    | some s =>
      let body := body ++ data
      if s.config.maxPayload.toNat < body.length then
        let (fault, s) := s.refuseBody
        (v.put s).respond x (.ofFault fault)
      else
        { v with
          exchanges := v.exchanges.map fun y =>
            if y.id = x.id then { y with work := .upload sid body } else y }

-- A body is complete.
def endBody (v : Server) (x : Exchange) : Server :=
  match x.work with
  | .poll _ _ _ => v
  | .upload sid body =>
    match v.session? sid with
    | none => v
    | some s =>
      match s.takeBatch body v.now with
      | (.ok (), s) => (v.put s).respond x (.batch "ok")
      | (.error f, s) => (v.put s).respond x (.ofFault f)

def breakBody (v : Server) (x : Exchange) (reason : String) : Server :=
  match x.work with
  | .poll _ _ _ => v
  | .upload sid _ =>
    match v.session? sid with
    | none => v
    | some s =>
      let (fault, s) := s.breakBody reason
      (v.put s).respond x (.ofFault fault)

-- A body that is there as a whole.
def postBody (v : Server) (x : Exchange) (body : Bytes) : Server :=
  let v := v.extendBody x body
  match v.exchange? x.id with
  | some x => v.endBody x
  | none => v

-- A request with its body, or without one if that is still to come.
def request (v : Server) (r : Http.Request) (body : Option Bytes) : RequestId × Server :=
  let id := v.requests + 1
  let sending := if body.isNone then v.sending ++ [id] else v.sending
  let v :=
    match { v with requests := id, sending }.handle r false with
    | (.answered response, _, v) => v.answer id response
    | (.waiting work, extra, v) =>
      let x : Exchange := { id, extra, work }
      match body with
      | some body => (v.startExchange x).postBody x body
      | none => v.startExchange x
    | (.switching _ _, extra, v) => v.answer id (v.dress extra (.ofFault .notUpgradable))
  (id, v.settle)

-- The exchange of a request whose body the server still reads.
def reading? (v : Server) (id : RequestId) : Option Exchange :=
  if id ∈ v.sending then v.exchange? id else none

def stopSending (v : Server) (id : RequestId) : Server :=
  { v with sending := v.sending.filter (· ≠ id) }

-- The answer is whether the server still reads.
def sendChunk (v : Server) (id : RequestId) (data : Bytes) : Bool × Server :=
  match v.reading? id with
  | some x => (true, (v.extendBody x data).settle)
  | none => (false, v)

-- The client has sent the whole body. The answer is whether it was still sending.
def endSending (v : Server) (id : RequestId) : Bool × Server :=
  let done := v.stopSending id
  match v.reading? id with
  | some x => (true, (done.endBody x).settle)
  | none => (decide (id ∈ v.sending), done)

-- The client breaks off. The answer is whether the server still reads.
def breakSending (v : Server) (id : RequestId) (reason : String) : Bool × Server :=
  let done := v.stopSending id
  match v.reading? id with
  | some x => (true, (done.breakBody x reason).settle)
  | none => (false, done)

-- The client does not wait for the answer any more.
def abandon (v : Server) (id : RequestId) : Bool × Server :=
  match v.exchange? id with
  | none => (false, v)
  | some x =>
    let v := { v with exchanges := v.exchanges.filter (·.id ≠ id) }
    match x.work with
    | .upload _ _ => (true, v)
    | .poll sid poll _ => (true, (v.update sid (·.abandonPoll poll)).settle)

end Duplex.Server
