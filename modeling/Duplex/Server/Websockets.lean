import Duplex.Server.Clock
import Duplex.Server.Dispatch

-- Websockets of clients: how they open, what comes on them, and what their clients see.

namespace Duplex.Server

-- What a websocket's handshake comes to: a response, or the number of a connection. A handshake
-- that turns out to be a poll has no response as long as it waits.
inductive Opening where
  | accepted (number : Nat) (r : Http.Response)
  | refused (r : Http.Response)
  | waiting

def handshakeId : RequestId := 0

def connect (v : Server) (sid : SessionId) (transport : TransportId) (role : Role) : Server :=
  let deadline := v.now + v.config.upgradeTimeout.toNat
  { v with connections := v.connections ++ [{ sid, transport, role, deadline }] }

-- A new websocket opens a session.
def openWebsocket (v : Server) (revision : Revision) : Server :=
  let (id, engine) := v.engine.newTransport
  let (sid, engine) := engine.openSession revision (.websocket { id, revision }) v.now
  ({ v with engine }.adopt sid).connect sid id .carrying

-- A new websocket wants to join a session. It is over at once if the session is gone or may not
-- be joined any more.
def joinWebsocket (v : Server) (revision : Revision) (sid : SessionId) : Server :=
  let (id, engine) := v.engine.newTransport
  let v := { v with engine }
  match engine.lookup sid with
  | .error _ => v.connect sid id .finished
  | .ok s =>
    match s.beginUpgrade { id, revision } with
    | (.error _, s) => (v.put s).connect sid id .finished
    | (.ok (), s) => (v.put s).connect sid id .joining

def openSocket (v : Server) (r : Http.Request) : Opening × Server :=
  match v.handle r true with
  | (.answered response, _, v) => (.refused response, v.settle)
  | (.switching revision none, extra, v) =>
    (.accepted v.connections.length (v.dress extra .switching), (v.openWebsocket revision).settle)
  | (.switching revision (some sid), extra, v) =>
    (.accepted v.connections.length (v.dress extra .switching),
      (v.joinWebsocket revision sid).settle)
  | (.waiting work, extra, v) =>
    let v := (v.startExchange { id := handshakeId, extra, work }).settle
    match v.exchange? handshakeId, v.responses.getLast? with
    | none, some (_, response) => (.refused response, v)
    | _, _ => (.waiting, v)

def takeMessage (v : Server) (number : Nat) (m : Message) : Server :=
  match v.connections[number]? with
  | none => v
  | some c =>
    match v.session? c.sid with
    | none => v
    | some s =>
      let (role, s) := s.hear c.transport c.role (m.bounded v.config.maxPayload.toNat) v.now
      { v.put s with connections := v.connections.set number { c with role } }

def sendOnSocket (v : Server) (number : Nat) (m : Message) : Server :=
  (v.takeMessage number m).settle

-- The client of a websocket is gone without a word.
def loseSocket (v : Server) (number : Nat) : Server :=
  let v := v.takeMessage number .failure
  { v with connections := v.connections.modify number ({ · with lost := true }) }.settle

-- What a client sees on its websocket: frames, and whether it was closed.
structure View where
  frames : List Frame := []
  closed : Bool := false
  deriving DecidableEq, Repr

def view (v : Server) (c : Connection) : View :=
  { frames := ((v.session? c.sid).map (·.framesOn c.transport)).getD []
    closed := c.role = .finished }

end Duplex.Server
