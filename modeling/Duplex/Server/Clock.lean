import Duplex.Server.Basic

-- How work goes on by itself. At every instant all that can run is run, and between two instants
-- at which something is due nothing happens.

namespace Duplex.Server

-- An echoing application looks after one of its sockets.
def runSocket (v : Server) (k : Socket) : Server :=
  match v.session? k.sid with
  | none => { v with sockets := v.sockets ++ [k] }
  | some s =>
    let (progress, s) := Echo.run k.progress s
    { v.put s with sockets := v.sockets ++ [{ k with progress }] }

def runSockets (v : Server) : Server :=
  if v.application = .echoes then v.sockets.foldl runSocket { v with sockets := [] } else v

def runWatch (v : Server) (w : Watch) : Server :=
  let (w, engine) := v.engine.runWatch w v.now
  { v with engine, watches := v.watches ++ w.toList }

-- A watch wakes at its time, or when its session is over.
def wakes (v : Server) (w : Watch) : Bool :=
  (v.session? w.sid).all fun s => s.cancelled || decide (w.due s ≤ v.now)

-- Watches wake in the order in which they fell asleep.
def runWatches (v : Server) : Server :=
  let (awake, asleep) := v.watches.partition v.wakes
  awake.foldl runWatch { v with watches := asleep }

-- A websocket is over when its session is, or when it did not manage to join in time.
def runConnection (v : Server) (c : Connection) : Server :=
  let finished := { c with role := .finished }
  match c.role, v.session? c.sid with
  | .finished, _ | _, none => { v with connections := v.connections ++ [c] }
  | role, some s =>
    if s.cancelled then { v with connections := v.connections ++ [finished] }
    else if role = .joining ∧ c.deadline ≤ v.now then
      { v.put (s.joinTimedOut c.transport) with connections := v.connections ++ [finished] }
    else { v with connections := v.connections ++ [c] }

def runConnections (v : Server) : Server :=
  v.connections.foldl runConnection { v with connections := [] }

-- The response to a poll that was answered.
def pollResponse (r : Revision) (packets : List Packet) : Http.Response :=
  match Batch.encode packets r with
  | .ok body => .batch body
  | .error e => .ofFault (.encode e)

-- A poll waits until it is answered, its time is up, or the session is over.
def runExchange (v : Server) (x : Exchange) : Server :=
  match x.work with
  | .upload _ _ => v
  | .poll sid poll deadline =>
    match v.session? sid with
    | none => v
    | some s =>
      match s.answer? poll with
      | some packets => v.respond x (pollResponse s.revision packets)
      | none =>
        if s.cancelled ∨ deadline ≤ v.now then
          let (packets, s) := s.expirePoll poll
          (v.put s).respond x (pollResponse s.revision packets)
        else v

def runExchanges (v : Server) : Server :=
  v.exchanges.foldl runExchange v

def runObserver (v : Server) : Server :=
  match v.observer with
  | none => v
  | some i =>
    let (notices, bus) := v.engine.bus.receiveAll i
    { v with engine := { v.engine with bus }, journal := v.journal ++ notices }

-- All that can run at this instant.
def settle (v : Server) : Server :=
  v.runSockets.runWatches.runConnections.runExchanges.runObserver

def pollDeadline? (x : Exchange) : Option Nat :=
  match x.work with
  | .poll _ _ deadline => some deadline
  | .upload _ _ => none

def joinDeadline? (c : Connection) : Option Nat :=
  if c.role = .joining then some c.deadline else none

def watchDue? (v : Server) (w : Watch) : Option Nat :=
  (v.session? w.sid).map w.due

-- The instants at which something is due.
def instants (v : Server) : List Nat :=
  v.exchanges.filterMap pollDeadline? ++ v.connections.filterMap joinDeadline? ++
    v.watches.filterMap v.watchDue?

def nextInstant? (v : Server) : Option Nat :=
  (v.instants.filter (v.now < ·)).min?

-- How long nothing is due, but at least one and at most `limit` milliseconds.
def stride (v : Server) (limit : Nat) : Nat :=
  match v.nextInstant? with
  | some instant => max 1 (min limit (instant - v.now))
  | none => max 1 limit

-- Lets time pass up to an instant. What is due at that instant itself is not done yet.
def elapse (v : Server) (milliseconds : Nat) : Server :=
  let step := v.stride milliseconds
  if step < milliseconds then elapse { v with now := v.now + step }.settle (milliseconds - step)
  else { v with now := v.now + milliseconds }
  termination_by milliseconds
  decreasing_by
    have : 1 ≤ v.stride milliseconds := by unfold stride; split <;> omega
    omega

-- Lets time pass.
def advance (v : Server) (milliseconds : Nat) : Server :=
  (v.elapse milliseconds).settle

end Duplex.Server
