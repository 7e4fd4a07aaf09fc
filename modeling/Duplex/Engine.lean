import Duplex.Bus
import Duplex.Session.Inbound
import Duplex.Session.Upgrade
import Duplex.Session.Watch

-- The engine keeps all sessions, finds the registered ones by their ids, and passes on what they
-- have to say: events to the bus, counts to the metrics.

namespace Duplex

-- What a client is told when its session opens. Only revision 4 has a place for the payload limit.
def Configuration.handshake (c : Configuration) (sid : SessionId) (revision : Revision)
    (kind : TransportKind) : Handshake :=
  { sid
    upgrades := c.upgradesFrom kind
    pingInterval := c.pingInterval
    pingTimeout := c.pingTimeout
    maxPayload := if revision = .v4 then some c.maxPayload else none }

structure Engine where
  config : Configuration
  -- The id of the session that is opened after so many others.
  idOf : Nat → SessionId
  -- Every session that was ever opened, in that order.
  sessions : List Session := []
  -- A session is registered from its opening until some time after its close.
  registry : List SessionId := []
  bus : Bus := .ofCapacity Bus.defaultCapacity
  metrics : Metrics := {}
  -- How many transports were made.
  transports : Nat := 0

namespace Engine

-- Any session, also one that closed long ago.
def session? (e : Engine) (sid : SessionId) : Option Session :=
  e.sessions.find? (·.id = sid)

def isRegistered (e : Engine) (sid : SessionId) : Bool :=
  sid ∈ e.registry

def lookup (e : Engine) (sid : SessionId) : Except Fault Session :=
  match (e.session? sid).filter fun _ => e.isRegistered sid with
  | some s => .ok s
  | none => .error (.unknownSession sid)

def publish (e : Engine) (sid : SessionId) : Signal → Engine
  | .event event => { e with bus := e.bus.emit { sid, event } }
  | .meter m => { e with metrics := e.metrics.record m }

-- Takes a session back after an operation, and passes on what it has to say.
def put (e : Engine) (s : Session) : Engine :=
  let quiet := { s with signals := [] }
  s.signals.foldl (fun e signal => e.publish s.id signal)
    { e with sessions := e.sessions.map fun old => if old.id = s.id then quiet else old }

def update (e : Engine) (sid : SessionId) (f : Session → Session) : Engine :=
  match e.session? sid with
  | none => e
  | some s => e.put (f s)

-- An operation on a session that can be refused. Then nothing changes.
def attempt (e : Engine) (sid : SessionId) (f : Session → Except Fault Session) :
    Except Fault Unit × Engine :=
  match e.session? sid with
  | none => (.error (.unknownSession sid), e)
  | some s =>
    match f s with
    | .ok s => (.ok (), e.put s)
    | .error fault => (.error fault, e)

def newTransport (e : Engine) : TransportId × Engine :=
  (e.transports, { e with transports := e.transports + 1 })

-- A session opens on a transport: its handshake is queued, then it is registered and announced.
def openSession (e : Engine) (revision : Revision) (transport : Transport) (now : Nat) :
    SessionId × Engine :=
  let sid := e.idOf e.sessions.length
  let s : Session := { id := sid, revision, config := e.config, transport, lastHeartbeat := now }
  let e := { e with sessions := e.sessions ++ [s], registry := e.registry ++ [sid] }
  let handshake := e.config.handshake sid revision transport.kind
  let e := e.update sid (·.start handshake.packet now)
  let e := e.publish sid (.meter (.opened transport.kind))
  (sid, e.publish sid (.event (.connection transport.kind)))

def openPolling (e : Engine) (revision : Revision) (now : Nat) : SessionId × Engine :=
  let (id, e) := e.newTransport
  e.openSession revision (.polling { id }) now

def unregister (e : Engine) (sid : SessionId) : Engine :=
  { e with registry := e.registry.filter (· ≠ sid) }

-- Lets a watch do what it has to at this instant. A watch that ends takes its session out of the
-- registry.
def runWatch (e : Engine) (w : Watch) (now : Nat) : Option Watch × Engine :=
  match e.session? w.sid with
  | none => (none, e)
  | some s =>
    match w.run s now with
    | (some w, s) => (some w, e.put s)
    | (none, s) => (none, (e.put s).unregister s.id)

-- Closes whatever session is registered at this moment.
def closeAll (e : Engine) (reason : CloseReason) : Engine :=
  e.registry.foldl (fun e sid => e.update sid (·.close reason)) e

end Engine

end Duplex
