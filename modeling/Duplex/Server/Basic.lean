import Duplex.Echo
import Duplex.Engine
import Duplex.Http.Route
import Duplex.Session.Socket
import Duplex.Session.Upload

-- A server: an engine, the work that it has under way, the application that uses it, and a clock.

namespace Duplex

-- Requests are numbered from 1. A websocket's handshake is numbered 0, it is answered at once.
abbrev RequestId := Nat

namespace Server

-- What a request waits for.
inductive Work where
  | poll (sid : SessionId) (poll : PollId) (deadline : Nat)
  | upload (sid : SessionId) (body : Bytes)
  deriving DecidableEq, Repr

-- A request that is not answered yet. `extra` are the headers that hooks collected for it.
structure Exchange where
  id : RequestId
  extra : Http.Headers
  work : Work
  deriving DecidableEq, Repr

structure Connection where
  sid : SessionId
  transport : TransportId
  role : Role
  -- Until when the websocket must have joined.
  deadline : Nat
  -- The client broke off and sees nothing any more.
  lost : Bool := false
  deriving DecidableEq, Repr

-- What the application does with the sockets of new sessions.
inductive Application where
  | keeps | ignores | echoes
  deriving DecidableEq, Repr

-- The application's side of a session.
structure Socket where
  sid : SessionId
  progress : Echo.Progress := {}
  dropped : Bool := false
  deriving DecidableEq, Repr

end Server

structure Server where
  listener : Settings.Listener
  withMetrics : Bool := false
  hooks : List Http.Hook := []
  application : Server.Application := .keeps
  engine : Engine
  now : Nat := 0
  -- Connections are accepted. This ends when the server stops.
  listening : Bool := false
  stopping : Bool := false
  -- How many requests there were.
  requests : Nat := 0
  exchanges : List Server.Exchange := []
  -- Requests whose client still sends the body.
  sending : List RequestId := []
  -- All answers, in their order.
  responses : List (RequestId × Http.Response) := []
  -- The connection of a websocket stays in its place when it is over.
  connections : List Server.Connection := []
  -- The watch that fell asleep last comes last.
  watches : List Watch := []
  sockets : List Server.Socket := []
  -- The subscription of an observer, who always listens.
  observer : Option Nat := none
  -- All that the observer was told.
  journal : List Notice := []

namespace Server

-- A configuration has to be fit before there is a server.
def ofSettings (s : Settings) (idOf : Nat → SessionId) (eventCapacity : Nat) :
    Except Settings.Error Server :=
  match Configuration.ofSettings s with
  | .error e => .error e
  | .ok config =>
    .ok {
      listener := s.server
      engine := { config, idOf, bus := .ofCapacity eventCapacity } }

-- An observer is told of everything that happens from now on.
def observe (v : Server) : Server :=
  let (i, bus) := v.engine.bus.subscribe none
  { v with observer := some i, engine := { v.engine with bus } }

-- A server that stops accepts no connections any more.
def listen (v : Server) : Server :=
  { v with listening := !v.stopping }

def config (v : Server) : Configuration :=
  v.engine.config

def session? (v : Server) (sid : SessionId) : Option Session :=
  v.engine.session? sid

def put (v : Server) (s : Session) : Server :=
  { v with engine := v.engine.put s }

def update (v : Server) (sid : SessionId) (f : Session → Session) : Server :=
  { v with engine := v.engine.update sid f }

def attempt (v : Server) (sid : SessionId) (f : Session → Except Fault Session) :
    Except Fault Unit × Server :=
  let (result, engine) := v.engine.attempt sid f
  (result, { v with engine })

-- A new session gets a watch, and a socket if the application wants one.
def adopt (v : Server) (sid : SessionId) : Server :=
  match v.session? sid with
  | none => v
  | some s =>
    { v with
      watches := v.watches ++ [.ofSession s v.now]
      sockets := if v.application = .ignores then v.sockets else v.sockets ++ [{ sid }] }

-- A response with the headers of hooks and those for other origins.
def dress (v : Server) (extra : Http.Headers) (r : Http.Response) : Http.Response :=
  let r := { r with headers := r.headers.override extra }
  if v.listener.cors then r.shared else r

def exchange? (v : Server) (id : RequestId) : Option Exchange :=
  v.exchanges.find? (·.id = id)

def startExchange (v : Server) (x : Exchange) : Server :=
  { v with exchanges := v.exchanges ++ [x] }

def answer (v : Server) (id : RequestId) (r : Http.Response) : Server :=
  { v with responses := v.responses ++ [(id, r)] }

-- The request is answered and waits no longer.
def respond (v : Server) (x : Exchange) (r : Http.Response) : Server :=
  { v with exchanges := v.exchanges.filter (·.id ≠ x.id) }.answer x.id (v.dress x.extra r)

end Server

end Duplex
