import Duplex.Server.Clock

-- What the application does with a server and with its sockets.

namespace Duplex.Server

-- Why the application cannot reach a client: there was never such a session, or it holds no socket.
inductive Unreachable where
  | session
  | socket
  deriving DecidableEq, Repr

-- A handle outlives its socket and can send, but not receive.
def reach (v : Server) (sid : SessionId) (asHandle : Bool) :
    Except Unreachable (Socket × Session) :=
  match v.session? sid with
  | none => .error .session
  | some s =>
    match v.sockets.find? (·.sid = sid) with
    | none => .error .socket
    | some k =>
      if v.application = .keeps && (asHandle || !k.dropped) then .ok (k, s) else .error .socket

def setSocket (v : Server) (k : Socket) : Server :=
  { v with sockets := v.sockets.map fun old => if old.sid = k.sid then k else old }

-- The messages that wait for the application, and whether none can follow.
def takeMessages (v : Server) (k : Socket) (s : Session) : List Payload × Bool × Server :=
  (s.inbox.drop k.progress.taken, !s.listening,
    v.setSocket { k with progress := { k.progress with taken := s.inbox.length } })

-- The application lets a socket go, if it has one.
def dropSocket (v : Server) (sid : SessionId) : Bool × Server :=
  match v.reach sid false with
  | .ok (k, _) => (true, v.setSocket { k with dropped := true })
  | .error _ => (false, v)

-- One operation on a session, then everything runs to rest.
def act (v : Server) (sid : SessionId) (f : Session → Session) : Server :=
  (v.update sid f).settle

def tryTo (v : Server) (sid : SessionId) (f : Session → Except Fault Session) :
    Except Fault Unit × Server :=
  let (result, v) := v.attempt sid f
  (result, v.settle)

def send (v : Server) (sid : SessionId) (content : Payload) : Except Fault Unit × Server :=
  v.tryTo sid (·.send (.message content))

def closeAll (v : Server) (reason : CloseReason) : Server :=
  { v with engine := v.engine.closeAll reason }.settle

end Duplex.Server
