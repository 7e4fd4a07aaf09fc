import Duplex.Session.Inbound
import Duplex.Session.Upgrade

-- What a websocket does for a session: first it may have to join it, then it carries it.

namespace Duplex

namespace Fault

def upgradeCut : Fault := .transportMismatch "upgrade transport closed before completing"

end Fault

-- What a client sends on a websocket. Control messages are answered below this level.
inductive Message where
  | frame (f : Frame)
  | control
  | close
  -- The connection broke.
  | failure
  deriving DecidableEq, Repr

namespace Message

def size : Message → Nat
  | frame (.text s) => s.utf8ByteSize
  | frame (.binary bytes) => bytes.length
  | control | close | failure => 0

-- A message that is too large breaks the connection.
def bounded (m : Message) (limit : Nat) : Message :=
  if limit < m.size then failure else m

end Message

inductive Role where
  | joining | carrying | finished
  deriving DecidableEq, Repr

namespace Session

-- A frame on a websocket that wants to join is the next step of its probe. Any mistake ends it.
def takeProbe (s : Session) (tid : TransportId) (f : Frame) : Role × Session :=
  match Frame.decode f s.revision with
  | .error e => (.finished, s.abortUpgrade tid (.decode e))
  | .ok p =>
    match s.probe tid p with
    | (.error fault, s) => (.finished, s.abortUpgrade tid fault)
    | (.ok .probed, s) => (.joining, s)
    | (.ok .upgraded, s) => (.carrying, s)

-- A frame on a websocket that carries the session.
def takeFrame (s : Session) (f : Frame) (now : Nat) : Session :=
  match Frame.decode f s.revision with
  | .ok p => s.resetDecodeErrors.receive p now
  | .error e => s.recordDecodeError e

def hear (s : Session) (tid : TransportId) (role : Role) (m : Message) (now : Nat) :
    Role × Session :=
  match role, m with
  | .finished, _ => (.finished, s)
  | role, .control => (role, s)
  | .joining, .frame f => s.takeProbe tid f
  | .joining, .close | .joining, .failure => (.finished, s.abortUpgrade tid .upgradeCut)
  | .carrying, .frame f => (.carrying, s.takeFrame f now)
  | .carrying, .close => (.finished, s.transportClosed tid .transportClose)
  | .carrying, .failure => (.finished, s.transportClosed tid .transportError)

-- A websocket did not manage to join in time.
def joinTimedOut (s : Session) (tid : TransportId) : Session :=
  s.abortUpgrade tid (.upgradeTimeout s.config.upgradeTimeout.toNat)

def frameOn? (tid : TransportId) : Delivery → Option Frame
  | .frame t f => if t = tid then some f else none
  | .answer _ _ | .hangUp _ => none

-- The frames that a websocket was given, in order.
def framesOn (s : Session) (tid : TransportId) : List Frame :=
  s.dispatched.filterMap (frameOn? tid)

end Session

end Duplex
