import Duplex.Session.Closing

-- Watching over a session: a client that was silent for too long is given up, and in revision 4 the
-- server pings it now and then.

namespace Duplex

namespace Session

-- The client must have been heard before this instant.
def deadline (s : Session) : Nat :=
  s.lastHeartbeat + s.config.grace

def isOverdue (s : Session) (now : Nat) : Bool :=
  decide (s.deadline ≤ now)

def giveUp (s : Session) : Session :=
  (s.report .heartbeatTimeout).close .pingTimeout

-- A ping that the transport cannot carry is not sent.
def ping (s : Session) : Session :=
  match s.send .ping with
  | .ok s => s
  | .error _ => s

end Session

-- The watch sleeps until the next ping is due or until `wake`, whichever comes first. `wake` is
-- the deadline as it was when the watch fell asleep.
structure Watch where
  sid : SessionId
  nextPing : Nat
  wake : Nat
  deriving DecidableEq, Repr

namespace Watch

def interval (s : Session) : Nat :=
  s.config.pingInterval.toNat

def ofSession (s : Session) (now : Nat) : Watch :=
  { sid := s.id, nextPing := now + interval s, wake := s.deadline }

-- The instant that the watch sleeps to.
def due (w : Watch) (s : Session) : Nat :=
  if s.revision.serverPings then min w.nextPing w.wake else w.wake

def pingsAt (w : Watch) (s : Session) (now : Nat) : Bool :=
  s.revision.serverPings && decide (w.nextPing ≤ now)

-- Sends the ping that is due.
def ping (w : Watch) (s : Session) (now : Nat) : Watch × Session :=
  if w.pingsAt s now then
    let s' := s.ping
    ({ w with nextPing := w.nextPing + interval s, wake := s'.deadline }, s')
  else (w, s)

-- Looks at a session that may be overdue. A watch ends with its session.
def check (w : Watch) (s : Session) (now : Nat) : Option Watch × Session :=
  if now < w.wake then (some w, s)
  else if s.isOverdue now then (none, s.giveUp)
  else (some { w with wake := s.deadline }, s)

-- All that a watch does at one instant.
def run (w : Watch) (s : Session) (now : Nat) : Option Watch × Session :=
  if s.cancelled then (none, s)
  else
    let (w, s) := w.ping s now
    w.check s now

end Watch

end Duplex
