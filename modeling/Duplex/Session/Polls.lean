import Duplex.Session.Basic

-- Polls of a session. A poll is registered, then answered: by the next packets, or, once it waited
-- too long or the session closed, by what `releasePoll` leaves for it.

namespace Duplex

namespace Fault

def notPolling : Fault := .transportMismatch "session is not using polling"

def overlappingPoll : Fault := .transportMismatch "overlapping polling request"

end Fault

namespace Session

def registerPoll (s : Session) : Except Fault (PollId × Session) :=
  if !s.isLive then .error .sessionClosed
  else
    match s.transport with
    | .websocket _ => .error .notPolling
    | .polling t =>
      match t.register? s.polls with
      | none => .error .overlappingPoll
      | some t => .ok (s.polls, { s with transport := .polling t, polls := s.polls + 1 }.flush)

-- Whatever poll waits at this moment is answered with a packet that means nothing.
def releasePoll (s : Session) : Session :=
  s.withTransport s.transport.release

-- The client of a poll went away, or will after some more deliveries.
def setPollClient (s : Session) (poll : PollId) (client : Peer) : Session :=
  { s with transport := s.transport.setPollClient poll client }

def abandonPoll (s : Session) (poll : PollId) : Session :=
  s.setPollClient poll .gone

def answerIn? (poll : PollId) : Delivery → Option (List Packet)
  | .answer answered packets => if answered = poll then some packets else none
  | .frame _ _ | .hangUp _ => none

-- What a poll was answered with.
def answer? (s : Session) (poll : PollId) : Option (List Packet) :=
  s.dispatched.findSome? (answerIn? poll)

-- The answer to a poll that waits no longer, because its time is up or the session is over. What
-- waits in the session at this moment is released first.
def expirePoll (s : Session) (poll : PollId) : List Packet × Session :=
  let s := s.releasePoll
  ((s.answer? poll).getD [.noop], s)

section

variable (s : Session)

@[simp]
theorem transport_releasePoll : s.releasePoll.transport = s.transport.release.transport := rfl

@[simp]
theorem pending_releasePoll : s.releasePoll.pending = s.pending := rfl

@[simp]
theorem buffer_releasePoll : s.releasePoll.buffer = s.buffer := rfl

@[simp]
theorem dispatched_releasePoll :
    s.releasePoll.dispatched = s.dispatched ++ s.transport.release.delivered := rfl

@[simp]
theorem listening_releasePoll : s.releasePoll.listening = s.listening := rfl

end

end Session

end Duplex
