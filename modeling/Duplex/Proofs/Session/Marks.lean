import Duplex.Proofs.Session.Change

-- What a session notes of its client: when it was last heard, and how many of its inputs in a row
-- could not be decoded. Whatever else happens to a session leaves both alone.

namespace Duplex.Session

def marks (s : Session) : Nat × UInt32 :=
  (s.lastHeartbeat, s.decodeErrors)

section

variable (s : Session)

@[simp]
theorem marks_enter (state : ReadyState) : (s.enter state).marks = s.marks := by
  simp only [enter]
  split <;> rfl

@[simp]
theorem marks_flush : s.flush.marks = s.marks := by
  obtain ⟨_, _, _, _, eq⟩ := s.flush_eq
  rw [eq]
  rfl

@[simp]
theorem marks_dropPending : s.dropPending.marks = s.marks := by
  simp only [dropPending]
  split <;> rfl

@[simp]
theorem marks_withTransport (d : Dispatch Transport) : (s.withTransport d).marks = s.marks := rfl

@[simp]
theorem marks_shut : s.shut.marks = s.marks := by
  simp only [shut, marks_enter, marks_withTransport, marks_dropPending]
  exact s.marks_enter .closing

@[simp]
theorem marks_close (reason : CloseReason) : (s.close reason).marks = s.marks := by
  cases live : s.isLive with
  | false => rw [close_of_not_live reason live]
  | true =>
    obtain ⟨_, eq⟩ := close_of_live reason live
    rw [eq]
    exact s.marks_shut

@[simp]
theorem marks_completeUpgrade (t : Websocket) : (s.completeUpgrade t).marks = s.marks := by
  obtain ⟨_, eq⟩ := s.completeUpgrade_eq t
  have swapped : (s.swap t).marks = s.marks := by
    simp only [swap, marks_enter]
    rfl
  rw [eq]
  exact (marks_flush _).trans swapped

@[simp]
theorem marks_abortUpgrade (tid : TransportId) (f : Fault) :
    (s.abortUpgrade tid f).marks = s.marks := by
  have stayed : s.stay.marks = s.marks := by
    simp only [stay]
    split <;> simp
  simp only [abortUpgrade]
  split
  · rfl
  · exact (marks_flush _).trans stayed

theorem marks_send (p : Packet) : ((s.send p).toOption.getD s).marks = s.marks := by
  cases sent : s.send p with
  | error f => rfl
  | ok s' =>
    obtain ⟨_, _, eq⟩ := send_eq_ok sent
    rw [eq]
    exact marks_flush _

theorem marks_registerPoll : (s.perform .registerPoll).marks = s.marks := by
  cases registered : s.registerPoll with
  | error f => rw [perform_registerPoll_of_error registered]
  | ok done =>
    obtain ⟨_, _, _, _, _, _, eq⟩ := registerPoll_eq_ok registered
    rw [perform_registerPoll registered, eq]
    exact marks_flush _

theorem marks_recordDecodeError (e : DecodeError) :
    (s.recordDecodeError e).marks = (s.lastHeartbeat, s.decodeErrors + 1) := by
  simp only [recordDecodeError]
  split
  · exact marks_close _ _
  · rfl

theorem marks_beginUpgrade (t : Websocket) : (s.beginUpgrade t).2.marks = s.marks := by
  simp only [beginUpgrade]
  split
  · rfl
  · exact marks_enter _ _

theorem marks_probe (tid : TransportId) (p : Packet) : (s.probe tid p).2.marks = s.marks := by
  simp only [probe]
  split
  · rfl
  · split
    · split <;> rfl
    · split
      · exact marks_completeUpgrade _ _
      · rfl

theorem marks_transportClosed (tid : TransportId) (reason : CloseReason) :
    (s.transportClosed tid reason).marks = s.marks := by
  simp only [transportClosed]
  split <;> simp

end

namespace Op

-- When an operation hears the client.
def hears? : Op → Option Nat
  | receive p now => if p.kind = .ping ∨ p.kind = .pong then some now else none
  | heartbeat now => some now
  | _ => none

-- The count of undecodable inputs after an operation.
def recount (n : UInt32) : Op → UInt32
  | recordDecodeError _ | countDecodeError _ => n + 1
  | resetDecodeErrors => 0
  | _ => n

end Op

theorem marks_receive (s : Session) (p : Packet) (now : Nat) :
    (s.receive p now).marks = ((Op.receive p now).hears?.getD s.lastHeartbeat, s.decodeErrors) := by
  simp only [receive, Op.hears?]
  cases p.kind with
  | ping =>
    rw [answerPing_eq]
    exact marks_send _ _
  | pong => rfl
  | message =>
    simp only [takeIn]
    split <;> rfl
  | close => exact marks_close _ _
  | handshake | upgrade | noop => rfl

theorem marks_perform (s : Session) (op : Op) :
    (s.perform op).marks = (op.hears?.getD s.lastHeartbeat, op.recount s.decodeErrors) := by
  cases op with
  | receive p now => exact s.marks_receive p now
  | recordDecodeError e => exact s.marks_recordDecodeError e
  | send p => exact s.marks_send p
  | registerPoll => exact s.marks_registerPoll
  | beginUpgrade => exact s.marks_beginUpgrade _
  | probe tid p => exact s.marks_probe tid p
  | abortUpgrade tid f => exact s.marks_abortUpgrade tid f
  | transportClosed tid reason => exact s.marks_transportClosed tid reason
  | close reason => exact s.marks_close reason
  | heartbeat | countDecodeError | resetDecodeErrors | expirePoll | setPollClient | report |
    setWriter | passOn => rfl

end Duplex.Session
