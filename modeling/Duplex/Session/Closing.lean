import Duplex.Session.Basic

-- The end of a session.

namespace Duplex.Session

-- A websocket that will not take over is told to hang up.
def dropPending (s : Session) : Session :=
  match s.pending with
  | none => s
  | some p => { s with pending := none }.handOver p.transport.close.delivered

-- Packets that still wait are dropped, and all transports are closed.
def shut (s : Session) : Session :=
  let s := { s.enter .closing with buffer := [] }.dropPending
  (s.withTransport s.transport.close).enter .closed

-- A session closes once, later calls find nothing to close.
def close (s : Session) (reason : CloseReason) : Session :=
  if !s.isLive then s
  else ({ s.shut with listening := false, cancelled := true }.meter .closed).announce (.close reason)

section

variable (s : Session)

@[simp]
theorem identity_dropPending : s.dropPending.identity = s.identity := by
  simp only [dropPending]
  split <;> rfl

@[simp]
theorem state_dropPending : s.dropPending.state = s.state := by
  simp only [dropPending]
  split <;> rfl

@[simp]
theorem transport_dropPending : s.dropPending.transport = s.transport := by
  simp only [dropPending]
  split <;> rfl

@[simp]
theorem pending_dropPending : s.dropPending.pending = none := by
  simp only [dropPending]
  split
  · assumption
  · rfl

@[simp]
theorem buffer_dropPending : s.dropPending.buffer = s.buffer := by
  simp only [dropPending]
  split <;> rfl

theorem dispatched_dropPending :
    s.dropPending.dispatched =
      s.dispatched ++ (s.pending.map (·.transport.close.delivered)).getD [] := by
  simp only [dropPending]
  split
  · next h => simp [h]
  · next h => simp [h, handOver]

@[simp]
theorem listening_dropPending : s.dropPending.listening = s.listening := by
  simp only [dropPending]
  split <;> rfl

@[simp]
theorem cancelled_dropPending : s.dropPending.cancelled = s.cancelled := by
  simp only [dropPending]
  split <;> rfl

end

-- Of a session that was shut nothing is left but what it has handed over.

section

variable (s : Session)

@[simp]
theorem identity_shut : s.shut.identity = s.identity := by
  simp only [shut, identity_enter, identity_withTransport, identity_dropPending]
  exact s.identity_enter .closing

@[simp]
theorem state_shut : s.shut.state = .closed := by
  simp [shut]

@[simp]
theorem transport_shut : s.shut.transport = s.transport.close.transport := by
  simp [shut, withTransport, handOver]

@[simp]
theorem pending_shut : s.shut.pending = none := by
  simp [shut, withTransport, handOver]

@[simp]
theorem buffer_shut : s.shut.buffer = [] := by
  simp [shut, withTransport, handOver]

end

theorem close_of_live {s : Session} (reason : CloseReason) (h : s.isLive) :
    ∃ signals, s.close reason =
      { s.shut with listening := false, cancelled := true, signals } := by
  simp only [close, h, Bool.not_true, Bool.false_eq_true, ↓reduceIte]
  exact ⟨_, rfl⟩

theorem close_of_not_live {s : Session} (reason : CloseReason) (h : s.isLive = false) :
    s.close reason = s := by
  simp [close, h]

theorem state_close {s : Session} (reason : CloseReason) (h : s.isLive) :
    (s.close reason).state = .closed := by
  have ⟨_, eq⟩ := close_of_live reason h
  rw [eq]
  exact s.state_shut

@[simp]
theorem identity_close (s : Session) (reason : CloseReason) :
    (s.close reason).identity = s.identity := by
  cases h : s.isLive
  · rw [close_of_not_live reason h]
  · have ⟨_, eq⟩ := close_of_live reason h
    rw [eq]
    exact s.identity_shut

@[simp]
theorem isLive_close (s : Session) (reason : CloseReason) : (s.close reason).isLive = false := by
  cases h : s.isLive
  · rw [close_of_not_live reason h, h]
  · simp [isLive, state_close reason h, ReadyState.isLive]

end Duplex.Session
