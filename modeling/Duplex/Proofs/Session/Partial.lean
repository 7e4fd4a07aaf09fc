import Duplex.Proofs.Session.Flush
import Mathlib.Data.List.Forall2

-- A flush that is broken off: whoever takes packets goes away after some of them. Those are gone,
-- the rest still waits, and nothing is lost between the two.

namespace Duplex

namespace Peer

-- How many of so many deliveries a peer takes.
def accepts : Peer → Nat → Nat
  | present, n => n
  | leaving k, n => min k n
  | gone, _ => 0

theorem accepts_zero (p : Peer) : p.accepts 0 = 0 := by
  cases p with
  | present | gone => rfl
  | leaving k => exact Nat.min_zero k

theorem accepts_of_take?_none {p : Peer} (h : p.take? = none) (n : Nat) : p.accepts n = 0 := by
  cases p with
  | present => cases h
  | leaving k =>
    cases k with
    | zero => exact Nat.zero_min n
    | succ k => cases h
  | gone => rfl

theorem accepts_succ_of_take? {p p' : Peer} (h : p.take? = some p') (n : Nat) :
    p.accepts (n + 1) = p'.accepts n + 1 := by
  cases p with
  | present =>
    cases h
    rfl
  | leaving k =>
    cases k with
    | zero => cases h
    | succ k =>
      cases h
      exact Nat.succ_min_succ k n
  | gone => cases h

end Peer

-- How many of so many packets a transport takes: a websocket those that its writer takes, and
-- polling all of them or none.

def Websocket.accepts (t : Websocket) (n : Nat) : Nat :=
  if t.closed then 0 else t.writer.accepts n

def Polling.accepts (t : Polling) (n : Nat) : Nat :=
  if t.closed then 0 else t.parked.elim 0 fun p => p.client.accepts 1 * n

-- A delivery to a websocket's writer is the frame of a packet.
def Websocket.Frames (t : Websocket) (p : Packet) (d : Delivery) : Prop :=
  ∃ f, Frame.encode p t.revision = .ok f ∧ d = .frame t.id f

namespace Websocket

theorem write_of_formed {r : Revision} {packets : List Packet}
    (formed : ∀ p ∈ packets, ∃ f, Frame.encode p r = .ok f) (writer : Peer) :
    packets.take (writer.accepts packets.length) ++ (write r writer packets).refused.getD [] =
        packets ∧
      List.Forall₂ (fun p f => Frame.encode p r = .ok f)
        (packets.take (writer.accepts packets.length)) (write r writer packets).frames := by
  induction packets generalizing writer with
  | nil => simp [write]
  | cons p ps ih =>
    obtain ⟨f, form⟩ := formed p List.mem_cons_self
    simp only [write, form]
    cases taking : writer.take? with
    | none => simp [Peer.accepts_of_take?_none taking]
    | some writer' =>
      obtain ⟨split, frames⟩ := ih (fun p mem => formed p (List.mem_cons_of_mem _ mem)) writer'
      rw [List.length_cons, Peer.accepts_succ_of_take? taking, List.take_succ_cons]
      exact ⟨congrArg (p :: ·) split, .cons form frames⟩

theorem accepts_of_not_writable {t : Websocket} (h : t.writable = false) (n : Nat) :
    t.accepts n = 0 := by
  rw [accepts]
  split
  · rfl
  · next opened =>
    cases w : t.writer with
    | present | leaving => simp [writable, opened, w, Peer.isThere] at h
    | gone => rfl

theorem send_of_formed (t : Websocket) {packets : List Packet}
    (formed : ∀ p ∈ packets, ∃ f, Frame.encode p t.revision = .ok f) :
    packets.take (t.accepts packets.length) ++ (t.send packets).refused.getD [] = packets ∧
      List.Forall₂ t.Frames (packets.take (t.accepts packets.length)) (t.send packets).delivered := by
  cases w : t.writable with
  | false => simp [send, w, accepts_of_not_writable w]
  | true =>
    have opened : t.closed = false := by
      rw [writable, Bool.and_eq_true, Bool.not_eq_true'] at w
      exact w.1
    obtain ⟨split, frames⟩ := write_of_formed formed t.writer
    simp only [send, w, accepts, opened]
    exact ⟨split, List.forall₂_map_right_iff.mpr (frames.imp fun _ f form => ⟨f, form, rfl⟩)⟩

end Websocket

namespace Polling

-- The packets that a poll takes are its answer.
def Answers (t : Polling) (packets : List Packet) (moved : List Delivery) : Prop :=
  if packets = [] then moved = []
  else ∃ p, t.parked = some p ∧ moved = [.answer p.poll packets]

theorem accepts_of_not_writable {t : Polling} (h : t.writable = false) (n : Nat) :
    t.accepts n = 0 := by
  rw [accepts]
  split
  · rfl
  · next opened =>
    cases hp : t.parked with
    | none => rfl
    | some p =>
      have left : p.client.isThere = false := by
        simpa [writable, opened, hasLivePoll, hp] using h
      have refuses : p.client.take? = none := by
        cases hc : p.client <;> simp_all [Peer.isThere, Peer.take?]
      simp [Peer.accepts_of_take?_none refuses]

theorem send_answers {t : Polling} (opened : t.closed = false) {packets : List Packet}
    (ne : packets ≠ []) :
    packets.take (t.accepts packets.length) ++ (t.send packets).refused.getD [] = packets ∧
      t.Answers (packets.take (t.accepts packets.length)) (t.send packets).delivered := by
  cases hp : t.parked with
  | none => simp [send, hp, accepts, opened, Answers]
  | some p =>
    cases taking : p.client.take? with
    | none =>
      simp [send, hp, taking, accepts, opened, Answers, Peer.accepts_of_take?_none taking]
    | some client =>
      have all : t.accepts packets.length = packets.length := by
        have one := Peer.accepts_succ_of_take? taking 0
        rw [Peer.accepts_zero] at one
        simp [accepts, opened, hp, one]
      rw [all, List.take_length]
      simp [send, hp, taking, Answers, ne]

end Polling

namespace Session

section

variable {s : Session}

-- What a flush makes of a session is what its transport makes of the buffer.
theorem flush_splits_of_send {taken : List Packet} {P : List Delivery → Prop}
    (idle : s.buffer = [] ∨ s.transport.writable = false → taken = [] ∧ P [])
    (sent : s.buffer ≠ [] → s.transport.writable →
      taken ++ (s.transport.send s.buffer).refused.getD [] = s.buffer ∧
        P (s.transport.send s.buffer).delivered) :
    taken ++ s.flush.buffer = s.buffer ∧
      ∃ moved, s.flush.dispatched = s.dispatched ++ moved ∧ P moved := by
  by_cases ne : s.buffer = []
  · obtain ⟨rfl, none_⟩ := idle (.inl ne)
    rw [flush_of_buffer_nil ne]
    exact ⟨rfl, [], by simp, none_⟩
  · cases w : s.transport.writable with
    | false =>
      obtain ⟨rfl, none_⟩ := idle (.inr w)
      rw [flush_of_not_writable w]
      exact ⟨rfl, [], by simp, none_⟩
    | true =>
      obtain ⟨signals, eq⟩ := flush_of_writable ne w
      rw [eq]
      exact ⟨(sent ne w).1, _, rfl, (sent ne w).2⟩

-- However many packets the writer of a websocket takes before it refuses one, and whether or not
-- the client of a poll goes away before it is answered: what was taken and then what waits are the
-- packets that waited, in their order. What was taken was handed over, as one frame for each packet
-- or as one answer.
theorem flush_splits (s : Session) :
    (∀ t, s.transport = .websocket t →
      (∀ p ∈ s.buffer, ∃ f, Frame.encode p t.revision = .ok f) →
      let taken := s.buffer.take (t.accepts s.buffer.length)
      taken ++ s.flush.buffer = s.buffer ∧
        ∃ moved, s.flush.dispatched = s.dispatched ++ moved ∧ List.Forall₂ t.Frames taken moved) ∧
    (∀ t, s.transport = .polling t →
      let taken := s.buffer.take (t.accepts s.buffer.length)
      taken ++ s.flush.buffer = s.buffer ∧
        ∃ moved, s.flush.dispatched = s.dispatched ++ moved ∧ t.Answers taken moved) := by
  constructor
  · intro t carried formed taken
    refine flush_splits_of_send ?_ ?_
    · rintro (empty | refuses)
      · simp [taken, empty]
      · rw [carried] at refuses
        simp [taken, Websocket.accepts_of_not_writable refuses]
    · intro _ _
      rw [carried]
      exact t.send_of_formed formed
  · intro t carried taken
    refine flush_splits_of_send ?_ ?_
    · rintro (empty | refuses)
      · simp [taken, empty, Polling.Answers]
      · rw [carried] at refuses
        simp [taken, Polling.accepts_of_not_writable refuses, Polling.Answers]
    · intro ne w
      rw [carried] at w ⊢
      have opened : t.closed = false := by
        rw [Transport.writable, Polling.writable, Bool.and_eq_true, Bool.not_eq_true'] at w
        exact w.1
      exact Polling.send_answers opened ne

-- Two packets wait for what carries the session.
def two (transport : Transport) : Session :=
  { id := "sid", revision := .v4, config := {}, transport, lastHeartbeat := 0
    buffer := [.message (.text "a"), .message (.text "b")] }

-- The writer goes away after one frame, and the client of the poll before its answer.
theorem flush_splits_left :
    let w : Websocket := { id := 1, revision := .v4, writer := .leaving 1 }
    let t : Polling := { id := 1, parked := some { poll := 0, client := .leaving 0 } }
    (w.writable ∧ t.writable) ∧
      (two (.websocket w)).flush.buffer = [.message (.text "b")] ∧
      (two (.polling t)).flush.buffer = [.message (.text "a"), .message (.text "b")] := by
  intro w t
  have formed : ∀ p ∈ (two (.websocket w)).buffer, ∃ f, Frame.encode p w.revision = .ok f := by
    simp only [two, List.forall_mem_cons, List.not_mem_nil, false_imp_iff, implies_true, and_true]
    exact ⟨⟨_, rfl⟩, _, rfl⟩
  have written := ((flush_splits (two (.websocket w))).1 w rfl formed).1
  have answered := ((flush_splits (two (.polling t))).2 t rfl).1
  exact ⟨⟨rfl, rfl⟩, (List.cons.inj written).2, answered⟩

end

end Session

end Duplex
