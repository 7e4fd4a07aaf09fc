import Duplex.Proofs.Transport.Takes
import Mathlib.Data.List.Induction

-- Whether a transport takes what it is sent just when it says that it is writable. A websocket
-- does. Polling does as well, unless a poll comes after the close: it is answered all the same.

namespace Duplex

-- What a transport says of itself is true: it takes all packets when it is writable, and otherwise
-- it gives all of them back.
def Truthful {τ : Type} (writable : Bool) (send : List Packet → Dispatch τ) : Prop :=
  ∀ packets, packets ≠ [] → (send packets).refused = if writable then none else some packets

-- What can happen to a transport. Only polling has polls, which can be released and whose clients
-- can go away, and only a websocket has a writer.
inductive Transport.Op where
  | register (poll : PollId)
  | abandon (poll : PollId)
  | send (packets : List Packet)
  | release
  | close
  | hangUp
  deriving DecidableEq, Repr

namespace Peer

@[simp]
theorem becomes_gone (p : Peer) : p.become .gone = .gone := by
  cases p <;> rfl

theorem eq_present {p : Peer} (settled : p.isSettled) (there : p.isThere) : p = present := by
  cases p with
  | present => rfl
  | leaving n => cases settled
  | gone => cases there

end Peer

namespace Polling

def perform (t : Polling) : Transport.Op → Polling
  | .register poll => (t.register? poll).getD t
  | .abandon poll => t.setClient poll .gone
  | .send packets => (t.send packets).transport
  | .release => t.release.transport
  | .close => t.close.transport
  | .hangUp => t

def run (t : Polling) (ops : List Transport.Op) : Polling :=
  ops.foldl perform t

-- A poll waits at a transport that was closed.
def Reopened (t : Polling) : Prop :=
  t.closed ∧ t.hasLivePoll

instance (t : Polling) : Decidable t.Reopened :=
  inferInstanceAs (Decidable (_ ∧ _))

-- No client is about to go away in the middle of a send.
def Settled (t : Polling) : Prop :=
  ∀ p, t.parked = some p → p.client.isSettled

section

variable {t : Polling}

theorem refused_send (settled : t.Settled) (packets : List Packet) :
    (t.send packets).refused = if t.hasLivePoll then none else some packets := by
  cases hp : t.parked with
  | none => simp [send, hasLivePoll, hp]
  | some p =>
    have there : t.hasLivePoll = p.client.take?.isSome := by
      rw [Peer.isSome_take? (settled p hp), hasLivePoll, hp]
      rfl
    rw [there]
    cases ht : p.client.take? <;> simp [send, hp, ht]

theorem settled_perform (settled : t.Settled) (op : Transport.Op) : (t.perform op).Settled := by
  cases op with
  | register poll =>
    cases h : t.register? poll with
    | none => simpa [perform, h] using settled
    | some t' =>
      obtain ⟨_, rfl⟩ := register?_eq_some h
      intro p hp
      simp only [perform, h, Option.getD_some, Option.some.injEq] at hp
      exact hp ▸ rfl
  | abandon poll =>
    intro p hp
    obtain ⟨p', hp', rfl⟩ := Option.map_eq_some_iff.mp hp
    split
    · simp only [Peer.becomes_gone]
      rfl
    · exact settled p' hp'
  | send packets =>
    intro p hp
    simp [perform] at hp
  | release =>
    intro p hp
    simp [perform, release] at hp
  | close =>
    simp only [perform, close]
    split
    · exact settled
    · intro p hp
      simp at hp
  | hangUp => exact settled

theorem settled_run (settled : t.Settled) (ops : List Transport.Op) : (t.run ops).Settled := by
  induction ops generalizing t with
  | nil => exact settled
  | cons op ops ih => exact ih (settled_perform settled op)

theorem truthful_iff (settled : t.Settled) : Truthful t.writable t.send ↔ ¬ t.Reopened := by
  constructor
  · rintro truthful ⟨closed, live⟩
    have refused := truthful [.noop] (List.cons_ne_nil _ _)
    rw [refused_send settled, writable, closed, live] at refused
    cases refused
  · intro shut packets _
    have same : t.writable = t.hasLivePoll := by
      cases closed : t.closed with
      | false => simp [writable, closed]
      | true => simpa [writable, closed, Reopened] using shut
    rw [refused_send settled, same]

theorem refused_of_closed (settled : t.Settled) (closed : t.closed) (shut : ¬ t.Reopened)
    (packets : List Packet) : (t.send packets).refused = some packets := by
  have free : t.hasLivePoll = false := Bool.eq_false_iff.mpr fun live => shut ⟨closed, live⟩
  rw [refused_send settled, free]
  rfl

-- A transport is closed by a close only.
theorem closed_perform {op : Transport.Op} (closed : (t.perform op).closed) :
    t.closed ∨ op = .close := by
  cases op with
  | register poll =>
    cases h : t.register? poll with
    | none => exact .inl (by simpa [perform, h] using closed)
    | some t' =>
      obtain ⟨_, rfl⟩ := register?_eq_some h
      exact .inl (by simpa [perform, h] using closed)
  | abandon | hangUp => exact .inl closed
  | send | release => exact .inl (by simpa [perform, release] using closed)
  | close => exact .inr rfl

-- And it has a poll again only when one comes.
theorem reopened_perform {op : Transport.Op} (reopened : (t.perform op).Reopened) :
    t.Reopened ∨ t.closed ∧ ∃ poll, op = .register poll := by
  obtain ⟨closed, live⟩ := reopened
  cases op with
  | register poll => exact .inr ⟨(closed_perform closed).resolve_right nofun, poll, rfl⟩
  | hangUp => exact .inl ⟨closed, live⟩
  | abandon poll =>
    refine .inl ⟨closed, ?_⟩
    simp only [perform, setClient, hasLivePoll] at live ⊢
    cases hp : t.parked with
    | none => simp [hp] at live
    | some p =>
      simp only [hp, Option.map_some, Option.any_some] at live ⊢
      split at live
      · rw [Peer.becomes_gone] at live
        cases live
      · exact live
  | send | release => simp [perform, release, hasLivePoll] at live
  | close =>
    simp only [perform, close] at live
    split at live
    · next shut => exact .inl ⟨shut, live⟩
    · simp [hasLivePoll] at live

theorem close_mem_of_closed {id : TransportId} {ops : List Transport.Op}
    (closed : (({ id } : Polling).run ops).closed) : .close ∈ ops := by
  induction ops using List.reverseRecOn with
  | nil => cases closed
  | append_singleton ops op ih =>
    rw [run, List.foldl_append] at closed
    obtain before | rfl := closed_perform closed
    · exact List.mem_append_left _ (ih before)
    · simp

theorem registered_of_reopened {id : TransportId} {ops : List Transport.Op}
    (reopened : (({ id } : Polling).run ops).Reopened) :
    ∃ before poll after, ops = before ++ .register poll :: after ∧ .close ∈ before := by
  induction ops using List.reverseRecOn with
  | nil => cases reopened.1
  | append_singleton ops op ih =>
    rw [run, List.foldl_append] at reopened
    obtain earlier | now := reopened_perform reopened
    · obtain ⟨before, poll, after, rfl, mem⟩ := ih earlier
      exact ⟨before, poll, after ++ [op], by simp, mem⟩
    · obtain ⟨closed, poll, rfl⟩ := now
      exact ⟨ops, poll, [], rfl, close_mem_of_closed closed⟩

end

end Polling

namespace Websocket

def perform (t : Websocket) : Transport.Op → Websocket
  | .send packets => (t.send packets).transport
  | .close => t.close.transport
  | .hangUp => t.setWriter t.id .gone
  | .register _ | .abandon _ | .release => t

def run (t : Websocket) (ops : List Transport.Op) : Websocket :=
  ops.foldl perform t

section

variable {t : Websocket}

theorem refused_send (settled : t.writer.isSettled) (packets : List Packet) :
    (t.send packets).refused = if t.writable then none else some packets := by
  cases w : t.writable with
  | false => simp [send, w]
  | true =>
    have there : t.writer.isThere := by
      rw [writable, Bool.and_eq_true] at w
      exact w.2
    simp [send, w, Peer.eq_present settled there, write_present]

theorem settled_perform (settled : t.writer.isSettled) (op : Transport.Op) :
    (t.perform op).writer.isSettled := by
  cases op with
  | register | abandon | release => exact settled
  | send packets =>
    simp only [perform, send]
    split
    · next w =>
      rw [writable, Bool.and_eq_true] at w
      rw [Peer.eq_present settled w.2, write_present]
      rfl
    · exact settled
  | close =>
    simp only [perform, close]
    split
    · exact settled
    · cases h : t.writer with
      | present => rfl
      | leaving n =>
        rw [h] at settled
        cases settled
      | gone => rfl
  | hangUp => simp [perform, setWriter, Peer.isSettled]

theorem settled_run (settled : t.writer.isSettled) (ops : List Transport.Op) :
    (t.run ops).writer.isSettled := by
  induction ops generalizing t with
  | nil => exact settled
  | cons op ops ih => exact ih (settled_perform settled op)

theorem truthful (settled : t.writer.isSettled) : Truthful t.writable t.send :=
  fun packets _ => refused_send settled packets

theorem refused_of_closed (closed : t.closed) (packets : List Packet) :
    (t.send packets).refused = some packets := by
  simp [send, writable, closed]

end

end Websocket

namespace Transport

def perform (t : Transport) : Op → Transport
  | .register poll =>
    match t with
    | polling t => polling ((t.register? poll).getD t)
    | websocket t => websocket t
  | .abandon poll => t.setPollClient poll .gone
  | .send packets => (t.send packets).transport
  | .release => t.release.transport
  | .close => t.close.transport
  | .hangUp => t.setWriter t.id .gone

def run (t : Transport) (ops : List Op) : Transport :=
  ops.foldl perform t

-- What carries a session does what the transport in it does.

theorem run_polling (t : Polling) (ops : List Op) : (polling t).run ops = polling (t.run ops) := by
  induction ops generalizing t with
  | nil => rfl
  | cons op ops ih =>
    have same : (polling t).perform op = polling (t.perform op) := by
      cases op <;> rfl
    exact (congrArg (·.run ops) same).trans (ih _)

theorem run_websocket (t : Websocket) (ops : List Op) :
    (websocket t).run ops = websocket (t.run ops) := by
  induction ops generalizing t with
  | nil => rfl
  | cons op ops ih =>
    have same : (websocket t).perform op = websocket (t.perform op) := by
      cases op <;> rfl
    exact (congrArg (·.run ops) same).trans (ih _)

-- Whatever happens to a transport, also to one that carries a session: a websocket takes everything
-- when it is writable, and gives everything back when it is not, as it is when it was closed.
-- Polling does just when no poll came after its close and waits still.
theorem run_truthful_iff (id : TransportId) (r : Revision) (ops : List Op) :
    let p := ({ id } : Polling).run ops
    let w := ({ id, revision := r } : Websocket).run ops
    let p' := (polling { id }).run ops
    let w' := (websocket { id, revision := r }).run ops
    ((Truthful p.writable p.send ↔ ¬ p.Reopened) ∧ (Truthful p'.writable p'.send ↔ ¬ p.Reopened)) ∧
      (¬ p.Reopened →
        (p.closed → ∀ packets, (p.send packets).refused = some packets) ∧
        (p'.isClosed → ∀ packets, (p'.send packets).refused = some packets)) ∧
      (p.Reopened →
        ∃ before poll after, ops = before ++ .register poll :: after ∧ .close ∈ before) ∧
      (Truthful w.writable w.send ∧ Truthful w'.writable w'.send) ∧
      (w.closed → ∀ packets, (w.send packets).refused = some packets) ∧
      (w'.isClosed → ∀ packets, (w'.send packets).refused = some packets) := by
  intro p w p' w'
  have free : ({ id } : Polling).Settled := fun _ parked => by cases parked
  have polls : p.Settled := Polling.settled_run free ops
  have writes : w.writer.isSettled := Websocket.settled_run rfl ops
  have carried : p' = polling p := run_polling _ ops
  have carried' : w' = websocket w := run_websocket _ ops
  rw [carried, carried']
  refine ⟨⟨Polling.truthful_iff polls, Polling.truthful_iff polls⟩, fun shut => ⟨?_, ?_⟩,
    Polling.registered_of_reopened, ⟨Websocket.truthful writes, Websocket.truthful writes⟩,
    Websocket.refused_of_closed, Websocket.refused_of_closed⟩
  · exact fun closed => Polling.refused_of_closed polls closed shut
  · exact fun closed => Polling.refused_of_closed polls closed shut

-- A poll takes the place of one whose client went away, and the close is its answer.
theorem run_truthful_iff_abandoned :
    let p := ({ id := 1 } : Polling).run [.register 0, .abandon 0, .register 1]
    let p' := p.perform .close
    (¬ p.Reopened ∧ p.writable ∧ Truthful p.writable p.send) ∧
      ¬ p'.Reopened ∧ p'.closed ∧
      ∀ packets, (p'.send packets).refused = some packets := by
  intro p p'
  have shut : ¬ p.Reopened := by decide
  have shut' : ¬ p'.Reopened := by decide
  have closed : p'.closed := by decide
  exact ⟨⟨shut, by decide, (run_truthful_iff 1 .v4 _).1.1.mpr shut⟩, shut', closed,
    ((run_truthful_iff 1 .v4 [.register 0, .abandon 0, .register 1, .close]).2.1 shut').1 closed⟩

-- A poll that comes after the close takes what the transport says nobody will.
theorem run_not_truthful_reopened :
    let p := ({ id := 1 } : Polling).run [.close, .register 0]
    (p.closed ∧ p.writable = false ∧ (p.send [.message (.text "a")]).refused = none) ∧
      ¬ ∀ ops, Truthful (({ id := 1 } : Polling).run ops).writable
        (({ id := 1 } : Polling).run ops).send := by
  intro p
  refine ⟨by decide, fun truthful => ?_⟩
  have refused := truthful [.close, .register 0] [.message (.text "a")] (List.cons_ne_nil _ _)
  revert refused
  decide

end Transport

end Duplex
