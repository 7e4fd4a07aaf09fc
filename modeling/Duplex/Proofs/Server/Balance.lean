import Duplex.Proofs.Server.Sessions
import Duplex.Proofs.Session.Ending
import Duplex.Proofs.Session.Tally

-- The metrics of an engine agree with its sessions: as many as live are counted as open, and as many
-- as were opened are counted as open or closed.

namespace Duplex

namespace Metrics

-- How many sessions were opened, were closed, and are open.
def balance (m : Metrics) : Nat × Nat × Int :=
  (m.opened, m.closed, m.active)

-- What is counted of a signal.
def take (m : Metrics) : Signal → Metrics
  | .meter x => m.record x
  | .event _ => m

variable {m m' : Metrics}

theorem balance_take_of_other {signal : Signal} (other : signal.isCount = false) :
    (m.take signal).balance = m.balance := by
  cases signal with
  | event e => rfl
  | meter x =>
    cases x with
    | opened | closed => cases other
    | upgraded | upgradeFailed | undecodable | sent | received => rfl

theorem balance_take_congr (same : m.balance = m'.balance) (signal : Signal) :
    (m.take signal).balance = (m'.take signal).balance := by
  simp only [balance, Prod.mk.injEq, opened] at same
  obtain ⟨total, closed_, active_⟩ := same
  cases signal with
  | event e => simp [take, balance, opened, total, closed_, active_]
  | meter x =>
    cases x with
    | opened kind =>
      cases kind <;> simp only [take, record, balance, opened, closed_, active_, Prod.mk.injEq,
        and_true] <;> omega
    | closed => simp [take, record, balance, opened, total, closed_, active_]
    | upgraded | upgradeFailed | undecodable | sent | received =>
      simp [take, record, balance, opened, total, closed_, active_]

theorem balance_foldl_congr (same : m.balance = m'.balance) (signals : List Signal) :
    (signals.foldl take m).balance = (signals.foldl take m').balance := by
  induction signals generalizing m m' with
  | nil => exact same
  | cons signal signals ih => exact ih (balance_take_congr same signal)

theorem balance_foldl (m : Metrics) (signals : List Signal) :
    (signals.foldl take m).balance = ((signals.filter Signal.isCount).foldl take m).balance := by
  induction signals generalizing m with
  | nil => rfl
  | cons signal signals ih =>
    cases counts : signal.isCount with
    | true => simpa [counts] using ih (m.take signal)
    | false =>
      rw [List.filter_cons_of_neg (by simp [counts]), List.foldl_cons, ← ih]
      exact balance_foldl_congr (balance_take_of_other counts) signals

end Metrics

namespace Engine

theorem metrics_publishAll (e : Engine) (sid : SessionId) (signals : List Signal) :
    (signals.foldl (fun e signal => e.publish sid signal) e).metrics =
      signals.foldl Metrics.take e.metrics := by
  induction signals generalizing e with
  | nil => rfl
  | cons signal signals ih =>
    have taken : (e.publish sid signal).metrics = e.metrics.take signal := by cases signal <;> rfl
    rw [List.foldl_cons, ih, taken, List.foldl_cons]

theorem metrics_put (e : Engine) (s : Session) :
    (e.put s).metrics = s.signals.foldl Metrics.take e.metrics :=
  metrics_publishAll _ s.id s.signals

section

variable {P : Session → Prop} {e : Engine} {sid : SessionId} {s s' : Session}

-- A session that is taken back takes the place that it had.
theorem Holds.exists_split (h : e.Holds P) (found : e.session? sid = some s) (id : s'.id = sid) :
    ∃ before after, e.sessions = before ++ s :: after ∧
      (e.put s').sessions = before ++ { s' with signals := [] } :: after := by
  obtain ⟨before, after, split⟩ := List.append_of_mem (mem_of_session? found)
  have same : s.id = s'.id := (id_of_session? found).trans id.symm
  have nodup := h.nodup
  rw [split, List.map_append, List.map_cons, List.nodup_append] at nodup
  obtain ⟨_, rest, apart⟩ := nodup
  have others (xs : List Session) (other : ∀ x ∈ xs, x.id ≠ s.id) :
      (xs.map fun old => if old.id = s'.id then { s' with signals := [] } else old) = xs :=
    (List.map_congr_left fun x mem => if_neg (same ▸ other x mem)).trans (List.map_id _)
  refine ⟨before, after, split, ?_⟩
  rw [sessions_put, split, List.map_append, List.map_cons, others before ?_, others after ?_,
    if_pos same]
  · exact fun x mem same => (List.nodup_cons.mp rest).1 (same ▸ List.mem_map_of_mem mem)
  · exact fun x mem same => apart _ (List.mem_map_of_mem mem) _ List.mem_cons_self same

end

-- What was counted agrees with the sessions. They have nothing more to say.
structure Balanced (e : Engine) : Prop where
  quiet : ∀ s ∈ e.sessions, s.signals = []
  opened : e.metrics.opened = e.sessions.length
  closed : e.metrics.closed = e.sessions.countP (!·.isLive)
  active : e.metrics.active = e.sessions.countP (·.isLive)

namespace Balanced

variable {P : Session → Prop} {e e' : Engine} {sid : SessionId} {s s' : Session}

theorem of_balance (quiet : ∀ s ∈ e.sessions, s.signals = [])
    (balance : e.metrics.balance =
      (e.sessions.length, e.sessions.countP (!·.isLive), (e.sessions.countP (·.isLive) : Int))) :
    e.Balanced := by
  simp only [Metrics.balance, Prod.mk.injEq] at balance
  exact ⟨quiet, balance.1, balance.2.1, balance.2.2⟩

theorem balance (b : e.Balanced) :
    e.metrics.balance =
      (e.sessions.length, e.sessions.countP (!·.isLive), (e.sessions.countP (·.isLive) : Int)) := by
  simp only [Metrics.balance, b.opened, b.closed, b.active]

theorem of_eq (b : e.Balanced) (sessions : e'.sessions = e.sessions)
    (metrics : e'.metrics = e.metrics) : e'.Balanced :=
  ⟨sessions ▸ b.quiet, by rw [sessions, metrics, b.opened], by rw [sessions, metrics, b.closed],
    by rw [sessions, metrics, b.active]⟩

theorem put (b : e.Balanced) (h : e.Holds P) (found : e.session? sid = some s) (id : s'.id = sid)
    (counts : Session.Counts s s') : (e.put s').Balanced := by
  have said : s.tally = [] := by
    rw [Session.tally, b.quiet s (mem_of_session? found)]
    rfl
  have before := b.balance
  obtain ⟨front, back, split, after⟩ := h.exists_split found id
  have quiet : ∀ t ∈ (e.put s').sessions, t.signals = [] := by
    have old := b.quiet
    rw [split, List.forall_mem_append, List.forall_mem_cons] at old
    rw [after, List.forall_mem_append, List.forall_mem_cons]
    exact ⟨old.1, rfl, old.2.2⟩
  refine of_balance quiet ?_
  rw [metrics_put, Metrics.balance_foldl, after]
  rw [split] at before
  have same : ({ s' with signals := [] } : Session).isLive = s'.isLive := rfl
  simp only [List.length_append, List.length_cons, List.countP_append, List.countP_cons, same]
    at before ⊢
  cases counts with
  | stays tally live =>
    have nothing : s'.signals.filter Signal.isCount = [] := tally.trans said
    rw [nothing, live]
    exact before
  | closes live dead tally =>
    have once : s'.signals.filter Signal.isCount = [.meter .closed] := by
      rw [said] at tally
      exact tally
    simp only [live, Bool.not_true, Bool.false_eq_true, ↓reduceIte] at before
    simp only [Metrics.balance, Prod.mk.injEq] at before
    simp only [once, dead, List.foldl_cons, List.foldl_nil, Metrics.take, Metrics.record,
      Metrics.balance, Bool.not_false, ↓reduceIte, Bool.false_eq_true, Prod.mk.injEq]
    refine ⟨before.1, ?_, ?_⟩
    · rw [before.2.1]
      omega
    · rw [before.2.2]
      push_cast
      omega

-- A session that opens is one more that is open.
theorem openSession (b : e.Balanced) (h : e.Holds P) (revision : Revision) (tid : TransportId)
    (writer? : Option Peer) (now : Nat) :
    (e.openSession revision (e.origin revision tid writer? now).transport now).2.Balanced := by
  let o := e.origin revision tid writer? now
  obtain ⟨_, _, _, eq⟩ := h.openSession_eq revision tid writer? now
  obtain ⟨s, live, quiet, sessions⟩ : ∃ s : Session, s.isLive ∧ s.signals = [] ∧
      (e.openSession revision o.transport now).2.sessions = e.sessions ++ [s] :=
    ⟨{ o.session with signals := [] }, o.isLive_session, rfl, congrArg Engine.sessions eq⟩
  have counts : (o.session.signals ++ [Signal.meter (.opened o.transport.kind),
      .event (.connection o.transport.kind)]).filter Signal.isCount =
        [.meter (.opened o.transport.kind)] := by
    have silent : o.session.signals.filter Signal.isCount = [] := o.tally_session
    rw [List.filter_append, silent]
    rfl
  have balance := b.balance
  simp only [Metrics.balance, Prod.mk.injEq, Metrics.opened] at balance
  obtain ⟨opened, closed, active⟩ := balance
  refine of_balance ?_ ?_
  · rw [sessions]
    exact List.forall_mem_append.mpr ⟨b.quiet, by simp [quiet]⟩
  · rw [sessions, h.openSession_publish revision tid writer? now, metrics_publishAll,
      Metrics.balance_foldl, counts]
    cases o.transport.kind <;>
      simp [Metrics.take, Metrics.record, Metrics.balance, Metrics.opened, live, closed, active] <;>
      omega

end Balanced

end Engine

end Duplex
