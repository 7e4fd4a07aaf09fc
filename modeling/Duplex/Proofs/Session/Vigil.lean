import Duplex.Proofs.Session.Heartbeat

-- A session that is watched over, as time passes: what is done to it, when its watch looks after it,
-- and when its client is heard.

namespace Duplex

-- How a watch can end: nothing was heard in time, or the session closed first.
inductive Vigil.Verdict where
  | timedOut | cancelled
  deriving DecidableEq, Repr

-- The end of a watch, with the session as it found it and as it left it.
structure Vigil.End where
  verdict : Vigil.Verdict
  instant : Nat
  found : Session
  left : Session

-- A session that is watched over, and the instants at which the watch sent a ping.
structure Vigil where
  session : Session
  watch : Watch
  now : Nat
  ended : Option Vigil.End := none
  pings : List Nat := []

namespace Vigil

-- Anything may be done to the session at any moment. The watch may look after it whenever it likes,
-- and it does before time goes on.
inductive Act where
  | operate (op : Session.Op)
  | look
  | tick

section

variable (v : Vigil)

-- The ping that a look at the session sends.
def pinged : List Nat :=
  if !v.session.cancelled && v.watch.pingsAt v.session v.now && v.session.accepts .ping then [v.now]
  else []

def verdict : Verdict :=
  if v.session.cancelled then .cancelled else .timedOut

-- The watch looks after the session, unless it has ended.
def look : Vigil :=
  match v.ended with
  | some _ => v
  | none =>
    let pings := v.pings ++ v.pinged
    match v.watch.run v.session v.now with
    | (some watch, session) => { v with session, watch, pings }
    | (none, session) =>
      let ended := { verdict := v.verdict, instant := v.now, found := v.session, left := session }
      { v with session, ended := some ended, pings }

def perform : Act → Vigil
  | .operate op => { v with session := v.session.perform (op.stamped v.now) }
  | .look => v.look
  | .tick => { v.look with now := v.now + 1 }

def run (acts : List Act) : Vigil :=
  acts.foldl perform v

-- Whether an operation closes the session.
def closes : Act → Bool
  | .operate op => v.session.isLive && !(v.session.perform (op.stamped v.now)).isLive
  | .look | .tick => false

end

-- When the client was heard in a run that begins now.
def beats (now : Nat) : List Act → List Nat
  | [] => []
  | .operate op :: acts => (if op.beats then [now] else []) ++ beats now acts
  | .look :: acts => beats now acts
  | .tick :: acts => beats (now + 1) acts

-- The last instant of a watch, or this one if it goes on.
def last (v : Vigil) : Nat :=
  (v.ended.map (·.instant)).getD v.now

end Vigil

namespace Session.Origin

variable (o : Origin)

-- A session that has just opened, and its watch.
def vigil : Vigil where
  session := o.session
  watch := .ofSession o.session o.now
  now := o.now

-- When the pings are due, counted from one.
def pingTime (k : Nat) : Nat :=
  o.now + k * o.config.pingInterval.toNat

theorem pingTime_succ (k : Nat) :
    o.pingTime (k + 1) = o.pingTime k + o.config.pingInterval.toNat := by
  rw [pingTime, pingTime, Nat.succ_mul, Nat.add_assoc]

end Session.Origin

namespace Vigil

-- The first of the instants that none other follows within the grace.
structure FirstSilence (grace : Nat) (beats : List Nat) (h : Nat) : Prop where
  mem : h ∈ beats
  silent : ∀ b ∈ beats, h < b → h + grace ≤ b
  first : ∀ b ∈ beats, b < h → ∃ b' ∈ beats, b < b' ∧ b' < b + grace

namespace FirstSilence

variable {grace h l b : Nat} {bs : List Nat}

theorem cons (f : FirstSilence grace (b :: bs) h) (le : l ≤ b) (soon : b < l + grace) (after : b ≤ h) :
    FirstSilence grace (l :: b :: bs) h where
  mem := List.mem_cons_of_mem _ f.mem
  silent := List.forall_mem_cons.mpr ⟨fun before => by omega, f.silent⟩
  first := by
    refine List.forall_mem_cons.mpr ⟨fun before => ?_, fun x mem before => ?_⟩
    · obtain same | gap := le.eq_or_lt
      · subst same
        obtain ⟨b', mem', bounds⟩ := f.first l List.mem_cons_self before
        exact ⟨b', List.mem_cons_of_mem _ mem', bounds⟩
      · exact ⟨b, by simp, gap, soon⟩
    · obtain ⟨b', mem', bounds⟩ := f.first x mem before
      exact ⟨b', List.mem_cons_of_mem _ mem', bounds⟩

theorem tail (f : FirstSilence grace (l :: b :: bs) h) (le : l ≤ b) (soon : b < l + grace)
    (sorted : ∀ x ∈ b :: bs, b ≤ x) : FirstSilence grace (b :: bs) h where
  mem := by
    cases f.mem with
    | head =>
      obtain same | gap := le.eq_or_lt
      · exact same ▸ List.mem_cons_self
      · exact absurd (f.silent b (by simp) gap) (Nat.not_le.mpr soon)
    | tail _ mem => exact mem
  silent x mem := f.silent x (List.mem_cons_of_mem _ mem)
  first x mem before := by
    obtain ⟨b', mem', after, bound⟩ := f.first x (List.mem_cons_of_mem _ mem) before
    cases mem' with
    | head => exact absurd (sorted x mem) (by omega)
    | tail _ mem' => exact ⟨b', mem', after, bound⟩

end FirstSilence

section

variable {v : Vigil} {e : End} {w : Watch} {s : Session}

theorem look_of_ended (ended : v.ended = some e) : v.look = v := by
  simp only [look, ended]

theorem look_of_some (goes : v.ended = none) (run : v.watch.run v.session v.now = (some w, s)) :
    v.look = { v with session := s, watch := w, pings := v.pings ++ v.pinged } := by
  simp only [look, goes, run]

theorem look_of_none (goes : v.ended = none) (run : v.watch.run v.session v.now = (none, s)) :
    v.look =
      { v with
        session := s
        ended := some { verdict := v.verdict, instant := v.now, found := v.session, left := s }
        pings := v.pings ++ v.pinged } := by
  simp only [look, goes, run]

-- A look changes the session as the watch does.
theorem session_look (v : Vigil) :
    v.look.session = v.session ∨ v.look.session = (v.watch.run v.session v.now).2 := by
  cases goes : v.ended with
  | some e => exact .inl (by rw [look_of_ended goes])
  | none =>
    right
    cases run : v.watch.run v.session v.now with
    | mk w s =>
      cases w with
      | some w => rw [look_of_some goes run]
      | none => rw [look_of_none goes run]

-- A look takes no time.
@[simp]
theorem now_look (v : Vigil) : v.look.now = v.now := by
  simp only [look]
  split
  · rfl
  · split <;> rfl

end

-- A session that a run of operations has led to.
def Reached (o : Session.Origin) (v : Vigil) : Prop :=
  ∃ ops, v.session = o.session.run ops

namespace Reached

variable {o : Session.Origin} {v : Vigil}

theorem valid (r : Reached o v) : v.session.Valid := by
  obtain ⟨ops, eq⟩ := r
  exact eq ▸ Session.valid_run o ops

theorem identity (r : Reached o v) : v.session.identity = o.identity := by
  obtain ⟨ops, eq⟩ := r
  rw [eq]
  exact (Session.run_changes o.session ops).identity.trans o.identity_session

theorem revision (r : Reached o v) : v.session.revision = o.revision :=
  congrArg (·.2.1) r.identity

theorem config (r : Reached o v) : v.session.config = o.config :=
  congrArg (·.2.2) r.identity

theorem cancelled (r : Reached o v) : v.session.cancelled = !v.session.isLive := by
  obtain ⟨ops, eq⟩ := r
  exact eq ▸ Session.cancelled_run o ops

theorem perform_session (r : Reached o v) (op : Session.Op) :
    ∃ ops, v.session.perform op = o.session.run ops := by
  obtain ⟨ops, eq⟩ := r
  exact ⟨ops ++ [op], by rw [Session.run_append, ← eq]; rfl⟩

theorem look (r : Reached o v) : Reached o v.look := by
  have stable : Session.Stable fun s => ∃ ops, s = o.session.run ops := fun s op _ h => by
    obtain ⟨ops, eq⟩ := h
    exact ⟨ops ++ [op], by rw [Session.run_append, ← eq]; rfl⟩
  obtain same | ran := v.session_look
  · rwa [Reached, same]
  · rw [Reached, ran]
    exact stable.watch r v.watch v.now

theorem perform (r : Reached o v) (a : Act) : Reached o (v.perform a) := by
  cases a with
  | operate op => exact r.perform_session _
  | look | tick => exact r.look

end Reached

section

variable {o : Session.Origin} {v : Vigil}

end

end Vigil

end Duplex
