import Mathlib.Data.List.Induction
import Duplex.Proofs.Session.Lifetime
import Duplex.Proofs.Session.Marks

-- How many undecodable inputs a client may send. A session counts those that come in a row. The
-- first that is more than its configuration allows closes it, and no earlier one does.

namespace Duplex

namespace Session

namespace Op

-- Whether an operation records an input that could not be decoded.
def misreads : Op → Bool
  | recordDecodeError _ | countDecodeError _ => true
  | _ => false

def resets : Op → Bool
  | resetDecodeErrors => true
  | _ => false

-- A decode error is counted and judged in one call. To count alone is half of it.
def isWhole : Op → Bool
  | countDecodeError _ => false
  | _ => true

end Op

-- How many inputs were undecodable since the count was last reset, or since the session opened.
def misreads (ops : List Op) : Nat :=
  (ops.reverse.takeWhile fun op => !op.resets).countP Op.misreads

theorem misreads_append_singleton (ops : List Op) (op : Op) :
    misreads (ops ++ [op]) =
      if op.resets then 0 else misreads ops + if op.misreads then 1 else 0 := by
  simp only [misreads, List.reverse_append, List.reverse_singleton, List.singleton_append,
    List.takeWhile_cons]
  cases op.resets with
  | true => rfl
  | false => simp [List.countP_cons]

-- What a session counts is this number, as far as its word goes.

theorem Op.recount_eq (op : Op) (n : UInt32) :
    op.recount n = if op.resets then 0 else n + if op.misreads then 1 else 0 := by
  cases op with
  | recordDecodeError | countDecodeError | resetDecodeErrors => rfl
  | _ => exact n.add_zero.symm

theorem Origin.marks_session (o : Origin) : o.session.marks = (o.now, 0) :=
  (marks_flush _).trans (marks_enter _ _)

theorem toNat_decodeErrors (o : Origin) (ops : List Op) :
    (o.session.run ops).decodeErrors.toNat = misreads ops % UInt32.size := by
  induction ops using List.reverseRecOn with
  | nil => exact congrArg (UInt32.toNat ·.2) o.marks_session
  | append_singleton ops op ih =>
    have counted : ((o.session.run ops).perform op).decodeErrors = _ :=
      (congrArg Prod.snd ((o.session.run ops).marks_perform op)).trans (op.recount_eq _)
    rw [run_append, run_cons, run_nil, counted, misreads_append_singleton]
    cases op.resets with
    | true => rfl
    | false =>
      simp only [Bool.false_eq_true, ↓reduceIte, UInt32.toNat_add, ih]
      cases op.misreads <;> exact Nat.mod_add_mod ..

-- A session lives on after an operation that does not ask it to close.
theorem isLive_perform {s : Session} (v : s.Valid) (live : s.isLive) {op : Op}
    (stays : op.closing? s = none) : (s.perform op).isLive := by
  by_cases passes : op = .passOn
  · subst passes
    exact live
  · cases perform_turn v op passes with
    | idle said => exact (congrArg ReadyState.isLive said.state).trans live
    | begins _ _ _ after => exact isLive_of_upgrading after
    | fails _ _ after | upgrades _ after => exact isLive_of_established after
    | closes asks => exact absurd (asks.symm.trans stays) nofun

theorem isLive_of_perform {s : Session} (v : s.Valid) {op : Op} (live : (s.perform op).isLive) :
    s.isLive :=
  v.isLive_of_changes (perform_changes s op) live

section

variable {o : Origin} {ops : List Op}

theorem config_run (o : Origin) (ops : List Op) : (o.session.run ops).config = o.config :=
  congrArg (·.2.2) ((run_changes o.session ops).identity.trans o.identity_session)

-- As long as the count fits its word, an input more is too much for the session if and only if it
-- is for the count.
theorem recordDecodeError_run (e : DecodeError) (fits : misreads ops + 1 < UInt32.size) :
    (o.session.run ops).recordDecodeError e =
      if o.config.maxDecodeErrors.toNat < misreads ops + 1 then
        ((o.session.run ops).countDecodeError e).close .parseError
      else (o.session.run ops).countDecodeError e := by
  have count : ((o.session.run ops).decodeErrors + 1).toNat = misreads ops + 1 := by
    rw [UInt32.toNat_add, toNat_decodeErrors, Nat.mod_add_mod]
    exact Nat.mod_eq_of_lt fits
  rw [← count, ← config_run o ops]
  rfl

-- A session that is over only tells of the error.
theorem recordDecodeError_of_dead {s : Session} (e : DecodeError) (dead : s.isLive = false) :
    s.recordDecodeError e = s.countDecodeError e := by
  simp only [recordDecodeError]
  split
  · exact close_of_not_live _ dead
  · rfl

-- The count of a run fits its word, or a session is closed before it does not.
def Fits (max : UInt32) (ops : List Op) : Prop :=
  max.toNat + 1 < UInt32.size ∨ ∀ before, before <+: ops → misreads before < UInt32.size

theorem Fits.mono {max : UInt32} {before : List Op} (fits : Fits max ops) (first : before <+: ops) :
    Fits max before :=
  fits.imp_right fun fits before' first' => fits before' (first'.trans first)

theorem Fits.recorded {max : UInt32} {e : DecodeError}
    (fits : Fits max (ops ++ [.recordDecodeError e])) (kept : misreads ops ≤ max.toNat) :
    misreads ops + 1 < UInt32.size := by
  cases fits with
  | inl small => exact Nat.lt_of_le_of_lt (Nat.succ_le_succ kept) small
  | inr fits =>
    have whole := fits _ List.prefix_rfl
    rwa [misreads_append_singleton] at whole

-- What becomes of a session that records an undecodable input, the `n`-th in a row: it tells of it,
-- and closes if these are more than it may be sent. If they are, they are one more.
structure Recorded (max n : Nat) (s : Session) (e : DecodeError) (s' : Session) : Prop where
  tells : s'.events =
    s.events ++ .error (.decode e) ::
      if s.isLive ∧ max < n then Life.ending s.state .parseError else []
  lives : s'.isLive ↔ s.isLive ∧ n ≤ max
  first : s.isLive → n ≤ max + 1

-- A session that lives was not sent too many.
theorem misreads_le_of_live (whole : ∀ op ∈ ops, op.isWhole)
    (fits : Fits o.config.maxDecodeErrors ops) (live : (o.session.run ops).isLive) :
    misreads ops ≤ o.config.maxDecodeErrors.toNat := by
  induction ops using List.reverseRecOn with
  | nil => exact Nat.zero_le _
  | append_singleton ops op ih =>
    rw [run_append] at live
    have v := valid_run o ops
    have before := isLive_of_perform v live
    have kept := ih (fun op mem => whole op (List.mem_append_left _ mem))
      (fits.mono (List.prefix_append ..)) before
    rw [misreads_append_singleton]
    cases op with
    | countDecodeError e => exact absurd (whole _ List.mem_concat_self) nofun
    | resetDecodeErrors => exact Nat.zero_le _
    | recordDecodeError e =>
      refine Nat.le_of_not_lt fun exceeded => ?_
      have more : o.config.maxDecodeErrors.toNat < misreads ops + 1 := exceeded
      have closed := recordDecodeError_run (o := o) e (fits.recorded kept)
      rw [if_pos more] at closed
      have live : ((o.session.run ops).recordDecodeError e).isLive := live
      rw [closed, isLive_close] at live
      exact absurd live nofun
    | _ => exact kept

theorem recorded (whole : ∀ op ∈ ops, op.isWhole) {e : DecodeError}
    (fits : Fits o.config.maxDecodeErrors (ops ++ [.recordDecodeError e])) :
    Recorded o.config.maxDecodeErrors.toNat (misreads ops + 1) (o.session.run ops) e
      ((o.session.run ops).recordDecodeError e) := by
  have counted := Says.countDecodeError (o.session.run ops) e
  have same : ((o.session.run ops).countDecodeError e).isLive = (o.session.run ops).isLive :=
    congrArg ReadyState.isLive counted.state
  cases live : (o.session.run ops).isLive with
  | false =>
    rw [recordDecodeError_of_dead e live]
    refine ⟨?_, ?_, fun living => absurd (live.symm.trans living) nofun⟩
    · rw [if_neg (by simp [live])]
      exact counted.events
    · simp [same, live]
  | true =>
    have kept := misreads_le_of_live whole (fits.mono (List.prefix_append ..)) live
    rw [recordDecodeError_run e (fits.recorded kept)]
    split
    · next more =>
      have closed := events_close _ .parseError (same.trans live)
      rw [counted.events, counted.state, List.append_assoc] at closed
      refine ⟨?_, ?_, fun _ => Nat.succ_le_succ kept⟩
      · rw [if_pos ⟨live, more⟩]
        exact closed
      · rw [isLive_close]
        exact ⟨nofun, fun both => absurd both.2 (Nat.not_le.mpr more)⟩
    · next left =>
      refine ⟨?_, ?_, fun _ => Nat.succ_le_succ kept⟩
      · rw [if_neg fun both => left both.2]
        exact counted.events
      · exact ⟨fun _ => ⟨live, Nat.not_lt.mp left⟩, fun _ => same.trans live⟩

-- Where nothing else closes a session, it lives as long as it was not sent too many in a row.
theorem isLive_run (whole : ∀ op ∈ ops, op.isWhole) (fits : Fits o.config.maxDecodeErrors ops)
    (others : ∀ before op, before ++ [op] <+: ops → op.misreads = false →
      (o.session.run before).isLive → op.closing? (o.session.run before) = none)
    (kept : ∀ before, before <+: ops → misreads before ≤ o.config.maxDecodeErrors.toNat) :
    (o.session.run ops).isLive := by
  induction ops using List.reverseRecOn with
  | nil => exact isLive_of_established ((state_flush _).trans (state_enter _ _))
  | append_singleton ops op ih =>
    have first := List.prefix_append ops [op]
    have before := ih (fun op mem => whole op (List.mem_append_left _ mem)) (fits.mono first)
      (fun _ _ first' => others _ _ (first'.trans first)) fun _ first' => kept _ (first'.trans first)
    rw [run_append]
    cases misread : op.misreads with
    | false =>
      exact isLive_perform (valid_run o ops) before (others _ _ List.prefix_rfl misread before)
    | true =>
      cases op with
      | countDecodeError e => exact absurd (whole _ List.mem_concat_self) nofun
      | recordDecodeError e =>
        have count := kept _ List.prefix_rfl
        rw [misreads_append_singleton] at count
        exact (recorded (fun op mem => whole op (List.mem_append_left _ mem)) fits).lives.mpr
          ⟨before, count⟩
      | _ => exact absurd misread nofun

end

-- Each undecodable input is told of once. As long as nothing else closes a session, the first one
-- that makes more in a row than its configuration allows closes it, and it lives until then. The
-- count starts over with each reset. This holds for every configuration and every run whose counts
-- fit a word, and only the largest word allows so many that they do not.
theorem run_keeps_budget (o : Origin) (ops : List Op) (whole : ∀ op ∈ ops, op.isWhole)
    (fits : Fits o.config.maxDecodeErrors ops) :
    let max := o.config.maxDecodeErrors.toNat
    (∀ before e, before ++ [.recordDecodeError e] <+: ops →
      Recorded max (misreads before + 1) (o.session.run before) e
        ((o.session.run before).perform (.recordDecodeError e))) ∧
      ((∀ before op, before ++ [op] <+: ops → op.misreads = false →
          (o.session.run before).isLive → op.closing? (o.session.run before) = none) →
        ((o.session.run ops).isLive ↔ ∀ before, before <+: ops → misreads before ≤ max)) := by
  intro max
  have whole_of {before : List Op} (first : before <+: ops) : ∀ op ∈ before, op.isWhole :=
    fun op mem => whole op (first.subset mem)
  refine ⟨fun before e first => ?_, fun others => ⟨fun live before first => ?_, fun kept => ?_⟩⟩
  · exact recorded (whole_of ((List.prefix_append ..).trans first)) (fits.mono first)
  · obtain ⟨rest, eq⟩ := first
    have lived : (o.session.run before).isLive := by
      rw [← eq, run_append] at live
      exact (valid_run o before).isLive_of_changes (run_changes _ rest) live
    have first : before <+: ops := ⟨rest, eq⟩
    exact misreads_le_of_live (whole_of first) (fits.mono first) lived
  · exact isLive_run whole fits others kept

-- One undecodable input in a row is allowed. After a reset the first one does no harm, and a
-- message that comes then is no reset, so the next one closes the session.
theorem run_keeps_budget_reset :
    let o : Origin := { Origin.plain with config := { maxDecodeErrors := 1 } }
    let before : List Op :=
      [.recordDecodeError .empty, .resetDecodeErrors, .recordDecodeError .empty,
        .receive (.message (.text "a")) 1]
    let s := o.session.run before
    (s.isLive ∧ misreads before = 1) ∧ (s.recordDecodeError .notUtf8).isLive = false ∧
      (s.recordDecodeError .notUtf8).events =
        s.events ++ .error (.decode .notUtf8) :: Life.ending .established .parseError := by
  intro o before s
  have budget := run_keeps_budget o (before ++ [.recordDecodeError .notUtf8]) (by decide)
    (.inl (by decide))
  have recorded := budget.1 before .notUtf8 List.prefix_rfl
  have lived : s.isLive ∧ misreads before = 1 := by decide
  refine ⟨lived, ?_, recorded.tells.trans ?_⟩
  · exact Bool.eq_false_iff.mpr fun live => absurd (recorded.lives.mp live).2 (by decide)
  · rw [if_pos ⟨lived.1, by decide⟩]
    rfl

end Session

end Duplex
