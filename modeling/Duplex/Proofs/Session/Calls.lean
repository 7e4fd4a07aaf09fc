import Duplex.Session.Socket

-- What a websocket has to ask for to join a session: one probe or more, then the upgrade.

namespace Duplex

-- What a message asks for on a websocket that wants to join.
inductive Call where
  | probe | upgrade
  | wrong (f : Fault)
  deriving DecidableEq, Repr

-- Control messages ask for nothing.
def Message.call? (r : Revision) : Message → Option Call
  | control => none
  | close | failure => some (.wrong .upgradeCut)
  | frame f =>
    match Frame.decode f r with
    | .error e => some (.wrong (.decode e))
    | .ok p =>
      if p.kind = .ping ∧ p.data = some (.text "probe") then some .probe
      else if p.kind = .upgrade then some .upgrade
      else some (.wrong (.unexpectedInUpgrade p.kind))

namespace Session

-- The calls by which a websocket joins, and those by which it does not, each with the number of
-- its probe pings.

def Accepted (calls : List Call) (pings : Nat) : Prop :=
  0 < pings ∧ ∃ rest, calls = List.replicate pings .probe ++ .upgrade :: rest

inductive Rejected (limit : Nat) : List Call → Nat → Fault → Prop
  | silence (pings : Nat) :
    Rejected limit (List.replicate pings .probe) pings (.upgradeTimeout limit)
  | wrong (pings : Nat) (f : Fault) (rest : List Call) :
    Rejected limit (List.replicate pings .probe ++ .wrong f :: rest) pings f
  | early (rest : List Call) :
    Rejected limit (.upgrade :: rest) 0 (.unexpectedInUpgrade .upgrade)

-- The first call that is no probe ping ends it.
theorem replicate_probe_inj {m n : Nat} {c c' : Call} {rest rest' : List Call}
    (eq : List.replicate m .probe ++ c :: rest = List.replicate n .probe ++ c' :: rest')
    (other : c ≠ .probe) (other' : c' ≠ .probe) : m = n ∧ c = c' := by
  induction m generalizing n with
  | zero =>
    cases n with
    | zero => exact ⟨rfl, List.head_eq_of_cons_eq eq⟩
    | succ n => exact absurd (List.head_eq_of_cons_eq eq) other
  | succ m ih =>
    cases n with
    | zero => exact absurd (List.head_eq_of_cons_eq eq).symm other'
    | succ n =>
      have ⟨same, first⟩ := ih (List.tail_eq_of_cons_eq eq)
      exact ⟨congrArg _ same, first⟩

theorem Accepted.unique {asked : List Call} {m n : Nat} (h : Accepted asked m)
    (h' : Accepted asked n) : m = n := by
  have ⟨_, _, eq⟩ := h
  have ⟨_, _, eq'⟩ := h'
  exact (replicate_probe_inj (eq.symm.trans eq') nofun nofun).1

theorem Rejected.not_accepted {limit : Nat} {asked : List Call} {pings n : Nat} {f : Fault}
    (h : Rejected limit asked pings f) : ¬Accepted asked n := fun ⟨some_, rest, eq⟩ => by
  cases h with
  | silence =>
    have upgrade : Call.upgrade ∈ List.replicate pings .probe := by simp [eq]
    exact absurd (List.eq_of_mem_replicate upgrade) nofun
  | wrong pings f rest' => exact absurd (replicate_probe_inj eq nofun nofun).2 nofun
  | early rest' =>
    have none_ : 0 = n := (replicate_probe_inj (m := 0) eq nofun nofun).1
    exact absurd none_ (Nat.ne_of_lt some_)

end Session

end Duplex
