-- Natural numbers in decimal notation.

namespace Duplex.Decimal

def digit (d : Nat) : Char :=
  Char.ofNat (48 + d)

def digits (n : Nat) : List Char :=
  if n < 10 then [digit n] else digits (n / 10) ++ [digit (n % 10)]

def text (n : Nat) : String :=
  String.ofList (digits n)

def isDigit (c : Char) : Bool :=
  decide ('0' ≤ c) && decide (c ≤ '9')

def digitValue (c : Char) : Nat :=
  c.toNat - 48

-- The number that a run of digits stands for. Leading zeros change nothing.
def value (cs : List Char) : Nat :=
  cs.foldl (fun n c => 10 * n + digitValue c) 0

-- Digits only, and at least one.
def value? (cs : List Char) : Option Nat :=
  if cs ≠ [] ∧ cs.all isDigit then some (value cs) else none

-- A number may carry one plus sign in front.
def unsigned? : List Char → Option Nat
  | '+' :: cs => value? cs
  | cs => value? cs

def unsignedUpTo? (bound : Nat) (cs : List Char) : Option Nat :=
  (unsigned? cs).filter (· ≤ bound)

theorem isDigit_digit {d : Nat} (h : d < 10) : isDigit (digit d) := by
  revert h
  revert d
  decide

theorem digitValue_digit {d : Nat} (h : d < 10) : digitValue (digit d) = d := by
  revert h
  revert d
  decide

theorem digits_ne_nil (n : Nat) : digits n ≠ [] := by
  unfold digits
  split <;> simp

theorem all_isDigit_digits (n : Nat) : (digits n).all isDigit := by
  fun_induction digits n with
  | case1 n h => simp [isDigit_digit h]
  | case2 n h ih => simp_all [isDigit_digit (Nat.mod_lt n (by decide : 10 > 0))]

theorem value_append_singleton (cs : List Char) (c : Char) :
    value (cs ++ [c]) = 10 * value cs + digitValue c := by
  simp [value]

theorem value_digits (n : Nat) : value (digits n) = n := by
  fun_induction digits n with
  | case1 n h => simp [value, digitValue_digit h]
  | case2 n h ih =>
    rw [value_append_singleton, ih, digitValue_digit (Nat.mod_lt n (by decide))]
    omega

@[simp]
theorem value?_digits (n : Nat) : value? (digits n) = some n := by
  rw [value?, if_pos ⟨digits_ne_nil n, all_isDigit_digits n⟩, value_digits]

theorem toNat_of_isDigit {c : Char} (h : isDigit c) : 48 ≤ c.toNat ∧ c.toNat ≤ 57 := by
  simpa [isDigit, Char.le_def, UInt32.le_iff_toNat_le] using h

theorem digit_digitValue {c : Char} (h : isDigit c) : digit (digitValue c) = c := by
  have ⟨low, _⟩ := toNat_of_isDigit h
  rw [digit, digitValue, Nat.add_sub_cancel' low, Char.ofNat_toNat]

theorem digitValue_lt {c : Char} (h : isDigit c) : digitValue c < 10 := by
  have ⟨_, high⟩ := toNat_of_isDigit h
  simp only [digitValue]
  omega

theorem digits_digitValue {c : Char} (h : isDigit c) : digits (digitValue c) = [c] := by
  rw [digits, if_pos (digitValue_lt h), digit_digitValue h]

-- Digits that follow a number that is not zero are written as they are.
theorem digits_foldl {n : Nat} (pos : 0 < n) {cs : List Char} (all : cs.all isDigit) :
    digits (cs.foldl (fun n c => 10 * n + digitValue c) n) = digits n ++ cs := by
  induction cs generalizing n with
  | nil => simp
  | cons c cs ih =>
    simp only [List.all_cons, Bool.and_eq_true] at all
    have small := digitValue_lt all.1
    have next : digits (10 * n + digitValue c) = digits n ++ [c] := by
      rw [digits, if_neg (by omega), show (10 * n + digitValue c) / 10 = n by omega,
        show (10 * n + digitValue c) % 10 = digitValue c by omega, digit_digitValue all.1]
    rw [List.foldl_cons, ih (by omega) all.2, next, List.append_assoc, List.singleton_append]

theorem value_replicate_append (zeros : Nat) (cs : List Char) :
    value (List.replicate zeros '0' ++ cs) = value cs := by
  induction zeros with
  | zero => rfl
  | succ zeros ih => rw [List.replicate_succ, List.cons_append, ← ih]; rfl

-- A number is written as its digits, with any number of zeros in front.
theorem exists_replicate_append_digits {cs : List Char} (ne : cs ≠ []) (all : cs.all isDigit) :
    ∃ zeros, cs = List.replicate zeros '0' ++ digits (value cs) := by
  induction cs with
  | nil => exact absurd rfl ne
  | cons c cs ih =>
    simp only [List.all_cons, Bool.and_eq_true] at all
    by_cases zero : c = '0'
    case neg =>
      have ⟨low, _⟩ := toNat_of_isDigit all.1
      have pos : 0 < digitValue c := by
        refine Nat.sub_pos_of_lt (Nat.lt_of_le_of_ne low fun eq => zero ?_)
        rw [← Char.ofNat_toNat c, ← eq]
      have written := digits_foldl pos all.2
      rw [digits_digitValue all.1] at written
      exact ⟨0, by simpa [value] using written.symm⟩
    case pos =>
      match cs with
      | [] => exact ⟨0, by simpa [value] using (digits_digitValue all.1).symm⟩
      | d :: cs =>
        have ⟨zeros, written⟩ := ih (by simp) all.2
        refine ⟨zeros + 1, ?_⟩
        have same : value (c :: d :: cs) = value (d :: cs) := by
          rw [zero]
          exact value_replicate_append 1 (d :: cs)
        rw [same, List.replicate_succ, List.cons_append, ← written, zero]

end Duplex.Decimal
