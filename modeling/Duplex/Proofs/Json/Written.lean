import Duplex.Json.Writer

-- Written JSON is one line of text: whatever a value holds, control characters are escaped.

namespace Duplex

-- A text without control characters.
def Text.IsPlain (cs : List Char) : Prop :=
  ∀ c ∈ cs, 0x20 ≤ c.toNat

namespace Text

@[simp]
theorem isPlain_nil : IsPlain [] := by
  simp [IsPlain]

@[simp]
theorem isPlain_cons {c : Char} {cs : List Char} :
    IsPlain (c :: cs) ↔ 0x20 ≤ c.toNat ∧ IsPlain cs := by
  simp [IsPlain]

@[simp]
theorem isPlain_append {cs ds : List Char} : IsPlain (cs ++ ds) ↔ IsPlain cs ∧ IsPlain ds := by
  simp [IsPlain, or_imp, forall_and]

theorem hexDigit_le {n : Nat} (h : n < 16) : 0x20 ≤ (hexDigit n).toNat := by
  revert h
  revert n
  decide

end Text

theorem Decimal.isPlain_digits (n : Nat) : Text.IsPlain (digits n) := by
  intro c mem
  have ⟨low, _⟩ := toNat_of_isDigit (List.all_eq_true.mp (all_isDigit_digits n) c mem)
  omega

namespace Json

open Text

theorem isPlain_escape (c : Char) : IsPlain (escape c) := by
  have digit (n : Nat) : 0x20 ≤ (hexDigit (n % 16)).toNat :=
    hexDigit_le (Nat.mod_lt n (by decide))
  simp only [escape]
  repeat' split
  case isFalse visible => simpa using visible
  all_goals simp [fourHexDigits, digit]

theorem isPlain_writeString (s : String) : IsPlain (writeString s) := by
  have inside : IsPlain (s.toList.flatMap escape) := fun c mem => by
    have ⟨d, _, written⟩ := List.mem_flatMap.mp mem
    exact isPlain_escape d c written
  simpa [writeString] using inside

theorem isPlain_writeInt (n : Int) : IsPlain (writeInt n) := by
  simp only [writeInt]
  split <;> simp [Decimal.isPlain_digits]

theorem Number.isPlain_write (n : Number) : IsPlain n.write := by
  cases n <;> simp [write, isPlain_writeInt]

mutual

theorem isPlain_write (json : Json) : IsPlain json.write := by
  cases json with
  | null | unreadable => simp [write]
  | bool b => cases b <;> simp [write]
  | number n => exact n.isPlain_write
  | string s => exact isPlain_writeString s
  | array items => simpa [write] using isPlain_writeItems items
  | object members => simpa [write] using isPlain_writeMembers members

theorem isPlain_writeItems (items : List Json) : IsPlain (writeItems items) := by
  match items with
  | [] => exact isPlain_nil
  | [item] => exact isPlain_write item
  | item :: next :: items =>
    simpa [writeItems] using ⟨isPlain_write item, isPlain_writeItems (next :: items)⟩

theorem isPlain_writeMembers (members : List (String × Json)) :
    IsPlain (writeMembers members) := by
  match members with
  | [] => exact isPlain_nil
  | [(key, value)] =>
    simpa [writeMembers] using ⟨isPlain_writeString key, isPlain_write value⟩
  | (key, value) :: next :: members =>
    simpa [writeMembers] using
      ⟨isPlain_writeString key, isPlain_write value, isPlain_writeMembers (next :: members)⟩

end

end Json

end Duplex
