import Duplex.Json.Reader
import Duplex.Json.Writer

-- What was written is read again: a value that is made of texts, truth values and integers in a word
-- is the value of its text.

namespace Duplex

namespace Decimal

theorem digit_ne_zero {d : Nat} (small : d < 10) : 0 < d → digit d ≠ '0' := by
  revert small
  revert d
  decide

-- A number that is not zero is written without a zero in front.
theorem head?_digits {n : Nat} (pos : 0 < n) : (digits n).head? ≠ some '0' := by
  fun_induction digits n with
  | case1 n small =>
    rw [List.head?_cons]
    exact fun zero => digit_ne_zero small pos (Option.some.inj zero)
  | case2 n large ih =>
    obtain ⟨c, cs, written⟩ := List.exists_cons_of_ne_nil (digits_ne_nil (n / 10))
    have first := ih (by omega)
    rw [written] at first ⊢
    exact first

theorem exists_cons_digits (n : Nat) : ∃ c cs, digits n = c :: cs ∧ isDigit c := by
  obtain ⟨c, cs, written⟩ := List.exists_cons_of_ne_nil (digits_ne_nil n)
  have all := all_isDigit_digits n
  rw [written, List.all_cons, Bool.and_eq_true] at all
  exact ⟨c, cs, written, all.1⟩

end Decimal

namespace Json

open Decimal

mutual

-- A value whose text has no fraction, no exponent, and nothing without a value.
def isExact : Json → Bool
  | number (.integer n) => inWord n
  | number (.decimal _ _) | unreadable => false
  | array items => areExact items
  | object members => areExactMembers members
  | null | bool _ | string _ => true

def areExact : List Json → Bool
  | [] => true
  | item :: items => item.isExact && areExact items

def areExactMembers : List (String × Json) → Bool
  | [] => true
  | (_, value) :: members => value.isExact && areExactMembers members

end

-- What may follow a value: nothing, or a mark that ends it.
def Closing (rest : List Char) : Prop :=
  ∀ c ∈ rest.head?, c = ',' ∨ c = ']' ∨ c = '\x7d'

section

variable {c : Char} {cs rest : List Char}

theorem closing_nil : Closing [] := by
  simp [Closing]

theorem closing_cons (ends : c = ',' ∨ c = ']' ∨ c = '\x7d') : Closing (c :: rest) := by
  simpa [Closing] using ends

theorem Closing.not_isDigit (closing : Closing rest) : rest.head?.any isDigit = false := by
  cases rest with
  | nil => rfl
  | cons c rest => obtain rfl | rfl | rfl := closing c rfl <;> rfl

theorem Closing.fractionPart? (closing : Closing rest) :
    fractionPart? rest = some (none, rest) := by
  cases rest with
  | nil => rfl
  | cons c rest => obtain rfl | rfl | rfl := closing c rfl <;> rfl

theorem Closing.exponentPart? (closing : Closing rest) :
    exponentPart? rest = some (none, rest) := by
  cases rest with
  | nil => rfl
  | cons c rest => obtain rfl | rfl | rfl := closing c rfl <;> rfl

theorem skipSpace_cons (visible : isSpace c = false) : skipSpace (c :: cs) = c :: cs := by
  simp [skipSpace, visible]

-- Digits up to something else.
theorem takeDigits_append (digits : cs.all isDigit) (stops : rest.head?.any isDigit = false) :
    takeDigits (cs ++ rest) = (cs, rest) := by
  have ends : rest.takeWhile isDigit = [] ∧ rest.dropWhile isDigit = rest := by
    cases rest with
    | nil => exact ⟨rfl, rfl⟩
    | cons c rest =>
      have other : isDigit c = false := by simpa using stops
      simp [other]
  rw [List.all_eq_true] at digits
  rw [takeDigits, List.takeWhile_append_of_pos digits, List.dropWhile_append_of_pos digits, ends.1,
    ends.2, List.append_nil]

theorem wholePart?_digits (n : Nat) (stops : rest.head?.any isDigit = false) :
    wholePart? (digits n ++ rest) = some (digits n, rest) := by
  by_cases zero : n = 0
  · have written : digits n = ['0'] := by simp [zero, digits, digit]
    simp [written, wholePart?, stops]
  · obtain ⟨c, cs, written, _⟩ := exists_cons_digits n
    have first := head?_digits (Nat.pos_of_ne_zero zero)
    have taken := takeDigits_append (all_isDigit_digits n) stops
    rw [written] at first taken ⊢
    simp only [wholePart?]
    split
    · next same => exact absurd (congrArg List.head? same) first
    · rw [taken]

theorem sign_digits (n : Nat) : sign (digits n ++ rest) = (false, digits n ++ rest) := by
  obtain ⟨c, cs, written, digit⟩ := exists_cons_digits n
  rw [written]
  simp only [List.cons_append, sign]
  split
  · next same =>
    obtain ⟨rfl, _⟩ := List.cons.inj same
    exact absurd digit (by decide)
  · rfl

theorem number?_of_sign {negative : Bool} {n : Nat} (signed : sign cs = (negative, digits n ++ rest))
    (closing : Closing rest) :
    number? cs = some (numberValue negative (digits n) none none, rest) := by
  simp [number?, signed, wholePart?_digits n closing.not_isDigit, closing.fractionPart?,
    closing.exponentPart?]

theorem numberValue_digits (negative : Bool) {n : Nat}
    (fits : inWord (if negative then -(n : Int) else n)) (nonzero : negative → n ≠ 0) :
    numberValue negative (digits n) none none =
      number (.integer (if negative then -(n : Int) else n)) := by
  have value : value (digits n ++ (none : Option (List Char)).getD []) = n := by
    rw [Option.getD_none, List.append_nil, value_digits]
  simp only [numberValue, value]
  rw [if_pos ⟨rfl, rfl, fits, fun zero => nonzero zero.1 zero.2⟩]

theorem number?_writeInt {n : Int} (fits : inWord n) (closing : Closing rest) :
    number? (writeInt n ++ rest) = some (number (.integer n), rest) := by
  by_cases negative : n < 0
  · have same : -(n.natAbs : Int) = n := by omega
    have written : writeInt n ++ rest = '-' :: (digits n.natAbs ++ rest) := by
      simp [writeInt, negative]
    rw [written, number?_of_sign rfl closing,
      numberValue_digits true (by rwa [if_pos rfl, same]) fun _ => by omega]
    rw [if_pos rfl, same]
  · have same : (n.natAbs : Int) = n := by omega
    have written : writeInt n ++ rest = digits n.natAbs ++ rest := by simp [writeInt, negative]
    rw [written, number?_of_sign (sign_digits _) closing,
      numberValue_digits false (by simpa [same] using fits) nofun]
    simp [same]

end

-- Texts.

section

variable {c : Char} {cs rest : List Char}

theorem hexValue?_hexDigit {n : Nat} (small : n < 16) : hexValue? (Text.hexDigit n) = some n := by
  revert small
  revert n
  decide

theorem hexUnit?_fourHexDigits {n : Nat} (small : n < 0x10000) (rest : List Char) :
    hexUnit? (fourHexDigits n ++ rest) = some (n, rest) := by
  have digit (n : Nat) : hexValue? (Text.hexDigit (n % 16)) = some (n % 16) :=
    hexValue?_hexDigit (Nat.mod_lt n (by decide))
  simp only [fourHexDigits, List.cons_append, List.nil_append, hexUnit?, digit, Option.bind_eq_bind,
    Option.bind_some, Option.some.injEq, Prod.mk.injEq, and_true]
  omega

-- What stands for a character in a text: a letter, a number, or the character itself.
theorem escape_cases (c : Char) :
    (∃ d, escape c = ['\\', d] ∧ d ≠ 'u' ∧ shortEscape? d = some c) ∨
      (escape c = '\\' :: 'u' :: fourHexDigits c.toNat ∧ c.toNat < 0x20) ∨
      escape c = [c] ∧ c ≠ '"' ∧ c ≠ '\\' ∧ ¬c.toNat < 0x20 := by
  simp only [escape]
  repeat' split
  all_goals try exact .inl ⟨_, rfl, by decide, by subst_vars; rfl⟩
  · next control => exact .inr (.inl ⟨rfl, control⟩)
  · next quote backslash _ _ _ _ _ visible => exact .inr (.inr ⟨rfl, quote, backslash, visible⟩)

-- An escaped character stands for itself, and does not look like the closing quote.

theorem stringItem?_escape (c : Char) (rest : List Char) :
    stringItem? (escape c ++ rest) = some (some c, rest) := by
  obtain ⟨d, letter, other, short⟩ | ⟨number, control⟩ | ⟨itself, _, backslash, visible⟩ :=
    escape_cases c
  · simp [letter, stringItem?, short]
  · have low : isLowSurrogate c.toNat = false := by simp [isLowSurrogate]; omega
    have high : isHighSurrogate c.toNat = false := by simp [isHighSurrogate]; omega
    have unit := hexUnit?_fourHexDigits (show c.toNat < 0x10000 by omega) rest
    simp [number, stringItem?, unit, unitItem, low, high]
  · simp [itself, stringItem?, backslash, visible]

theorem head?_escape (c : Char) (rest : List Char) : (escape c ++ rest).head? ≠ some '"' := by
  obtain ⟨d, letter, _⟩ | ⟨number, _⟩ | ⟨itself, quote, _⟩ := escape_cases c
  · simp [letter]
  · simp [number]
  · simp [itself, quote]

theorem stringBody?_of_item {seen : List Char} {whole : Bool} (inside : cs.head? ≠ some '"')
    (item : stringItem? cs = some (some c, rest)) :
    stringBody? seen whole cs = stringBody? (c :: seen) whole rest := by
  rw [stringBody?, if_neg inside]
  split <;> simp_all

theorem stringBody?_escaped (seen cs rest : List Char) :
    stringBody? seen true (cs.flatMap escape ++ '"' :: rest) =
      some (some (String.ofList (seen.reverse ++ cs)), rest) := by
  induction cs generalizing seen with
  | nil =>
    rw [List.flatMap_nil, List.nil_append, stringBody?, if_pos rfl]
    simp
  | cons c cs ih =>
    rw [List.flatMap_cons, List.append_assoc,
      stringBody?_of_item (head?_escape c _) (stringItem?_escape c _), ih]
    simp

theorem string?_written (s : String) (rest : List Char) :
    string? (s.toList.flatMap escape ++ '"' :: rest) = some (some s, rest) := by
  rw [string?, stringBody?_escaped]
  simp

end

-- Values of all kinds.

theorem ofMembers_some (members : List (String × Json)) :
    ofMembers (members.map (Prod.map some id)) = object members := by
  have whole : ∀ f : Option String × Json → Option (String × Json),
      (∀ member, f (Prod.map some id member) = some member) →
        (members.map (Prod.map some id)).mapM f = some members := by
    intro f each
    induction members with
    | nil => rfl
    | cons member members ih => simp [ih, each]
  rw [ofMembers, whole _ fun _ => rfl]

section

variable {fuel : Nat} {rest : List Char}

theorem writeString_append (s : String) (rest : List Char) :
    writeString s ++ rest = '"' :: (s.toList.flatMap escape ++ '"' :: rest) := by
  simp [writeString]

-- A number begins like no other value.

theorem ne_of_number {c d : Char} (first : c = '-' ∨ isDigit c) (minus : d ≠ '-')
    (letter : isDigit d = false) : c ≠ d := by
  rintro rfl
  simp [minus, letter] at first

theorem isSpace_of_number {c : Char} (first : c = '-' ∨ isDigit c) : isSpace c = false := by
  have other {d : Char} := ne_of_number (d := d) first
  simp [isSpace, other (d := ' ') (by decide) (by decide), other (d := '\t') (by decide) (by decide),
    other (d := '\n') (by decide) (by decide), other (d := '\r') (by decide) (by decide)]

theorem read?_number {c : Char} {cs : List Char} (first : c = '-' ∨ isDigit c) :
    read? (fuel + 1) (c :: cs) = number? (c :: cs) := by
  have other {d : Char} := ne_of_number (d := d) first
  rw [read?, skipSpace_cons (isSpace_of_number first)]
  split
  · next same => cases same
  all_goals try exact absurd (List.cons.inj ‹_›).1 (other (by decide) (by decide))
  rfl

theorem exists_cons_writeInt (n : Int) : ∃ c cs, writeInt n = c :: cs ∧ (c = '-' ∨ isDigit c) := by
  by_cases negative : n < 0
  · exact ⟨'-', digits n.natAbs, by simp [writeInt, negative], .inl rfl⟩
  · obtain ⟨c, cs, written, digit⟩ := exists_cons_digits n.natAbs
    exact ⟨c, cs, by simp [writeInt, negative, written], .inr digit⟩

theorem read?_writeInt {n : Int} (fits : inWord n) (closing : Closing rest) :
    read? (fuel + 1) (writeInt n ++ rest) = some (number (.integer n), rest) := by
  obtain ⟨c, cs, written, first⟩ := exists_cons_writeInt n
  have read := number?_writeInt fits closing
  rw [written, List.cons_append] at read ⊢
  rw [read?_number first, read]

theorem read?_writeString (s : String) :
    read? (fuel + 1) (writeString s ++ rest) = some (string s, rest) := by
  rw [writeString_append, read?, skipSpace_cons (by decide)]
  simp only [string?_written, Option.map_some, Option.getD_some]

-- The text of a value begins with no blank, and with no closing bracket.
theorem exists_cons_write (json : Json) :
    ∃ c cs, json.write = c :: cs ∧ isSpace c = false ∧ c ≠ ']' := by
  have signed (n : Int) : ∃ c cs, writeInt n = c :: cs ∧ isSpace c = false ∧ c ≠ ']' := by
    obtain ⟨c, cs, written, first⟩ := exists_cons_writeInt n
    refine ⟨c, cs, written, isSpace_of_number first, ?_⟩
    rintro rfl
    exact absurd first (by decide)
  cases json with
  | null | unreadable => exact ⟨'n', _, rfl, by decide, by decide⟩
  | bool b => cases b <;> exact ⟨_, _, rfl, by decide, by decide⟩
  | number n =>
    cases n with
    | integer n => exact signed n
    | decimal mantissa exponent =>
      obtain ⟨c, cs, written, first⟩ := signed mantissa
      exact ⟨c, _, by rw [write, Number.write, written]; rfl, first⟩
  | string s => exact ⟨'"', _, rfl, by decide, by decide⟩
  | array items => exact ⟨'[', _, rfl, by decide, by decide⟩
  | object members => exact ⟨'\x7b', _, rfl, by decide, by decide⟩

theorem exists_cons_writeItems (item : Json) (items : List Json) :
    ∃ c cs, writeItems (item :: items) = c :: cs ∧ isSpace c = false ∧ c ≠ ']' := by
  obtain ⟨c, cs, written, first⟩ := exists_cons_write item
  cases items with
  | nil => exact ⟨c, cs, written, first⟩
  | cons next items =>
    exact ⟨c, cs ++ ',' :: writeItems (next :: items), by simp [writeItems, written], first⟩

theorem exists_cons_writeMembers (key : String) (value : Json) (members : List (String × Json)) :
    ∃ cs, writeMembers ((key, value) :: members) = '"' :: cs := by
  cases members with
  | nil => exact ⟨_, rfl⟩
  | cons next members => exact ⟨_, rfl⟩

-- With so much fuel whatever is short enough is read as it was written.
structure Rereads (fuel : Nat) : Prop where
  value : ∀ {json : Json} {rest : List Char}, json.isExact → json.write.length < fuel →
    Closing rest → read? fuel (json.write ++ rest) = some (json, rest)
  items : ∀ {item : Json} {items : List Json}, areExact (item :: items) →
    (writeItems (item :: items)).length + 1 < fuel → ∀ rest : List Char,
    items? fuel (writeItems (item :: items) ++ ']' :: rest) = some (item :: items, rest)
  members : ∀ {key : String} {value : Json} {members : List (String × Json)},
    areExactMembers ((key, value) :: members) →
    (writeMembers ((key, value) :: members)).length + 1 < fuel → ∀ rest : List Char,
    members? fuel (writeMembers ((key, value) :: members) ++ '\x7d' :: rest) =
      some (((key, value) :: members).map (Prod.map some id), rest)

namespace Rereads

theorem array (h : Rereads fuel) {item : Json} {items : List Json} (each : areExact (item :: items))
    (room : (Json.array (item :: items)).write.length < fuel + 1) :
    read? (fuel + 1) ((Json.array (item :: items)).write ++ rest) =
      some (Json.array (item :: items), rest) := by
  simp only [write, List.length_append, List.length_cons, List.length_nil] at room
  have inside := h.items each (by omega) rest
  obtain ⟨c, cs, written, visible, opens⟩ := exists_cons_writeItems item items
  have text : (Json.array (item :: items)).write ++ rest =
      '[' :: (writeItems (item :: items) ++ ']' :: rest) := by
    simp [write]
  rw [written] at inside text
  rw [text, read?, skipSpace_cons (by decide)]
  simp only [List.cons_append, skipSpace_cons visible] at inside ⊢
  split
  · next same => exact absurd (List.cons.inj same).1 opens
  · rw [inside]
    rfl

theorem object (h : Rereads fuel) {key : String} {value : Json} {members : List (String × Json)}
    (each : areExactMembers ((key, value) :: members))
    (room : (Json.object ((key, value) :: members)).write.length < fuel + 1) :
    read? (fuel + 1) ((Json.object ((key, value) :: members)).write ++ rest) =
      some (Json.object ((key, value) :: members), rest) := by
  simp only [write, List.length_append, List.length_cons, List.length_nil] at room
  have inside := h.members each (by omega) rest
  obtain ⟨cs, written⟩ := exists_cons_writeMembers key value members
  have text : (Json.object ((key, value) :: members)).write ++ rest =
      '\x7b' :: (writeMembers ((key, value) :: members) ++ '\x7d' :: rest) := by
    simp [write]
  rw [written] at inside text
  rw [text, read?, skipSpace_cons (by decide)]
  simp only [List.cons_append, skipSpace_cons (c := '"') (by decide)] at inside ⊢
  split
  · next same => cases same
  · rw [inside, Option.map_some, ofMembers_some]

theorem read? (h : Rereads fuel) {json : Json} (exact_ : json.isExact)
    (room : json.write.length < fuel + 1) (closing : Closing rest) :
    read? (fuel + 1) (json.write ++ rest) = some (json, rest) := by
  cases json with
  | null => rfl
  | bool b => cases b <;> rfl
  | number n =>
    cases n with
    | integer n => exact read?_writeInt exact_ closing
    | decimal => cases exact_
  | string s => exact read?_writeString s
  | array items =>
    cases items with
    | nil => rfl
    | cons item items => exact h.array exact_ room
  | object members =>
    cases members with
    | nil => rfl
    | cons member members => exact h.object exact_ room
  | unreadable => cases exact_

theorem items? (h : Rereads fuel) {item : Json} {items : List Json} (each : areExact (item :: items))
    (room : (writeItems (item :: items)).length + 1 < fuel + 1) (rest : List Char) :
    items? (fuel + 1) (writeItems (item :: items) ++ ']' :: rest) = some (item :: items, rest) := by
  simp only [areExact, Bool.and_eq_true] at each
  cases items with
  | nil =>
    simp only [writeItems] at room ⊢
    rw [Json.items?, h.value each.1 (by omega) (closing_cons (.inr (.inl rfl)))]
    simp only [skipSpace_cons (c := ']') (by decide)]
  | cons next items =>
    simp only [writeItems, List.length_append, List.length_cons] at room
    have later := h.items each.2 (by omega) rest
    have text : writeItems (item :: next :: items) ++ ']' :: rest =
        item.write ++ ',' :: (writeItems (next :: items) ++ ']' :: rest) := by
      simp [writeItems]
    rw [text, Json.items?, h.value each.1 (by omega) (closing_cons (.inl rfl))]
    simp only [skipSpace_cons (c := ',') (by decide), later, Option.map_some]

theorem members? (h : Rereads fuel) {key : String} {value : Json} {members : List (String × Json)}
    (each : areExactMembers ((key, value) :: members))
    (room : (writeMembers ((key, value) :: members)).length + 1 < fuel + 1) (rest : List Char) :
    members? (fuel + 1) (writeMembers ((key, value) :: members) ++ '\x7d' :: rest) =
      some (((key, value) :: members).map (Prod.map some id), rest) := by
  simp only [areExactMembers, Bool.and_eq_true] at each
  cases members with
  | nil =>
    simp only [writeMembers, List.length_append, List.length_cons] at room
    have text : writeMembers [(key, value)] ++ '\x7d' :: rest =
        writeString key ++ ':' :: (value.write ++ '\x7d' :: rest) := by
      simp [writeMembers]
    rw [text, writeString_append, Json.members?, skipSpace_cons (by decide)]
    simp only [string?_written, skipSpace_cons (c := ':') (by decide)]
    rw [h.value each.1 (by omega) (closing_cons (.inr (.inr rfl)))]
    simp only [skipSpace_cons (c := '\x7d') (by decide)]
    rfl
  | cons next members =>
    obtain ⟨key', value'⟩ := next
    simp only [writeMembers, List.length_append, List.length_cons] at room
    have later := h.members each.2 (by omega) rest
    have text : writeMembers ((key, value) :: (key', value') :: members) ++ '\x7d' :: rest =
        writeString key ++ ':' :: (value.write ++ ',' ::
          (writeMembers ((key', value') :: members) ++ '\x7d' :: rest)) := by
      simp [writeMembers]
    rw [text, writeString_append, Json.members?, skipSpace_cons (by decide)]
    simp only [string?_written, skipSpace_cons (c := ':') (by decide)]
    rw [h.value each.1 (by omega) (closing_cons (.inl rfl))]
    simp only [skipSpace_cons (c := ',') (by decide), later, Option.map_some]
    rfl

end Rereads

theorem rereads (fuel : Nat) : Rereads fuel := by
  induction fuel with
  | zero => exact ⟨fun _ room => by omega, fun _ room => by omega, fun _ room => by omega⟩
  | succ fuel ih => exact ⟨ih.read?, ih.items?, ih.members?⟩

-- The value of a text is the one that it was made from.
theorem ofText?_render {json : Json} (exact_ : json.isExact) : ofText? json.render = some json := by
  have read := (rereads _).value exact_ (Nat.lt_succ_self _) closing_nil
  rw [List.append_nil] at read
  simp only [ofText?, render, String.toList_ofList, read, skipSpace, List.dropWhile_nil, ↓reduceIte]

end

end Json

end Duplex
