import Duplex.Json.Basic
import Duplex.Json.Range

-- Reading JSON text, strictly by its grammar. What follows the grammar and has no value becomes
-- `Json.unreadable`, so that a reader who does not look there is not disturbed.

namespace Duplex.Json

def isSpace (c : Char) : Bool :=
  c = ' ' || c = '\t' || c = '\n' || c = '\r'

def skipSpace (cs : List Char) : List Char :=
  cs.dropWhile isSpace

def hexValue? (c : Char) : Option Nat :=
  let n := c.toNat
  if 48 ≤ n ∧ n ≤ 57 then some (n - 48)
  else if 97 ≤ n ∧ n ≤ 102 then some (n - 87)
  else if 65 ≤ n ∧ n ≤ 70 then some (n - 55)
  else none

def hexUnit? : List Char → Option (Nat × List Char)
  | a :: b :: c :: d :: cs => do
    let a ← hexValue? a
    let b ← hexValue? b
    let c ← hexValue? c
    let d ← hexValue? d
    some (a * 4096 + b * 256 + c * 16 + d, cs)
  | _ => none

def isHighSurrogate (n : Nat) : Bool := 0xD800 ≤ n && n ≤ 0xDBFF

def isLowSurrogate (n : Nat) : Bool := 0xDC00 ≤ n && n ≤ 0xDFFF

-- The character of an escape by letter.
def shortEscape? (c : Char) : Option Char :=
  if c = '"' ∨ c = '\\' ∨ c = '/' then some c
  else if c = 'b' then some '\x08'
  else if c = 'f' then some '\x0c'
  else if c = 'n' then some '\n'
  else if c = 'r' then some '\r'
  else if c = 't' then some '\t'
  else none

-- The unit of an escape by number, where a second escape must follow.
def secondUnit? : List Char → Option (Nat × List Char)
  | '\\' :: 'u' :: cs => hexUnit? cs
  | _ => none

-- The character of an escape by number, if it has one, and the text after it. The two halves of a
-- surrogate pair are one character, and one half alone is none.
def unitItem (unit : Nat) (cs : List Char) : Option Char × List Char :=
  if isLowSurrogate unit then (none, cs)
  else if isHighSurrogate unit then
    match secondUnit? cs with
    | some (low, rest) =>
      if isLowSurrogate low then
        (some (Char.ofNat (0x10000 + (unit - 0xD800) * 0x400 + (low - 0xDC00))), rest)
      else (none, rest)
    | none => (none, cs)
  else (some (Char.ofNat unit), cs)

-- What stands for one character in a string: the character, if it has one, and the text after it.
def stringItem? : List Char → Option (Option Char × List Char)
  | [] => none
  | '\\' :: 'u' :: cs => (hexUnit? cs).map fun (unit, rest) => unitItem unit rest
  | '\\' :: c :: cs => (shortEscape? c).map fun c => (some c, cs)
  | c :: cs => if c = '\\' ∨ c.toNat < 0x20 then none else some (some c, cs)

theorem hexUnit?_lt {cs rest : List Char} {n : Nat} (h : hexUnit? cs = some (n, rest)) :
    rest.length < cs.length := by
  match cs with
  | [] | [_] | [_, _] | [_, _, _] => simp [hexUnit?] at h
  | a :: b :: c :: d :: cs =>
    simp only [hexUnit?, Option.bind_eq_bind, Option.bind_eq_some_iff, Option.some.injEq,
      Prod.mk.injEq] at h
    obtain ⟨_, _, _, _, _, _, _, _, _, rfl⟩ := h
    simp only [List.length_cons]
    omega

theorem secondUnit?_lt {cs rest : List Char} {n : Nat} (h : secondUnit? cs = some (n, rest)) :
    rest.length < cs.length := by
  simp only [secondUnit?] at h
  split at h
  · have := hexUnit?_lt h
    simp only [List.length_cons]
    omega
  · simp at h

theorem unitItem_le (unit : Nat) (cs : List Char) : (unitItem unit cs).2.length ≤ cs.length := by
  simp only [unitItem]
  split
  · simp
  · split
    · split
      · next hs =>
        have := secondUnit?_lt hs
        split <;> simp only <;> omega
      · simp
    · simp

theorem stringItem?_lt {cs rest : List Char} {c : Option Char}
    (h : stringItem? cs = some (c, rest)) : rest.length < cs.length := by
  simp only [stringItem?] at h
  split at h
  · simp at h
  · obtain ⟨⟨unit, after⟩, hu, he⟩ := Option.map_eq_some_iff.1 h
    have := hexUnit?_lt hu
    have := unitItem_le unit after
    simp only [he] at this
    simp only [List.length_cons]
    omega
  · obtain ⟨_, _, he⟩ := Option.map_eq_some_iff.1 h
    obtain ⟨_, rfl⟩ := Prod.mk.inj he
    simp only [List.length_cons]
    omega
  · split at h
    · simp at h
    · obtain ⟨_, rfl⟩ := Prod.mk.inj (Option.some.inj h)
      simp

-- The characters up to the closing quote, last one first in `seen`. Once a character has no value
-- the string has none.
def stringBody? (seen : List Char) (whole : Bool) (cs : List Char) :
    Option (Option String × List Char) :=
  if cs.head? = some '"' then
    some (if whole then some (String.ofList seen.reverse) else none, cs.tail)
  else
    match _h : stringItem? cs with
    | none => none
    | some (some c, rest) => stringBody? (c :: seen) whole rest
    | some (none, rest) => stringBody? seen false rest
  termination_by cs.length
  decreasing_by all_goals exact stringItem?_lt _h

def string? (cs : List Char) : Option (Option String × List Char) :=
  stringBody? [] true cs

def takeDigits (cs : List Char) : List Char × List Char :=
  (cs.takeWhile Decimal.isDigit, cs.dropWhile Decimal.isDigit)

-- Digits of the whole part. A zero in front stands alone.
def wholePart? (cs : List Char) : Option (List Char × List Char) :=
  match cs with
  | '0' :: rest => if (rest.head?.any Decimal.isDigit) then none else some (['0'], rest)
  | _ =>
    match takeDigits cs with
    | ([], _) => none
    | found => some found

def fractionPart? : List Char → Option (Option (List Char) × List Char)
  | '.' :: cs =>
    match takeDigits cs with
    | ([], _) => none
    | (digits, rest) => some (some digits, rest)
  | cs => some (none, cs)

def exponentSign : List Char → Bool × List Char
  | '+' :: cs => (false, cs)
  | '-' :: cs => (true, cs)
  | cs => (false, cs)

def exponentPart? (cs : List Char) : Option (Option Int × List Char) :=
  match cs with
  | c :: rest =>
    if c = 'e' ∨ c = 'E' then
      let (negative, rest) := exponentSign rest
      match takeDigits rest with
      | ([], _) => none
      | (digits, rest) =>
        let n : Int := Decimal.value digits
        some (some (if negative then -n else n), rest)
    else some (none, cs)
  | [] => some (none, [])

-- Integers from -2^63 to 2^64-1 stay integers.
def inWord (n : Int) : Bool :=
  decide (-(word / 2 : Nat) ≤ n) && decide (n < word)

def numberValue (negative : Bool) (whole : List Char) (fraction : Option (List Char))
    (exponent : Option Int) : Json :=
  let places := fraction.getD []
  let mantissa := Decimal.value (whole ++ places)
  let signed : Int := if negative then -mantissa else mantissa
  let power := exponent.getD 0
  let (n, shift) := leading whole places
  if fraction.isNone ∧ exponent.isNone ∧ inWord signed ∧ ¬(negative ∧ mantissa = 0) then
    number (.integer signed)
  else if overflows n (shift + power) then unreadable
  else number (.decimal signed (power - places.length))

def sign : List Char → Bool × List Char
  | '-' :: cs => (true, cs)
  | cs => (false, cs)

def number? (cs : List Char) : Option (Json × List Char) := do
  let (negative, cs) := sign cs
  let (whole, cs) ← wholePart? cs
  let (fraction, cs) ← fractionPart? cs
  let (exponent, cs) ← exponentPart? cs
  some (numberValue negative whole fraction exponent, cs)

def literal? (word : String) (value : Json) (cs : List Char) : Option (Json × List Char) :=
  if word.toList.isPrefixOf cs then some (value, cs.drop word.toList.length) else none

-- An object as it was read. With a key that has no value it has none itself.
def ofMembers (members : List (Option String × Json)) : Json :=
  match members.mapM fun (key, value) => key.map (·, value) with
  | some members => object members
  | none => unreadable

mutual

-- `fuel` bounds how many values and members are read. A text has fewer of them than characters.
def read? : (fuel : Nat) → List Char → Option (Json × List Char)
  | 0, _ => none
  | fuel + 1, cs =>
    match skipSpace cs with
    | [] => none
    | '\x7b' :: cs =>
      match skipSpace cs with
      | '\x7d' :: rest => some (object [], rest)
      | cs => (members? fuel cs).map fun (members, rest) => (ofMembers members, rest)
    | '[' :: cs =>
      match skipSpace cs with
      | ']' :: rest => some (array [], rest)
      | cs => (items? fuel cs).map fun (items, rest) => (array items, rest)
    | '"' :: cs =>
      (string? cs).map fun (s, rest) => ((s.map string).getD unreadable, rest)
    | 't' :: cs => literal? "true" (bool true) ('t' :: cs)
    | 'f' :: cs => literal? "false" (bool false) ('f' :: cs)
    | 'n' :: cs => literal? "null" null ('n' :: cs)
    | cs => number? cs

-- Items up to the closing bracket.
def items? : (fuel : Nat) → List Char → Option (List Json × List Char)
  | 0, _ => none
  | fuel + 1, cs =>
    match read? fuel cs with
    | none => none
    | some (item, rest) =>
      match skipSpace rest with
      | ',' :: rest => (items? fuel rest).map fun (items, rest) => (item :: items, rest)
      | ']' :: rest => some ([item], rest)
      | _ => none

-- Members up to the closing brace. A key always has a value.
def members? : (fuel : Nat) → List Char → Option (List (Option String × Json) × List Char)
  | 0, _ => none
  | fuel + 1, cs =>
    match skipSpace cs with
    | '"' :: cs =>
      match string? cs with
      | some (key, rest) =>
        match skipSpace rest with
        | ':' :: rest =>
          match read? fuel rest with
          | none => none
          | some (value, rest) =>
            match skipSpace rest with
            | ',' :: rest =>
              (members? fuel rest).map fun (members, rest) => ((key, value) :: members, rest)
            | '\x7d' :: rest => some ([(key, value)], rest)
            | _ => none
        | _ => none
      | _ => none
    | _ => none

end

-- The value that a text writes, with nothing but blanks around it.
def ofText? (text : String) : Option Json :=
  match read? (text.toList.length + 1) text.toList with
  | some (json, rest) => if skipSpace rest = [] then some json else none
  | none => none

end Duplex.Json
