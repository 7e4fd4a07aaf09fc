-- Text as UTF-8 bytes: how many bytes a text takes, reading bytes back as text, strictly or
-- with replacement characters, and cutting a text after a number of bytes.

namespace Duplex

abbrev Bytes := List UInt8

namespace Text

def utf8 (s : String) : Bytes :=
  s.toByteArray.data.toList

-- Bytes that are not UTF-8 are no text.
def ofUtf8? (bytes : Bytes) : Option String :=
  String.fromUTF8? ⟨bytes.toArray⟩

theorem ofUtf8?_utf8 (s : String) : ofUtf8? (utf8 s) = some s := by
  have h : (⟨(utf8 s).toArray⟩ : ByteArray) = s.toByteArray := by simp [utf8]
  simp only [ofUtf8?, String.fromUTF8?, h, s.isValidUTF8, ↓reduceDIte]
  rfl

def charBytes (cs : List Char) : Bytes :=
  cs.flatMap String.utf8EncodeChar

def byteLength : List Char → Nat
  | [] => 0
  | c :: cs => c.utf8Size + byteLength cs

@[simp]
theorem byteLength_nil : byteLength [] = 0 := rfl

@[simp]
theorem byteLength_cons (c : Char) (cs : List Char) :
    byteLength (c :: cs) = c.utf8Size + byteLength cs := rfl

@[simp]
theorem byteLength_append (cs ds : List Char) :
    byteLength (cs ++ ds) = byteLength cs + byteLength ds := by
  induction cs with
  | nil => simp
  | cons c cs ih => simp only [List.cons_append, byteLength_cons, ih, Nat.add_assoc]

-- The first characters that take exactly `n` bytes, and the rest. There are none when the text
-- is too short or when the cut would fall inside a character.
def takeBytes? : Nat → List Char → Option (List Char × List Char)
  | 0, cs => some ([], cs)
  | _ + 1, [] => none
  | n + 1, c :: cs =>
    if c.utf8Size ≤ n + 1 then
      (takeBytes? (n + 1 - c.utf8Size) cs).map fun (taken, rest) => (c :: taken, rest)
    else none
  termination_by _ cs => cs.length

theorem takeBytes?_byteLength (cs rest : List Char) :
    takeBytes? (byteLength cs) (cs ++ rest) = some (cs, rest) := by
  induction cs with
  | nil => simp [takeBytes?]
  | cons c cs ih =>
    have pos := c.utf8Size_pos
    obtain ⟨n, hn⟩ : ∃ n, c.utf8Size + byteLength cs = n + 1 :=
      ⟨c.utf8Size + byteLength cs - 1, by omega⟩
    simp only [byteLength_cons, List.cons_append, hn, takeBytes?]
    rw [if_pos (by omega), show n + 1 - c.utf8Size = byteLength cs by omega, ih]
    rfl

theorem takeBytes?_eq_some {n : Nat} {cs taken rest : List Char}
    (h : takeBytes? n cs = some (taken, rest)) : cs = taken ++ rest ∧ byteLength taken = n := by
  fun_induction takeBytes? n cs generalizing taken rest with
  | case1 => simp_all
  | case2 => simp at h
  | case3 n c cs fits ih =>
    obtain ⟨⟨t, r⟩, hr, he⟩ := Option.map_eq_some_iff.1 h
    obtain ⟨rfl, rfl⟩ : c :: t = taken ∧ r = rest := by simpa using he
    obtain ⟨rfl, hn⟩ := ih hr
    exact ⟨rfl, by simp only [byteLength_cons]; omega⟩
  | case4 => simp at h

-- What a first byte announces: how many bytes follow it, and the range of the next one.
def continuation? (b : UInt8) : Option (Nat × UInt8 × UInt8) :=
  if b < 0x80 then some (0, 0x80, 0xBF)
  else if 0xC2 ≤ b ∧ b ≤ 0xDF then some (1, 0x80, 0xBF)
  else if b = 0xE0 then some (2, 0xA0, 0xBF)
  else if b = 0xED then some (2, 0x80, 0x9F)
  else if 0xE1 ≤ b ∧ b ≤ 0xEF then some (2, 0x80, 0xBF)
  else if b = 0xF0 then some (3, 0x90, 0xBF)
  else if 0xF1 ≤ b ∧ b ≤ 0xF3 then some (3, 0x80, 0xBF)
  else if b = 0xF4 then some (3, 0x80, 0x8F)
  else none

-- The bits of the code point that a first byte carries.
def leadBits (b : UInt8) : Nat :=
  if b < 0x80 then b.toNat
  else if b < 0xE0 then b.toNat % 0x20
  else if b < 0xF0 then b.toNat % 0x10
  else b.toNat % 0x08

def replacement : Char := '\uFFFD'

-- Reads on with a character begun: `owed` more bytes, the next of them between `low` and `high`.
-- A sequence that breaks off is replaced as a whole, and the byte that broke it starts anew.
def decodeFrom : (owed code : Nat) → (low high : UInt8) → Bytes → List Char
  | 0, _, _, _, [] => []
  | _ + 1, _, _, _, [] => [replacement]
  | 0, _, _, _, b :: rest => start b rest
  | owed + 1, code, low, high, b :: rest =>
    if low ≤ b ∧ b ≤ high then
      let code := code * 0x40 + b.toNat % 0x40
      if owed = 0 then Char.ofNat code :: decodeFrom 0 0 0x80 0xBF rest
      else decodeFrom owed code 0x80 0xBF rest
    else replacement :: start b rest
where
  start (b : UInt8) (rest : Bytes) : List Char :=
    match continuation? b with
    | none => replacement :: decodeFrom 0 0 0x80 0xBF rest
    | some (0, _, _) => Char.ofNat b.toNat :: decodeFrom 0 0 0x80 0xBF rest
    | some (n + 1, low, high) => decodeFrom (n + 1) (leadBits b) low high rest

-- Every byte sequence reads as some text: what is not UTF-8 becomes U+FFFD.
def ofUtf8Lossy (bytes : Bytes) : String :=
  String.ofList (decodeFrom 0 0 0x80 0xBF bytes)

end Duplex.Text
