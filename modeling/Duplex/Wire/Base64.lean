import Duplex.Text.Utf8
import Duplex.Text.Decimal

-- Bytes as base64: the standard alphabet, padded, and read back strictly, so that every byte
-- sequence has one written form.

namespace Duplex.Base64

inductive Error where
  | symbol (byte : UInt8) (offset : Nat)
  | length (total : Nat)
  | lastSymbol (byte : UInt8) (offset : Nat)
  | padding
  deriving DecidableEq, Repr

def Error.message : Error → String
  | .symbol byte offset =>
    "Invalid symbol " ++ Decimal.text byte.toNat ++ ", offset " ++ Decimal.text offset ++ "."
  | .length total => "Invalid input length: " ++ Decimal.text total
  | .lastSymbol byte offset =>
    "Invalid last symbol " ++ Decimal.text byte.toNat ++ ", offset " ++ Decimal.text offset ++ "."
  | .padding => "Invalid padding"

-- The symbol for six bits.
def symbol (n : Nat) : UInt8 :=
  if n < 26 then .ofNat (65 + n)
  else if n < 52 then .ofNat (97 + (n - 26))
  else if n < 62 then .ofNat (48 + (n - 52))
  else if n = 62 then 43
  else 47

-- The six bits that a symbol stands for.
def value? (b : UInt8) : Option Nat :=
  let n := b.toNat
  if 65 ≤ n ∧ n ≤ 90 then some (n - 65)
  else if 97 ≤ n ∧ n ≤ 122 then some (n - 97 + 26)
  else if 48 ≤ n ∧ n ≤ 57 then some (n - 48 + 52)
  else if n = 43 then some 62
  else if n = 47 then some 63
  else none

def paddingMark : UInt8 := 61

def encode : Bytes → Bytes
  | [] => []
  | [a] => [symbol (a.toNat / 4), symbol (a.toNat % 4 * 16), paddingMark, paddingMark]
  | [a, b] =>
    [symbol (a.toNat / 4), symbol (a.toNat % 4 * 16 + b.toNat / 16), symbol (b.toNat % 16 * 4),
      paddingMark]
  | a :: b :: c :: rest =>
    symbol (a.toNat / 4) :: symbol (a.toNat % 4 * 16 + b.toNat / 16) ::
      symbol (b.toNat % 16 * 4 + c.toNat / 64) :: symbol (c.toNat % 64) :: encode rest

-- Every symbol is an ASCII character.
def encodeText (bytes : Bytes) : List Char :=
  (encode bytes).map fun b => Char.ofNat b.toNat

def valueAt (b : UInt8) (offset : Nat) : Except Error Nat :=
  match value? b with
  | some n => .ok n
  | none => .error (.symbol b offset)

-- Groups of four symbols, each three bytes.
def decodeGroups : (offset : Nat) → Bytes → Except Error Bytes
  | offset, a :: b :: c :: d :: rest =>
    match valueAt a offset, valueAt b (offset + 1), valueAt c (offset + 2),
        valueAt d (offset + 3) with
    | .ok w, .ok x, .ok y, .ok z =>
      match decodeGroups (offset + 4) rest with
      | .ok bytes =>
        .ok (.ofNat (w * 4 + x / 16) :: .ofNat (x % 16 * 16 + y / 4) :: .ofNat (y % 4 * 64 + z) ::
          bytes)
      | .error e => .error e
    | .error e, _, _, _ => .error e
    | _, .error e, _, _ => .error e
    | _, _, .error e, _ => .error e
    | _, _, _, .error e => .error e
  | _, _ => .ok []

-- The last group: its symbols, and how many padding marks follow them. `index` counts from the
-- start of the group, which lies at `offset`; `pad` is the offset of the first padding mark.
def readTail : (offset index : Nat) → (pad : Option Nat) → Bytes → Except Error (List Nat × Nat)
  | _, _, _, [] => .ok ([], 0)
  | offset, index, pad, b :: rest =>
    if b = paddingMark then
      if index < 2 then .error (.symbol b (offset + index))
      else
        match readTail offset (index + 1) (pad <|> some (offset + index)) rest with
        | .ok (symbols, pads) => .ok (symbols, pads + 1)
        | .error e => .error e
    else
      match pad with
      | some first => .error (.symbol paddingMark first)
      | none =>
        match valueAt b (offset + index) with
        | .error e => .error e
        | .ok n =>
          match readTail offset (index + 1) none rest with
          | .ok (symbols, pads) => .ok (n :: symbols, pads)
          | .error e => .error e

-- The bytes of the last group. The bits of the last symbol that belong to no byte must be zero.
def decodeTail (offset : Nat) (tail : Bytes) : Except Error Bytes :=
  match readTail offset 0 none tail with
  | .error e => .error e
  | .ok (symbols, pads) =>
    if tail ≠ [] ∧ symbols.length < 2 then .error (.length (offset + symbols.length))
    else if (symbols.length + pads) % 4 ≠ 0 then .error .padding
    else
      match symbols with
      | [w, x] =>
        if x % 16 = 0 then .ok [.ofNat (w * 4 + x / 16)]
        else .error (.lastSymbol (tail.getD 1 0) (offset + 1))
      | [w, x, y] =>
        if y % 4 = 0 then .ok [.ofNat (w * 4 + x / 16), .ofNat (x % 16 * 16 + y / 4)]
        else .error (.lastSymbol (tail.getD 2 0) (offset + 2))
      | [w, x, y, z] =>
        .ok [.ofNat (w * 4 + x / 16), .ofNat (x % 16 * 16 + y / 4), .ofNat (y % 4 * 64 + z)]
      | _ => .ok []

-- Where the last group starts: it has one to four bytes, and none only in the empty text.
def tailStart (length : Nat) : Nat :=
  (length - 1) / 4 * 4

-- A byte left over after whole groups is complained about first, if it is no symbol.
def strayByte? (bytes : Bytes) : Option UInt8 :=
  if bytes.length % 4 = 1 then
    bytes.getLast?.filter fun b => b ≠ paddingMark && (value? b).isNone
  else none

def decode (bytes : Bytes) : Except Error Bytes :=
  match strayByte? bytes with
  | some b => .error (.symbol b (bytes.length - 1))
  | none =>
    let start := tailStart bytes.length
    match decodeGroups 0 (bytes.take start) with
    | .error e => .error e
    | .ok front =>
      match decodeTail start (bytes.drop start) with
      | .error e => .error e
      | .ok back => .ok (front ++ back)

def decodeText (cs : List Char) : Except Error Bytes :=
  decode (Text.charBytes cs)

end Duplex.Base64
