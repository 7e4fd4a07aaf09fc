import Duplex.Text.Invisible

-- Text as it is quoted in a message: between quotes, on one line, every character visible.

namespace Duplex.Text

def hexDigit (n : Nat) : Char :=
  if n < 10 then Char.ofNat (48 + n) else Char.ofNat (87 + n)

def hexDigits (n : Nat) : List Char :=
  if n < 16 then [hexDigit n] else hexDigits (n / 16) ++ [hexDigit (n % 16)]

-- One character between quotes of the given kind: the quote and the backslash take a backslash, a
-- few controls have a letter, and what has no printed form is written as its code point.
def quoteInside (mark c : Char) : List Char :=
  if c = mark ∨ c = '\\' then ['\\', c]
  else if c = '\x00' then ['\\', '0']
  else if c = '\t' then ['\\', 't']
  else if c = '\n' then ['\\', 'n']
  else if c = '\r' then ['\\', 'r']
  else if isInvisible c then ['\\', 'u', '\x7b'] ++ hexDigits c.toNat ++ ['\x7d']
  else [c]

def quote (s : String) : String :=
  String.ofList ('"' :: s.toList.flatMap (quoteInside '"') ++ ['"'])

def quoteChar (c : Char) : String :=
  String.ofList ('\'' :: quoteInside '\'' c ++ ['\''])

end Duplex.Text
