import Duplex.Text.Decimal

-- Which numbers have a value in double precision. A number is read as digits times a power of ten;
-- the digits that fit a word are read exactly, further ones only count as places. Both factors are
-- rounded before they are multiplied, so that close to the limit it matters how a number is
-- written.

namespace Duplex.Json

def word : Nat := UInt64.size

-- Appends digits to `n` as long as the number fits a word. The digits that did not fit are left.
def absorb (n : Nat) : List Char → Nat × List Char
  | [] => (n, [])
  | c :: cs =>
    let longer := 10 * n + Decimal.digitValue c
    if longer < word then absorb longer cs else (n, c :: cs)

-- The digits of a number that count, and the power of ten that belongs to them.
def leading (whole fraction : List Char) : Nat × Int :=
  let (n, extra) := absorb 0 whole
  let (n, ignored) := absorb n fraction
  (n, (extra.length : Int) + ignored.length - fraction.length)

-- How many binary digits a number in double precision has.
def precision : Nat := 53

-- The nearest natural number in double precision. Halfway between two, it is the even one.
def nearestDouble (n : Nat) : Nat :=
  let unit := Nat.pow 2 (n.log2 + 1 - precision)
  let below := n / unit
  let rest := n % unit
  if unit < 2 * rest ∨ (2 * rest = unit ∧ below % 2 = 1) then (below + 1) * unit else below * unit

-- The least magnitude that rounds to infinity.
def overflowBound : Nat := Nat.pow 2 1024 - Nat.pow 2 970

-- The greatest power of ten in double precision.
def maxPower : Nat := 308

-- Whether the product of `n` and ten to the power `exponent` rounds to infinity.
def overflows (n : Nat) (exponent : Int) : Bool :=
  if n = 0 ∨ exponent < 0 then false
  else if maxPower < exponent then true
  else decide (overflowBound ≤ nearestDouble n * nearestDouble (Nat.pow 10 exponent.toNat))

end Duplex.Json
