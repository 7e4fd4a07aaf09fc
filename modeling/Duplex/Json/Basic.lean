-- JSON values.

namespace Duplex

-- An integer in 64 bits is kept as it is. Every other number is a decimal fraction: `mantissa`
-- times ten to the power `exponent`. Minus zero is one of those.
inductive Json.Number where
  | integer (value : Int)
  | decimal (mantissa : Int) (exponent : Int)
  deriving DecidableEq, Repr, Inhabited

-- `unreadable` is written correctly and still has no value: a text with half of a surrogate pair, an
-- object with such a key, or a number too large.
inductive Json where
  | null
  | bool (b : Bool)
  | number (n : Json.Number)
  | string (s : String)
  | array (items : List Json)
  | object (members : List (String × Json))
  | unreadable
  deriving Repr, Inhabited

namespace Json

abbrev Members := List (String × Json)

namespace Members

def get? (members : Members) (key : String) : Option Json :=
  List.lookup key members

-- A key that is there keeps its place.
def put (members : Members) (key : String) (value : Json) : Members :=
  match members with
  | [] => [(key, value)]
  | (k, v) :: rest => if k = key then (k, value) :: rest else (k, v) :: put rest key value

end Members

def isNull : Json → Bool
  | null => true
  | _ => false

mutual

-- How deep arrays and objects lie inside each other.
def depth : Json → Nat
  | array items => depthOfItems items + 1
  | object members => depthOfMembers members + 1
  | _ => 0

def depthOfItems : List Json → Nat
  | [] => 0
  | item :: items => max item.depth (depthOfItems items)

def depthOfMembers : List (String × Json) → Nat
  | [] => 0
  | (_, value) :: members => max value.depth (depthOfMembers members)

end

mutual

def isReadable : Json → Bool
  | array items => areReadable items
  | object members => areReadableMembers members
  | unreadable => false
  | _ => true

def areReadable : List Json → Bool
  | [] => true
  | item :: items => item.isReadable && areReadable items

def areReadableMembers : List (String × Json) → Bool
  | [] => true
  | (_, value) :: members => value.isReadable && areReadableMembers members

end

mutual

-- Of the members with one key the last one counts.
def distinct : Json → Json
  | array items => array (distinctItems items)
  | object members => object (distinctMembers [] members)
  | json => json

def distinctItems : List Json → List Json
  | [] => []
  | item :: items => item.distinct :: distinctItems items

def distinctMembers (found : Members) : List (String × Json) → Members
  | [] => found
  | (key, value) :: members => distinctMembers (Members.put found key value.distinct) members

end

-- How deep a value may be that is read as a whole.
def maxDepth : Nat := 127

-- The value of a text that was read, if every part of it has one.
def value? (json : Json) : Option Json :=
  if json.isReadable ∧ json.depth ≤ maxDepth then some json.distinct else none

def asString? : Json → Option String
  | string s => some s
  | _ => none

def asBool? : Json → Option Bool
  | bool b => some b
  | _ => none

def asArray? : Json → Option (List Json)
  | array items => some items
  | _ => none

-- A natural number below `bound`. A fraction or an exponent is refused, whatever its value.
def asNatBelow? (bound : Nat) : Json → Option Nat
  | number (.integer n) => if 0 ≤ n ∧ n < bound then some n.toNat else none
  | _ => none

def asUInt16? (json : Json) : Option UInt16 :=
  (json.asNatBelow? UInt16.size).map .ofNat

def asUInt32? (json : Json) : Option UInt32 :=
  (json.asNatBelow? UInt32.size).map .ofNat

def asUInt64? (json : Json) : Option UInt64 :=
  (json.asNatBelow? UInt64.size).map .ofNat

def asStrings? (json : Json) : Option (List String) :=
  json.asArray?.bind fun items => items.mapM asString?

def ofNat (n : Nat) : Json :=
  number (.integer n)

def ofStrings (ss : List String) : Json :=
  array (ss.map string)

-- A record of `count` fields is an object with the fields as keys, or an array with the fields in
-- order from the first on.
def isRecord (count : Nat) : Json → Bool
  | object _ => true
  | array items => decide (items.length ≤ count)
  | _ => false

def field? (json : Json) (name : String) (index : Nat) : Option Json :=
  match json with
  | object members => Members.get? members name
  | array items => items[index]?
  | _ => none

-- A field that is left out has its default.
def fieldOr {α : Type} (json : Json) (name : String) (index : Nat) (default : α)
    (read : Json → Option α) : Option α :=
  match json.field? name index with
  | some value => read value
  | none => some default

end Json

end Duplex
