import Duplex.Fault
import Duplex.Text.Split

-- Requests and responses.

namespace Duplex.Http

-- Header lines by their names, which are in lower case. A name can have several values.
abbrev Headers := List (String × String)

namespace Headers

-- Names are the same in upper and lower case.
def ofList (lines : List (String × String)) : Headers :=
  lines.map fun (name, value) => (name.toLower, value)

-- The first value for a name.
def get? (hs : Headers) (name : String) : Option String :=
  hs.lookup name.toLower

def has (hs : Headers) (name : String) : Bool :=
  (hs.get? name).isSome

-- One more value for a name.
def append (hs : Headers) (name value : String) : Headers :=
  hs ++ [(name.toLower, value)]

-- The only value for a name.
def insert (hs : Headers) (name value : String) : Headers :=
  hs.filter (·.1 ≠ name.toLower) ++ [(name.toLower, value)]

-- New lines take the place of all lines with the same names.
def override (hs new : Headers) : Headers :=
  hs.filter (!new.has ·.1) ++ new

end Headers

structure Request where
  method : String
  target : String
  headers : Headers := []
  deriving DecidableEq, Repr

structure Response where
  status : Nat
  headers : Headers := []
  body : String := ""
  deriving DecidableEq, Repr

namespace Request

def isSchemeChar (c : Char) : Bool :=
  c.isAlphanum || c = '+' || c = '-' || c = '.'

-- A target may name a scheme and an authority in front of its path.
def withoutAuthority (target : List Char) : List Char :=
  match target.dropWhile isSchemeChar with
  | ':' :: '/' :: '/' :: rest => rest.dropWhile fun c => c ≠ '/' ∧ c ≠ '?'
  | _ => target

-- What stands behind a number sign is no part of a target.
def parts (r : Request) : List Char × Option (List Char) :=
  let target := withoutAuthority (r.target.toList.takeWhile (· ≠ '#'))
  match Text.cut? '?' target with
  | some (path, query) => (path, some query)
  | none => (target, none)

-- A target without a path has the path of the root.
def path (r : Request) : String :=
  match r.parts.1 with
  | [] => "/"
  | path => String.ofList path

def query (r : Request) : List Char :=
  r.parts.2.getD []

end Request

namespace Response

def contentType : String := "content-type"

def typed (status : Nat) (type body : String) : Response :=
  { status, headers := [(contentType, type)], body }

def batch (body : String) : Response :=
  typed 200 "text/plain; charset=UTF-8" body

def json (status : Nat) (value : Json) : Response :=
  typed status "application/json" value.render

def ofFault (f : Fault) : Response :=
  typed f.status "application/json" f.body

def notFound : Response := { status := 404 }

def methodNotAllowed : Response := { status := 405 }

def switching : Response := { status := 101 }

end Response

end Duplex.Http
