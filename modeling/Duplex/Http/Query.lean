import Duplex.Configuration
import Duplex.Fault
import Duplex.Text.Split
import Duplex.Text.Utf8

-- What a client asks for in the query of its request: a revision, a transport, a session.

namespace Duplex.Http

namespace Form

def hexValue? (b : UInt8) : Option UInt8 :=
  if 48 ≤ b ∧ b ≤ 57 then some (b - 48)
  else if 65 ≤ b ∧ b ≤ 70 then some (b - 55)
  else if 97 ≤ b ∧ b ≤ 102 then some (b - 87)
  else none

def percent : UInt8 := 37

-- A percent sign with two hexadecimal digits is a byte. Any other stands for itself.
def unescape : Bytes → Bytes
  | b :: high :: low :: rest =>
    if b = percent then
      match hexValue? high, hexValue? low with
      | some h, some l => (h * 16 + l) :: unescape rest
      | _, _ => b :: unescape (high :: low :: rest)
    else b :: unescape (high :: low :: rest)
  | bytes => bytes

-- A plus sign is a space, unless it is escaped.
def decode (cs : List Char) : String :=
  let spaced := cs.map fun c => if c = '+' then ' ' else c
  Text.ofUtf8Lossy (unescape (Text.charBytes spaced))

-- The name and the value of a part. A part without an equals sign has an empty value.
def pair (part : List Char) : String × String :=
  match Text.cut? '=' part with
  | some (name, value) => (decode name, decode value)
  | none => (decode part, "")

def pairs (query : List Char) : List (String × String) :=
  ((Text.split '&' query).filter (· ≠ [])).map pair

end Form

structure Query where
  revision : Option String := none
  transport : Option String := none
  session : Option String := none
  deriving DecidableEq, Repr

namespace Query

def revisionName : String := "EIO"

def transportName : String := "transport"

def sessionName : String := "sid"

def values (name : String) (pairs : List (String × String)) : List String :=
  (pairs.filter (·.1 = name)).map (·.2)

def atMostOne? : List String → Option (Option String)
  | [] => some none
  | [value] => some (some value)
  | _ => none

-- Nothing may be asked for twice. Other names are passed over.
def ofChars? (query : List Char) : Option Query := do
  let pairs := Form.pairs query
  let revision ← atMostOne? (values revisionName pairs)
  let transport ← atMostOne? (values transportName pairs)
  let session ← atMostOne? (values sessionName pairs)
  some { revision, transport, session }

def askedRevision (q : Query) : Except Fault Revision :=
  let name := q.revision.getD ""
  match Revision.ofName? name with
  | some revision => .ok revision
  | none => .error (.unsupportedRevision name)

-- A transport that the configuration does not allow is as good as unknown.
def askedTransport (q : Query) (c : Configuration) : Except Fault TransportKind :=
  let name := q.transport.getD ""
  match (TransportKind.ofName? name).filter c.allows with
  | some kind => .ok kind
  | none => .error (.unknownTransport name)

end Query

end Duplex.Http
