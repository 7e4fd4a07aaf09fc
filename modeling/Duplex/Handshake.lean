import Duplex.Json.Reader
import Duplex.Json.Writer
import Duplex.Packet

-- The record that opens a session: what the client has to know of it.

namespace Duplex

abbrev SessionId := String

-- Times are in milliseconds. A payload limit is only told where the protocol has a place for it.
structure Handshake where
  sid : SessionId
  upgrades : List String
  pingInterval : UInt64
  pingTimeout : UInt64
  maxPayload : Option UInt64
  deriving DecidableEq, Repr

namespace Handshake

def toJson (h : Handshake) : Json :=
  .object <|
    [("sid", .string h.sid), ("upgrades", .ofStrings h.upgrades),
      ("pingInterval", .ofNat h.pingInterval.toNat),
      ("pingTimeout", .ofNat h.pingTimeout.toNat)] ++
    match h.maxPayload with
    | some limit => [("maxPayload", .ofNat limit.toNat)]
    | none => []

def text (h : Handshake) : String :=
  h.toJson.render

def packet (h : Handshake) : Packet :=
  .handshake h.text

def fieldNames : List String :=
  ["sid", "upgrades", "pingInterval", "pingTimeout", "maxPayload"]

-- No field may be written twice. Other members may, they are passed over.
def hasRepeatedField : Json → Bool
  | .object members => fieldNames.any fun name => 1 < members.countP (·.1 = name)
  | _ => false

def readLimit : Json → Option (Option UInt64)
  | .null => some none
  | json => json.asUInt64?.map some

def ofJson? (json : Json) : Option Handshake := do
  if !json.isRecord fieldNames.length || hasRepeatedField json then none
  let sid ← (json.field? "sid" 0).bind Json.asString?
  let upgrades ← (json.field? "upgrades" 1).bind Json.asStrings?
  let pingInterval ← (json.field? "pingInterval" 2).bind Json.asUInt64?
  let pingTimeout ← (json.field? "pingTimeout" 3).bind Json.asUInt64?
  let maxPayload ← json.fieldOr "maxPayload" 4 none readLimit
  some { sid, upgrades, pingInterval, pingTimeout, maxPayload }

def ofText? (s : String) : Option Handshake :=
  (Json.ofText? s).bind ofJson?

end Handshake

end Duplex
