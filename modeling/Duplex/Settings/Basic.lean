import Duplex.Json.Basic
import Duplex.Revision
import Duplex.Text.Quoted

-- Settings: what an operator can choose, with defaults, their JSON form, and what makes them
-- fit to run with.

namespace Duplex

-- A port of zero lets the system choose one.
structure Settings.Listener where
  host : String := "127.0.0.1"
  port : UInt16 := 3000
  path : String := "/engine.io/"
  cors : Bool := false
  deriving DecidableEq, Repr

-- Times are in milliseconds, the payload limit in bytes.
structure Settings.Traffic where
  pingInterval : UInt64 := 25000
  pingTimeout : UInt64 := 20000
  upgradeTimeout : UInt64 := 10000
  pollTimeout : UInt64 := 25000
  maxPayload : UInt64 := 1000000
  transports : List String := ["polling", "websocket"]
  allowUpgrades : Bool := true
  maxDecodeErrors : UInt32 := 3
  deriving DecidableEq, Repr

structure Settings.Logging where
  level : String := "info"
  json : Bool := false
  deriving DecidableEq, Repr

structure Settings where
  server : Settings.Listener := {}
  engine : Settings.Traffic := {}
  logging : Settings.Logging := {}
  deriving DecidableEq, Repr

namespace Settings

inductive Error where
  | unreadableFile
  | json
  | notPositive (field : String)
  | unknownTransport (name : String)
  | noTransport
  | badPath (path : String)
  deriving DecidableEq, Repr

-- The text for a setting that cannot be run with. The other two causes carry no text here.
def Error.message? : Error → Option String
  | .unreadableFile => none
  | .json => none
  | .notPositive field => some ("invalid settings value: " ++ field ++ " must be > 0")
  | .unknownTransport name =>
    some ("invalid settings value: unknown transport " ++ Text.quote name)
  | .noTransport => some "invalid settings value: at least one transport must be enabled"
  | .badPath path =>
    some ("invalid settings value: path " ++ Text.quote path ++ " must start with '/'")

def Listener.toJson (l : Listener) : Json :=
  .object [("host", .string l.host), ("port", .ofNat l.port.toNat), ("path", .string l.path),
    ("cors", .bool l.cors)]

def Traffic.toJson (t : Traffic) : Json :=
  .object [("pingIntervalMs", .ofNat t.pingInterval.toNat),
    ("pingTimeoutMs", .ofNat t.pingTimeout.toNat),
    ("upgradeTimeoutMs", .ofNat t.upgradeTimeout.toNat),
    ("pollTimeoutMs", .ofNat t.pollTimeout.toNat), ("maxPayload", .ofNat t.maxPayload.toNat),
    ("transports", .ofStrings t.transports), ("allowUpgrades", .bool t.allowUpgrades),
    ("maxDecodeErrors", .ofNat t.maxDecodeErrors.toNat)]

def Logging.toJson (l : Logging) : Json :=
  .object [("level", .string l.level), ("json", .bool l.json)]

def toJson (s : Settings) : Json :=
  .object [("server", s.server.toJson), ("engine", s.engine.toJson),
    ("logging", s.logging.toJson)]

def Listener.ofJson? (json : Json) : Option Listener := do
  if !json.isRecord 4 then none
  let default : Listener := {}
  let host ← json.fieldOr "host" 0 default.host Json.asString?
  let port ← json.fieldOr "port" 1 default.port Json.asUInt16?
  let path ← json.fieldOr "path" 2 default.path Json.asString?
  let cors ← json.fieldOr "cors" 3 default.cors Json.asBool?
  some { host, port, path, cors }

def Traffic.ofJson? (json : Json) : Option Traffic := do
  if !json.isRecord 8 then none
  let default : Traffic := {}
  let pingInterval ← json.fieldOr "pingIntervalMs" 0 default.pingInterval Json.asUInt64?
  let pingTimeout ← json.fieldOr "pingTimeoutMs" 1 default.pingTimeout Json.asUInt64?
  let upgradeTimeout ← json.fieldOr "upgradeTimeoutMs" 2 default.upgradeTimeout Json.asUInt64?
  let pollTimeout ← json.fieldOr "pollTimeoutMs" 3 default.pollTimeout Json.asUInt64?
  let maxPayload ← json.fieldOr "maxPayload" 4 default.maxPayload Json.asUInt64?
  let transports ← json.fieldOr "transports" 5 default.transports Json.asStrings?
  let allowUpgrades ← json.fieldOr "allowUpgrades" 6 default.allowUpgrades Json.asBool?
  let maxDecodeErrors ← json.fieldOr "maxDecodeErrors" 7 default.maxDecodeErrors Json.asUInt32?
  some ⟨pingInterval, pingTimeout, upgradeTimeout, pollTimeout, maxPayload, transports,
    allowUpgrades, maxDecodeErrors⟩

def Logging.ofJson? (json : Json) : Option Logging := do
  if !json.isRecord 2 then none
  let default : Logging := {}
  let level ← json.fieldOr "level" 0 default.level Json.asString?
  let jsonLines ← json.fieldOr "json" 1 default.json Json.asBool?
  some { level, json := jsonLines }

def ofJson? (json : Json) : Option Settings := do
  if !json.isRecord 3 then none
  let server ← json.fieldOr "server" 0 {} Listener.ofJson?
  let engine ← json.fieldOr "engine" 1 {} Traffic.ofJson?
  let logging ← json.fieldOr "logging" 2 {} Logging.ofJson?
  some { server, engine, logging }

-- The transports by their names, or the first name that is none.
def kinds : List String → Except Error (List TransportKind)
  | [] => .ok []
  | name :: names =>
    match TransportKind.ofName? name with
    | none => .error (.unknownTransport name)
    | some kind =>
      match kinds names with
      | .ok rest => .ok (kind :: rest)
      | .error e => .error e

def positives (t : Traffic) : List (String × UInt64) :=
  [("pingIntervalMs", t.pingInterval), ("pingTimeoutMs", t.pingTimeout),
    ("upgradeTimeoutMs", t.upgradeTimeout), ("pollTimeoutMs", t.pollTimeout),
    ("maxPayload", t.maxPayload)]

-- Whether an engine can run with the settings: the transports to run, or the first complaint.
def validate (s : Settings) : Except Error (List TransportKind) :=
  match (positives s.engine).find? (·.2 = 0) with
  | some (field, _) => .error (.notPositive field)
  | none =>
    match kinds s.engine.transports with
    | .error e => .error e
    | .ok [] => .error .noTransport
    | .ok (kind :: rest) =>
      if s.server.path.toList.head? = some '/' then .ok (kind :: rest)
      else .error (.badPath s.server.path)

end Settings

end Duplex
