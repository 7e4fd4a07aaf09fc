import Duplex.Settings.Basic
import Duplex.Text.Blank
import Duplex.Text.Decimal
import Duplex.Text.Split

-- Settings from the environment. A variable counts if it is set and can be read, any other leaves
-- the setting as it is.

namespace Duplex.Settings

abbrev Environment := String → Option String

def readBool? (s : String) : Option Bool :=
  let word := String.ofList (Text.lowercase s.toList)
  if word ∈ ["true", "1", "yes", "on"] then some true
  else if word ∈ ["false", "0", "no", "off"] then some false
  else none

def readUInt16? (min max : UInt16) (s : String) : Option UInt16 :=
  ((Decimal.unsignedUpTo? (UInt16.size - 1) s.toList).map UInt16.ofNat).filter
    fun n => min ≤ n ∧ n ≤ max

def readUInt64? (min max : UInt64) (s : String) : Option UInt64 :=
  ((Decimal.unsignedUpTo? (UInt64.size - 1) s.toList).map UInt64.ofNat).filter
    fun n => min ≤ n ∧ n ≤ max

-- Names between commas. Blank entries are passed over, but one entry there must be, and all of
-- them must be known.
def readTransports? (s : String) : Option (List String) :=
  let names := ((Text.split ',' s.toList).map Text.trim).filter (· ≠ [])
  let names := names.map String.ofList
  if names ≠ [] ∧ names.all fun name => (TransportKind.ofName? name).isSome then some names
  else none

def readText? (s : String) : Option String :=
  if s = "" then none else some s

namespace Environment

-- The names of all variables that count.
def names : List String :=
  ["EIO_PORT", "PORT", "EIO_HOST", "EIO_PATH", "EIO_PING_INTERVAL", "EIO_PING_TIMEOUT",
    "EIO_UPGRADE_TIMEOUT", "EIO_POLL_TIMEOUT", "EIO_MAX_PAYLOAD", "EIO_TRANSPORTS",
    "EIO_ALLOW_UPGRADES", "EIO_LOG_LEVEL", "EIO_LOG_JSON", "EIO_CONFIG"]

-- An environment in which only the given variables are set.
def ofList (values : List (String × String)) : Environment := fun name =>
  values.lookup name

def text? (env : Environment) (name : String) : Option String :=
  (env name).bind readText?

def bool? (env : Environment) (name : String) : Option Bool :=
  (env name).bind readBool?

def port? (env : Environment) (name : String) : Option UInt16 :=
  (env name).bind (readUInt16? 0 65535)

-- At most an hour.
def milliseconds? (env : Environment) (name : String) : Option UInt64 :=
  (env name).bind (readUInt64? 1 3600000)

-- At most a gibibyte.
def bytes? (env : Environment) (name : String) : Option UInt64 :=
  (env name).bind (readUInt64? 1 1073741824)

def transports? (env : Environment) (name : String) : Option (List String) :=
  (env name).bind readTransports?

end Environment

-- `EIO_PORT` counts before `PORT`.
def Listener.override (l : Listener) (env : Environment) : Listener :=
  { l with
    port := (env.port? "EIO_PORT").getD ((env.port? "PORT").getD l.port)
    host := (env.text? "EIO_HOST").getD l.host
    path := (env.text? "EIO_PATH").getD l.path }

def Traffic.override (t : Traffic) (env : Environment) : Traffic :=
  { t with
    pingInterval := (env.milliseconds? "EIO_PING_INTERVAL").getD t.pingInterval
    pingTimeout := (env.milliseconds? "EIO_PING_TIMEOUT").getD t.pingTimeout
    upgradeTimeout := (env.milliseconds? "EIO_UPGRADE_TIMEOUT").getD t.upgradeTimeout
    pollTimeout := (env.milliseconds? "EIO_POLL_TIMEOUT").getD t.pollTimeout
    maxPayload := (env.bytes? "EIO_MAX_PAYLOAD").getD t.maxPayload
    transports := (env.transports? "EIO_TRANSPORTS").getD t.transports
    allowUpgrades := (env.bool? "EIO_ALLOW_UPGRADES").getD t.allowUpgrades }

def Logging.override (l : Logging) (env : Environment) : Logging :=
  { level := (env.text? "EIO_LOG_LEVEL").getD l.level
    json := (env.bool? "EIO_LOG_JSON").getD l.json }

def override (s : Settings) (env : Environment) : Settings :=
  { server := s.server.override env
    engine := s.engine.override env
    logging := s.logging.override env }

-- Where the settings file is looked for.
def defaultFile : String := "eio.json"

def filePath (env : Environment) : String :=
  (env.text? "EIO_CONFIG").getD defaultFile

end Duplex.Settings
