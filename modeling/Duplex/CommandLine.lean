import Duplex.Configuration
import Duplex.Settings.Layers

-- The flags of the echo server: reading them, and laying them over the settings.

namespace Duplex.CommandLine

inductive Flag where
  | host | port | config | pingInterval | logLevel
  deriving DecidableEq, Repr

def Flag.ofName? (name : String) : Option Flag :=
  if name = "host" then some .host
  else if name = "port" then some .port
  else if name = "config" then some .config
  else if name = "ping-interval" then some .pingInterval
  else if name = "log-level" then some .logLevel
  else none

structure Flags where
  host : Option String := none
  port : Option UInt16 := none
  config : Option String := none
  pingInterval : Option UInt64 := none
  logLevel : Option String := none
  deriving DecidableEq, Repr

-- `help` is a request and no mistake, and still ends the reading.
inductive Error where
  | unknownArgument
  | missingValue
  | badValue
  | repeatedFlag
  | valueNotTaken
  | help
  deriving DecidableEq, Repr

def Error.name : Error → String
  | .unknownArgument => "UnknownArgument"
  | .missingValue => "InvalidValue"
  | .badValue => "ValueValidation"
  | .repeatedFlag => "ArgumentConflict"
  | .valueNotTaken => "TooManyValues"
  | .help => "DisplayHelp"

-- A port is read as a signed number, so that minus zero is one.
def readPort? (value : String) : Option UInt16 :=
  match value.toList with
  | '-' :: digits => if Decimal.value? digits = some 0 then some 0 else none
  | _ => Settings.readUInt16? 0 65535 value

def readMilliseconds? (value : String) : Option UInt64 :=
  Settings.readUInt64? 0 (.ofNat (UInt64.size - 1)) value

-- A flag takes one value. A path must not be empty, and a number must be one.
def Flags.set (flags : Flags) (flag : Flag) (value : String) : Except Error Flags :=
  match flag with
  | .host => if flags.host.isSome then .error .repeatedFlag else .ok { flags with host := value }
  | .logLevel =>
    if flags.logLevel.isSome then .error .repeatedFlag else .ok { flags with logLevel := value }
  | .config =>
    if flags.config.isSome then .error .repeatedFlag
    else if value = "" then .error .missingValue
    else .ok { flags with config := value }
  | .port =>
    if flags.port.isSome then .error .repeatedFlag
    else
      match readPort? value with
      | some n => .ok { flags with port := n }
      | none => .error .badValue
  | .pingInterval =>
    if flags.pingInterval.isSome then .error .repeatedFlag
    else
      match readMilliseconds? value with
      | some n => .ok { flags with pingInterval := n }
      | none => .error .badValue

inductive Argument where
  | escape
  | long (name : String) (value : Option String)
  | short (letter : Char)
  | plain (value : String)
  deriving DecidableEq, Repr

-- A single dash is a plain value.
def Argument.ofText (s : String) : Argument :=
  match s.toList with
  | ['-', '-'] => .escape
  | '-' :: '-' :: cs =>
    match Text.cut? '=' cs with
    | some (name, value) => .long (String.ofList name) (some (String.ofList value))
    | none => .long (String.ofList cs) none
  | '-' :: c :: _ => .short c
  | _ => .plain s

-- A flag that was met and whose value is taken over as soon as the next flag is met.
structure Pending where
  flag : Flag
  value : Option String
  deriving DecidableEq, Repr

def settle (flags : Flags) : Option Pending → Except Error Flags
  | none => .ok flags
  | some ⟨_, none⟩ => .error .missingValue
  | some ⟨flag, some value⟩ => flags.set flag value

-- Reads from left to right. After the escape only values without a flag could follow, and there
-- are none.
def scan (flags : Flags) (pending : Option Pending) : List String → Except Error Flags
  | [] => settle flags pending
  | arg :: rest =>
    match Argument.ofText arg with
    | .escape => if rest = [] then settle flags pending else .error .unknownArgument
    | .short letter =>
      if letter = 'h' then
        match settle flags pending with
        | .ok _ => .error .help
        | .error e => .error e
      else .error .unknownArgument
    | .long name none =>
      if name = "help" then
        match settle flags pending with
        | .ok _ => .error .help
        | .error e => .error e
      else
        match Flag.ofName? name with
        | none => .error .unknownArgument
        | some flag =>
          match settle flags pending with
          | .ok flags => scan flags (some ⟨flag, none⟩) rest
          | .error e => .error e
    | .long name (some value) =>
      if name = "help" then .error .valueNotTaken
      else
        match Flag.ofName? name with
        | none => .error .unknownArgument
        | some flag =>
          match settle flags pending with
          | .error e => .error e
          | .ok flags =>
            match flags.set flag value with
            | .ok flags => scan flags none rest
            | .error e => .error e
    | .plain value =>
      match pending with
      | some ⟨flag, none⟩ => scan flags (some ⟨flag, some value⟩) rest
      | _ => .error .unknownArgument

def read (args : List String) : Except Error Flags :=
  scan {} none args

def Flags.apply (flags : Flags) (s : Settings) : Settings :=
  { server := { s.server with
      host := flags.host.getD s.server.host
      port := flags.port.getD s.server.port }
    engine := { s.engine with pingInterval := flags.pingInterval.getD s.engine.pingInterval }
    logging := { s.logging with level := flags.logLevel.getD s.logging.level } }

-- What the echo server starts from: it pings twice a second.
def base : Settings :=
  { engine := { pingInterval := 500 } }

-- The settings file: the flag, or else what the environment says.
def Flags.filePath (flags : Flags) (env : Settings.Environment) : String :=
  flags.config.getD (Settings.filePath env)

-- What a start of the server comes to.
structure Plan where
  flags : Flags
  settings : Settings
  configuration : Configuration
  deriving Repr

inductive Failure where
  | arguments (e : Error)
  | settings (e : Settings.Error)
  deriving DecidableEq, Repr

-- `file` gives the bytes at a path, if there is a file. The flags are laid over settings that were
-- found fit, and the result has to be fit as well.
def plan (args : List String) (env : Settings.Environment) (file : String → Option Bytes) :
    Except Failure Plan :=
  match read args with
  | .error e => .error (.arguments e)
  | .ok flags =>
    match Settings.layer base (file (flags.filePath env)) env with
    | .error e => .error (.settings e)
    | .ok settings =>
      let settings := flags.apply settings
      match Configuration.ofSettings settings with
      | .error e => .error (.settings e)
      | .ok configuration => .ok { flags, settings, configuration }

end Duplex.CommandLine
