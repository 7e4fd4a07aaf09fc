import Duplex.Settings.Basic

-- What an engine runs with. It is made from settings that were found fit.

namespace Duplex

structure Configuration where
  pingInterval : UInt64 := 25000
  pingTimeout : UInt64 := 20000
  upgradeTimeout : UInt64 := 10000
  pollTimeout : UInt64 := 25000
  maxPayload : UInt64 := 1000000
  transports : List TransportKind := [.polling, .websocket]
  allowUpgrades : Bool := true
  maxDecodeErrors : UInt32 := 3
  deriving DecidableEq, Repr, Inhabited

namespace Configuration

def ofSettings (s : Settings) : Except Settings.Error Configuration :=
  match s.validate with
  | .error e => .error e
  | .ok transports =>
    .ok {
      pingInterval := s.engine.pingInterval
      pingTimeout := s.engine.pingTimeout
      upgradeTimeout := s.engine.upgradeTimeout
      pollTimeout := s.engine.pollTimeout
      maxPayload := s.engine.maxPayload
      transports
      allowUpgrades := s.engine.allowUpgrades
      maxDecodeErrors := s.engine.maxDecodeErrors }

def allows (c : Configuration) (kind : TransportKind) : Bool :=
  kind ∈ c.transports

-- Whether a session may ever move to a websocket.
def mayUpgrade (c : Configuration) : Bool :=
  c.allowUpgrades && c.allows .websocket

def upgradesFrom (c : Configuration) (kind : TransportKind) : List String :=
  if kind = .polling ∧ c.mayUpgrade then [TransportKind.websocket.name] else []

-- How long a client may be silent. The sum can exceed a word.
def grace (c : Configuration) : Nat :=
  c.pingInterval.toNat + c.pingTimeout.toNat

end Configuration

-- A listener that no setting was made for takes any free port.
def Settings.Listener.unset : Settings.Listener :=
  { port := 0 }

end Duplex
