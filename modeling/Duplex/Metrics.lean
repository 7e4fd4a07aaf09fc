import Duplex.Revision
import Duplex.Text.Decimal

-- What an engine counts.

namespace Duplex

inductive Meter where
  | opened (transport : TransportKind)
  | closed
  | upgraded
  | upgradeFailed
  | undecodable
  | sent (packets : Nat)
  | received
  deriving DecidableEq, Repr

structure Metrics where
  openedPolling : Nat := 0
  openedWebsocket : Nat := 0
  closed : Nat := 0
  -- Sessions that are open now.
  active : Int := 0
  upgrades : Nat := 0
  upgradeFailures : Nat := 0
  decodeErrors : Nat := 0
  packetsSent : Nat := 0
  packetsReceived : Nat := 0
  deriving DecidableEq, Repr

namespace Metrics

def record (m : Metrics) : Meter → Metrics
  | .opened .polling => { m with openedPolling := m.openedPolling + 1, active := m.active + 1 }
  | .opened .websocket =>
    { m with openedWebsocket := m.openedWebsocket + 1, active := m.active + 1 }
  | .closed => { m with closed := m.closed + 1, active := m.active - 1 }
  | .upgraded => { m with upgrades := m.upgrades + 1 }
  | .upgradeFailed => { m with upgradeFailures := m.upgradeFailures + 1 }
  | .undecodable => { m with decodeErrors := m.decodeErrors + 1 }
  | .sent packets => { m with packetsSent := m.packetsSent + packets }
  | .received => { m with packetsReceived := m.packetsReceived + 1 }

def opened (m : Metrics) : Nat :=
  m.openedPolling + m.openedWebsocket

def sample (name value : String) : String :=
  name ++ " " ++ value

def openedSeries (kind : TransportKind) : String :=
  "eio_sessions_opened_total\x7btransport=\"" ++ kind.name ++ "\"\x7d"

def counterLine (name : String) (n : Nat) : List String :=
  if n = 0 then [] else [sample name (Decimal.text n)]

def activeLine (m : Metrics) : List String :=
  if m.opened + m.closed = 0 then []
  else
    let sign := if m.active < 0 then "-" else ""
    [sample "eio_sessions_active" (sign ++ Decimal.text m.active.natAbs)]

-- One line for each number that was ever touched, sorted.
def lines (m : Metrics) : List String :=
  counterLine "eio_decode_errors_total" m.decodeErrors ++
    counterLine "eio_packets_received_total" m.packetsReceived ++
    counterLine "eio_packets_sent_total" m.packetsSent ++
    activeLine m ++
    counterLine "eio_sessions_closed_total" m.closed ++
    counterLine (openedSeries .polling) m.openedPolling ++
    counterLine (openedSeries .websocket) m.openedWebsocket ++
    counterLine "eio_upgrade_failures_total" m.upgradeFailures ++
    counterLine "eio_upgrades_total" m.upgrades

end Metrics

end Duplex
