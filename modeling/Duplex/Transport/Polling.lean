import Duplex.Transport.Delivery

-- Long polling: the client leaves a request waiting, and the next packets answer it. At most one
-- such poll waits at a time.

namespace Duplex

structure Polling.Parked where
  poll : PollId
  client : Peer := .present
  deriving DecidableEq, Repr

structure Polling where
  id : TransportId
  parked : Option Polling.Parked := none
  closed : Bool := false
  deriving DecidableEq, Repr

namespace Polling

def hasLivePoll (t : Polling) : Bool :=
  t.parked.any (·.client.isThere)

-- A poll whose client went away makes place for the next one.
def register? (t : Polling) (poll : PollId) : Option Polling :=
  if t.hasLivePoll then none else some { t with parked := some { poll } }

-- The client of a poll has something to say of itself.
def setClient (t : Polling) (poll : PollId) (client : Peer) : Polling :=
  { t with
    parked := t.parked.map fun p =>
      if p.poll = poll then { p with client := p.client.become client } else p }

def writable (t : Polling) : Bool :=
  !t.closed && t.hasLivePoll

-- A waiting poll is answered with all packets or with none, and waits no longer either way.
def send (t : Polling) (packets : List Packet) : Dispatch Polling :=
  let rest := { t with parked := none }
  match t.parked with
  | none => { transport := rest, refused := some packets }
  | some p =>
    match p.client.take? with
    | some _ => { transport := rest, delivered := [.answer p.poll packets] }
    | none => { transport := rest, refused := some packets }

-- A poll that has waited long enough gets a packet that means nothing.
def release (t : Polling) : Dispatch Polling :=
  t.send [.noop]

-- A waiting poll learns of the close as its answer.
def close (t : Polling) : Dispatch Polling :=
  if t.closed then { transport := t }
  else { t with closed := true }.send [.close]

theorem register?_eq_some {t t' : Polling} {poll : PollId} (h : t.register? poll = some t') :
    t.hasLivePoll = false ∧ t' = { t with parked := some { poll } } := by
  cases live : t.hasLivePoll <;> simp_all [register?]

@[simp]
theorem id_send (t : Polling) (packets : List Packet) : (t.send packets).transport.id = t.id := by
  simp only [send]
  split <;> (try split) <;> rfl

@[simp]
theorem closed_send (t : Polling) (packets : List Packet) :
    (t.send packets).transport.closed = t.closed := by
  simp only [send]
  split <;> (try split) <;> rfl

@[simp]
theorem parked_send (t : Polling) (packets : List Packet) :
    (t.send packets).transport.parked = none := by
  simp only [send]
  split <;> (try split) <;> rfl

@[simp]
theorem id_close (t : Polling) : t.close.transport.id = t.id := by
  simp only [close]
  split <;> simp

@[simp]
theorem closed_close (t : Polling) : t.close.transport.closed = true := by
  simp only [close]
  split <;> simp_all

end Polling

end Duplex
