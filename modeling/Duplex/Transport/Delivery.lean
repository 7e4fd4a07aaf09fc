import Duplex.Wire.Frame

-- What a transport hands over, and to whom.

namespace Duplex

abbrev TransportId := Nat

abbrev PollId := Nat

-- The other end of a waiting poll or of a websocket's writer. It can go away at any moment, also
-- in the middle of a send: one that is `leaving n` is still there and takes `n` deliveries more.
inductive Peer where
  | present
  | leaving (n : Nat)
  | gone
  deriving DecidableEq, Repr, Inhabited

namespace Peer

def isThere : Peer → Bool
  | present | leaving _ => true
  | gone => false

-- The peer after it took one delivery, unless it refuses.
def take? : Peer → Option Peer
  | present => some present
  | leaving (n + 1) => some (leaving n)
  | leaving 0 | gone => none

-- What a peer says of itself. One that is gone never comes back.
def become (p said : Peer) : Peer :=
  if p.isThere then said else p

@[simp]
theorem become_gone (said : Peer) : gone.become said = gone := rfl

-- A peer that is not about to go away.
def isSettled : Peer → Bool
  | present | gone => true
  | leaving _ => false

theorem isSome_take? {p : Peer} (h : p.isSettled) : p.take?.isSome = p.isThere := by
  cases p <;> simp_all [isSettled, take?, isThere]

end Peer

-- An answered poll, a frame for a websocket's writer, and the end of what the writer gets.
inductive Delivery where
  | answer (poll : PollId) (packets : List Packet)
  | frame (websocket : TransportId) (frame : Frame)
  | hangUp (websocket : TransportId)
  deriving DecidableEq, Repr

-- What came of a send: the transport afterwards, what it handed over, and the packets that it gives
-- back when it could not take them all.
structure Dispatch (τ : Type) where
  transport : τ
  delivered : List Delivery := []
  refused : Option (List Packet) := none

end Duplex
