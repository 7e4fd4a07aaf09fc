import Duplex.Event

-- The observer bus. It keeps the newest notices for all subscribers, and each subscriber has its
-- own place in them: one that is too slow loses the oldest and goes on with what is still kept.

namespace Duplex

-- The least power of two that is at least `n`, found by doubling `p`.
def powerOfTwoFrom (p n : Nat) : Nat :=
  if 0 < p ∧ p < n then powerOfTwoFrom (2 * p) n else p
  termination_by n - p

theorem le_powerOfTwoFrom {p : Nat} (n : Nat) (pos : 0 < p) : n ≤ powerOfTwoFrom p n := by
  fun_induction powerOfTwoFrom p n with
  | case1 p h ih => exact ih (by omega)
  | case2 p h => omega

structure Subscription where
  -- How many of all notices ever emitted lie behind the subscriber.
  place : Nat
  filter : Option Event.Kind
  deriving DecidableEq, Repr

namespace Subscription

def wants (s : Subscription) (n : Notice) : Bool :=
  s.filter.all (· = n.event.kind)

end Subscription

structure Bus where
  capacity : Nat
  -- The newest notices, oldest first.
  kept : List Notice := []
  -- How many notices were ever emitted.
  emitted : Nat := 0
  -- An ended subscription leaves its number unused.
  subscriptions : List (Option Subscription) := []
  isOpen : Bool := true
  deriving DecidableEq, Repr

namespace Bus

def defaultCapacity : Nat := 1024

-- There is always place for one notice.
def ofCapacity (n : Nat) : Bus :=
  { capacity := powerOfTwoFrom 1 (max n 1) }

-- On a closed bus nothing is emitted.
def emit (b : Bus) (n : Notice) : Bus :=
  if b.isOpen then
    { b with
      kept := (b.kept ++ [n]).drop (b.kept.length + 1 - b.capacity)
      emitted := b.emitted + 1 }
  else b

def emitAll (b : Bus) (ns : List Notice) : Bus :=
  ns.foldl emit b

-- How many of all notices are kept no longer.
def lost (b : Bus) : Nat :=
  b.emitted - b.kept.length

-- A subscriber only gets what is emitted from now on.
def subscribe (b : Bus) (filter : Option Event.Kind) : Nat × Bus :=
  (b.subscriptions.length,
    { b with subscriptions := b.subscriptions ++ [some { place := b.emitted, filter }] })

def subscription? (b : Bus) (i : Nat) : Option Subscription :=
  (b.subscriptions[i]?).join

def unsubscribe (b : Bus) (i : Nat) : Bus :=
  { b with subscriptions := b.subscriptions.set i none }

def count (b : Bus) : Nat :=
  b.subscriptions.countP Option.isSome

inductive Received where
  | notice (n : Notice)
  | pending
  | ended
  deriving DecidableEq, Repr

-- The first wanted notice among those that follow `place`, and the place after it.
def next (s : Subscription) : (place : Nat) → List Notice → Option (Notice × Nat)
  | _, [] => none
  | place, n :: ns => if s.wants n then some (n, place + 1) else next s (place + 1) ns

-- A subscription ends when nobody can emit any more and all that was kept for it was received.
def receive (b : Bus) (i : Nat) : Received × Bus :=
  match b.subscription? i with
  | none => (.ended, b)
  | some s =>
    let place := max s.place b.lost
    match next s place (b.kept.drop (place - b.lost)) with
    | some (n, place) =>
      (.notice n, { b with subscriptions := b.subscriptions.set i (some { s with place }) })
    | none =>
      (if b.isOpen then .pending else .ended,
        { b with subscriptions := b.subscriptions.set i (some { s with place := b.emitted }) })

def receiveFuel (i : Nat) : (fuel : Nat) → Bus → List Notice × Bus
  | 0, b => ([], b)
  | fuel + 1, b =>
    match b.receive i with
    | (.notice n, b) =>
      let (rest, b) := receiveFuel i fuel b
      (n :: rest, b)
    | (_, b) => ([], b)

-- All that is kept for a subscriber.
def receiveAll (b : Bus) (i : Nat) : List Notice × Bus :=
  b.receiveFuel i b.kept.length

-- Nobody can emit any more.
def close (b : Bus) : Bus :=
  { b with isOpen := false }

theorem lost_add_length {b : Bus} (h : b.kept.length ≤ b.emitted) :
    b.lost + b.kept.length = b.emitted := by
  simp only [lost]
  omega

end Bus

end Duplex
