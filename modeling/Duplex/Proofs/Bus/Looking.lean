import Duplex.Bus

-- How a subscriber receives: it looks at its place in all that was emitted, moves on, and looks
-- again until it has something to tell. Between two looks anything can happen to the bus.

namespace Duplex

-- The least power of two that is at least `n`.

theorem isPowerOfTwo_powerOfTwoFrom {p : Nat} (n : Nat) (h : p.isPowerOfTwo) :
    (powerOfTwoFrom p n).isPowerOfTwo := by
  fun_induction powerOfTwoFrom p n with
  | case1 p _ ih => exact ih (Nat.mul_comm p 2 ▸ Nat.isPowerOfTwo_mul_two_of_isPowerOfTwo h)
  | case2 => exact h

theorem powerOfTwoFrom_le {p n c : Nat} (h : p.isPowerOfTwo) (power : c.isPowerOfTwo) (le : p ≤ c)
    (enough : n ≤ c) : powerOfTwoFrom p n ≤ c := by
  fun_induction powerOfTwoFrom p n with
  | case1 p small ih =>
    refine ih (Nat.mul_comm p 2 ▸ Nat.isPowerOfTwo_mul_two_of_isPowerOfTwo h) ?_
    obtain ⟨k, rfl⟩ := h
    obtain ⟨j, rfl⟩ := power
    have lt : k < j := (Nat.pow_lt_pow_iff_right Nat.one_lt_two).mp (by omega)
    rw [← Nat.pow_succ']
    exact Nat.pow_le_pow_right Nat.two_pos lt
  | case2 => exact le

namespace Bus

-- What a subscriber sees at its place: the notice there; that it comes too late for it and for how
-- many more; or that there is nothing yet, or never will be.
inductive Sight where
  | notice (n : Notice)
  | lagged (skipped : Nat)
  | nothing
  | ended
  deriving DecidableEq, Repr

-- What is seen at a place, and the place after it.
def sight (b : Bus) (place : Nat) : Sight × Nat :=
  if place < b.lost then (.lagged (b.lost - place), b.lost)
  else
    match b.kept[place - b.lost]? with
    | some n => (.notice n, place + 1)
    | none => (if b.isOpen then .nothing else .ended, place)

def goTo (b : Bus) (i : Nat) (s : Subscription) (place : Nat) : Bus :=
  { b with subscriptions := b.subscriptions.set i (some { s with place }) }

-- One look of a subscriber at the bus.
def look (b : Bus) (i : Nat) : Sight × Bus :=
  match b.subscription? i with
  | none => (.ended, b)
  | some s => ((b.sight s.place).1, b.goTo i s (b.sight s.place).2)

section

variable {b : Bus} {place : Nat} {n : Notice}

theorem sight_of_lt (late : place < b.lost) :
    b.sight place = (.lagged (b.lost - place), b.lost) :=
  if_pos late

theorem sight_of_some (inTime : b.lost ≤ place) (found : b.kept[place - b.lost]? = some n) :
    b.sight place = (.notice n, place + 1) := by
  rw [sight, if_neg (Nat.not_lt.mpr inTime), found]

theorem sight_of_none (inTime : b.lost ≤ place) (none_ : b.kept[place - b.lost]? = none) :
    b.sight place = (if b.isOpen then .nothing else .ended, place) := by
  rw [sight, if_neg (Nat.not_lt.mpr inTime), none_]

end

section

variable {b : Bus} {i j : Nat} {s : Subscription}

theorem look_of_some (found : b.subscription? i = some s) :
    b.look i = ((b.sight s.place).1, b.goTo i s (b.sight s.place).2) := by
  rw [look, found]

theorem lt_of_subscription? (found : b.subscription? i = some s) :
    i < b.subscriptions.length := by
  rw [subscription?, Option.join_eq_some_iff] at found
  exact (List.getElem?_eq_some_iff.mp found).1

theorem subscription?_goTo (found : b.subscription? i = some s) (place j : Nat) :
    (b.goTo i s place).subscription? j =
      if i = j then some { s with place } else b.subscription? j := by
  simp only [goTo, subscription?, List.getElem?_set, lt_of_subscription? found, if_true]
  split <;> rfl

theorem subscription?_unsubscribe (b : Bus) (i j : Nat) :
    (b.unsubscribe i).subscription? j = if i = j then none else b.subscription? j := by
  simp only [unsubscribe, subscription?, List.getElem?_set]
  split
  · split <;> rfl
  · rfl

theorem subscription?_subscribe (b : Bus) (filter : Option Event.Kind) (j : Nat) :
    (b.subscribe filter).2.subscription? j =
      if j = b.subscriptions.length then some { place := b.emitted, filter }
      else b.subscription? j := by
  simp only [subscribe, subscription?, List.getElem?_append]
  split
  · next lt => rw [if_neg (Nat.ne_of_lt lt)]
  · next ge =>
    split
    · next eq => simp [eq]
    · next ne =>
      rw [List.getElem?_eq_none (by rw [List.length_singleton]; omega),
        List.getElem?_eq_none (Nat.not_lt.mp ge)]

theorem subscription?_look_of_ne (b : Bus) {i j : Nat} (other : i ≠ j) :
    (b.look i).2.subscription? j = b.subscription? j := by
  rw [look]
  cases found : b.subscription? i with
  | none => rfl
  | some s => exact (subscription?_goTo found _ _).trans (if_neg other)

-- A look moves nothing but its subscriber.
theorem exists_look (b : Bus) (i : Nat) :
    ∃ subscriptions : List (Option Subscription),
      subscriptions.length = b.subscriptions.length ∧
        (b.look i).2 = { b with subscriptions } := by
  rw [look]
  cases b.subscription? i with
  | none => exact ⟨_, rfl, rfl⟩
  | some s => exact ⟨_, List.length_set, rfl⟩

-- Who goes where it is stays there.
theorem goTo_self (found : b.subscription? i = some s) : b.goTo i s s.place = b := by
  rw [subscription?, Option.join_eq_some_iff] at found
  obtain ⟨lt, eq⟩ := List.getElem?_eq_some_iff.mp found
  simp only [goTo, ← eq, List.set_getElem_self]

@[simp]
theorem lost_goTo (b : Bus) (i : Nat) (s : Subscription) (place : Nat) :
    (b.goTo i s place).lost = b.lost := rfl

-- The first wanted notice is found at its index, counted from the place.
theorem next_eq_find? (s : Subscription) (place : Nat) (ns : List Notice) :
    next s place ns = ((ns.zipIdx place).find? (s.wants ·.1)).map fun e => (e.1, e.2 + 1) := by
  induction ns generalizing place with
  | nil => rfl
  | cons n ns ih =>
    rw [next, List.zipIdx_cons, List.find?_cons, ih]
    cases s.wants n <;> rfl

-- What is received by a subscriber that has gone to a place.
theorem receive_goTo (found : b.subscription? i = some s) (place : Nat) :
    (b.goTo i s place).receive i =
      match ((b.kept.drop (place - b.lost)).zipIdx (max place b.lost)).find? (s.wants ·.1) with
      | some e => (.notice e.1, b.goTo i s (e.2 + 1))
      | none => (if b.isOpen then .pending else .ended, b.goTo i s b.emitted) := by
  have here : (b.goTo i s place).subscription? i = some { s with place } := by
    rw [subscription?_goTo found, if_pos rfl]
  have skip : max place b.lost - b.lost = place - b.lost := by omega
  simp only [receive, here, next_eq_find?, lost_goTo, skip]
  simp only [goTo, Subscription.wants, List.set_set]
  cases ((b.kept.drop (place - b.lost)).zipIdx (max place b.lost)).find? _ <;> rfl

theorem receive_of_some (found : b.subscription? i = some s) :
    b.receive i =
      match ((b.kept.drop (s.place - b.lost)).zipIdx (max s.place b.lost)).find? (s.wants ·.1) with
      | some e => (.notice e.1, b.goTo i s (e.2 + 1))
      | none => (if b.isOpen then .pending else .ended, b.goTo i s b.emitted) := by
  rw [← receive_goTo found, goTo_self found]

-- To receive is to look until there is something to tell: a notice that is wanted, that none is
-- there yet, or that none will be.
theorem receive_eq (found : b.subscription? i = some s) (kept : b.kept.length ≤ b.emitted)
    (behind : s.place ≤ b.emitted) :
    b.receive i =
      match b.look i with
      | (.notice n, b') => if s.wants n then (.notice n, b') else b'.receive i
      | (.lagged _, b') => b'.receive i
      | (.nothing, b') => (.pending, b')
      | (.ended, b') => (.ended, b') := by
  rw [look_of_some found, receive_of_some found]
  by_cases late : s.place < b.lost
  case pos =>
    have top : max b.lost b.lost = max s.place b.lost := by omega
    have skip : b.lost - b.lost = s.place - b.lost := by omega
    simp only [sight_of_lt late, receive_goTo found, top, skip]
  case neg =>
    have inTime := Nat.not_lt.mp late
    cases seen : b.kept[s.place - b.lost]? with
    | none =>
      have past : b.kept.length ≤ s.place - b.lost := List.getElem?_eq_none_iff.mp seen
      have last : s.place = b.emitted := by
        have := lost_add_length kept
        omega
      rw [sight_of_none inTime seen, List.drop_eq_nil_of_le past, ← last]
      cases b.isOpen <;> rfl
    | some n =>
      have front : b.kept.drop (s.place - b.lost) =
          n :: b.kept.drop (s.place + 1 - b.lost) := by
        obtain ⟨lt, eq⟩ := List.getElem?_eq_some_iff.mp seen
        rw [List.drop_eq_getElem_cons lt, eq, Nat.sub_add_comm inTime]
      have next : max (s.place + 1) b.lost = max s.place b.lost + 1 := by omega
      simp only [sight_of_some inTime seen, receive_goTo found, front, List.zipIdx_cons, next,
        List.find?_cons, Nat.max_eq_left inTime]
      cases s.wants n <;> rfl

end

end Bus

end Duplex
