import Duplex.Proofs.Bus.Looking

-- A bus, those who can emit on it and those who listen, as they come and go. Subscribers look at the
-- bus one look at a time, and anything can be emitted in between.

namespace Duplex

-- A subscription as it began, and what it has returned. Every notice comes with its number among
-- all that were emitted.
structure Broadcast.Reader where
  first : Subscription
  returned : List (Notice × Nat) := []
  deriving DecidableEq, Repr

-- All that was ever emitted is `past`, oldest first. A reader stays in its place when its
-- subscription is over.
structure Broadcast where
  bus : Bus
  senders : Nat := 1
  past : List Notice := []
  readers : List Broadcast.Reader := []
  deriving DecidableEq, Repr

namespace Broadcast

def ofCapacity (capacity : Nat) : Broadcast :=
  { bus := .ofCapacity capacity }

-- Who can emit can also let others emit, let them subscribe, and go away.
inductive Act where
  | emit (n : Notice)
  | share
  | leave
  | subscribe (filter : Option Event.Kind)
  | look (i : Nat)
  | unsubscribe (i : Nat)
  deriving DecidableEq, Repr

def Act.needsSender : Act → Bool
  | emit _ | share | leave | subscribe _ => true
  | look _ | unsubscribe _ => false

-- What a subscriber returns for having looked.
def heard (f : Broadcast) (i : Nat) : List (Notice × Nat) :=
  match f.bus.subscription? i with
  | none => []
  | some s =>
    match (f.bus.sight s.place).1 with
    | .notice n => if s.wants n then [(n, s.place)] else []
    | .lagged _ | .nothing | .ended => []

-- The bus is closed when nobody is left who can emit.
def step (f : Broadcast) : Act → Broadcast
  | .emit n => { f with bus := f.bus.emit n, past := f.past ++ [n] }
  | .share => { f with senders := f.senders + 1 }
  | .leave =>
    { f with
      senders := f.senders - 1
      bus := if f.senders = 1 then f.bus.close else f.bus }
  | .subscribe filter =>
    { f with
      bus := (f.bus.subscribe filter).2
      readers := f.readers ++ [{ first := { place := f.past.length, filter } }] }
  | .look i =>
    { f with
      bus := (f.bus.look i).2
      readers := f.readers.modify i fun r => { r with returned := r.returned ++ f.heard i } }
  | .unsubscribe i => { f with bus := f.bus.unsubscribe i }

def perform (f : Broadcast) (a : Act) : Broadcast :=
  if f.senders = 0 ∧ a.needsSender then f else f.step a

def run (f : Broadcast) (acts : List Act) : Broadcast :=
  acts.foldl perform f

-- What of the past concerns a reader.
def Reader.concerned (r : Reader) (past : List Notice) : List (Notice × Nat) :=
  (past.zipIdx.drop r.first.place).filter (r.first.wants ·.1)

-- How many notices were emitted after the one with the number.
def later (f : Broadcast) (p : Nat) : Nat :=
  f.past.length - (p + 1)

-- What a reader has not returned and still can get.
def due (f : Broadcast) (r : Reader) : List (Notice × Nat) :=
  (r.concerned f.past).filter fun e => f.later e.2 < f.bus.capacity ∧ e ∉ r.returned

theorem mem_zipIdx_drop_iff {α : Type} {xs : List α} {e : α × Nat} {p : Nat} :
    e ∈ xs.zipIdx.drop p ↔ xs[e.2]? = some e.1 ∧ p ≤ e.2 := by
  rw [List.mem_iff_getElem?]
  simp only [List.getElem?_drop, List.getElem?_zipIdx, Option.map_eq_some_iff, Nat.zero_add]
  constructor
  · rintro ⟨j, _, found, rfl⟩
    exact ⟨found, Nat.le_add_right p j⟩
  · rintro ⟨found, le⟩
    exact ⟨e.2 - p, e.1, by rwa [Nat.add_sub_cancel' le], by rw [Nat.add_sub_cancel' le]⟩

section

variable {r : Reader} {past : List Notice} {e : Notice × Nat} {n : Notice} {p : Nat}

theorem mem_concerned_iff :
    e ∈ r.concerned past ↔ past[e.2]? = some e.1 ∧ r.first.place ≤ e.2 ∧ r.first.wants e.1 := by
  rw [Reader.concerned, List.mem_filter, mem_zipIdx_drop_iff, and_assoc]

theorem mem_concerned_append_iff {more : List Notice} (lt : e.2 < past.length) :
    e ∈ r.concerned (past ++ more) ↔ e ∈ r.concerned past := by
  rw [mem_concerned_iff, mem_concerned_iff, List.getElem?_append_left lt]

theorem concerned_sublist_append (r : Reader) (past more : List Notice) :
    (r.concerned past).Sublist (r.concerned (past ++ more)) := by
  rw [Reader.concerned, Reader.concerned, List.zipIdx_append, List.drop_append, List.filter_append]
  exact List.sublist_append_left _ _

theorem concerned_take_sublist (r : Reader) (past : List Notice) {p q : Nat} (le : p ≤ q) :
    (r.concerned (past.take p)).Sublist (r.concerned (past.take q)) := by
  have split := List.take_append_drop p (past.take q)
  rw [List.take_take, Nat.min_eq_left le] at split
  rw [← split]
  exact concerned_sublist_append r _ _

theorem concerned_take_succ (found : past[p]? = some n) (from_ : r.first.place ≤ p) :
    r.concerned (past.take (p + 1)) =
      r.concerned (past.take p) ++ if r.first.wants n then [(n, p)] else [] := by
  obtain ⟨lt, _⟩ := List.getElem?_eq_some_iff.mp found
  have length : (past.take p).length = p := List.length_take_of_le (Nat.le_of_lt lt)
  rw [List.take_add_one, found, Reader.concerned, List.zipIdx_append, List.drop_append,
    List.filter_append, length, List.length_zipIdx, length, Nat.sub_eq_zero_of_le from_]
  congr 1
  simp only [Option.toList_some, List.zipIdx_cons, List.zipIdx_nil, List.drop_zero, Nat.zero_add,
    List.filter_cons, List.filter_nil]

end

-- The bus keeps the newest of the past, and it is open as long as somebody can emit.
structure Stocked (f : Broadcast) : Prop where
  some_ : 0 < f.bus.capacity
  kept : f.bus.kept = f.past.drop (f.past.length - f.bus.capacity)
  emitted : f.bus.emitted = f.past.length
  isOpen : f.bus.isOpen = decide (f.senders ≠ 0)
  all : f.readers.length = f.bus.subscriptions.length

section

variable {f : Broadcast} {a : Act} {k : Nat} {s : Subscription} {r : Reader}

theorem drop_keeps_newest {past : List Notice} {capacity : Nat} (n : Notice) :
    let kept := past.drop (past.length - capacity)
    (kept ++ [n]).drop (kept.length + 1 - capacity) =
      (past ++ [n]).drop ((past ++ [n]).length - capacity) := by
  intro kept
  have moved : past.length - capacity + (kept.length + 1 - capacity) =
      (past ++ [n]).length - capacity := by
    simp only [kept, List.length_drop, List.length_append, List.length_singleton]
    omega
  rw [← moved, ← List.drop_drop, List.drop_append_of_le_length (Nat.sub_le _ _)]

namespace Stocked

theorem lost (i : f.Stocked) : f.bus.lost = f.past.length - f.bus.capacity := by
  rw [Bus.lost, i.emitted, i.kept, List.length_drop]
  omega

theorem length_kept_le (i : f.Stocked) : f.bus.kept.length ≤ f.bus.emitted := by
  rw [i.emitted, i.kept, List.length_drop]
  exact Nat.sub_le _ _

theorem getElem?_kept (i : f.Stocked) {p : Nat} (inTime : f.bus.lost ≤ p) :
    f.bus.kept[p - f.bus.lost]? = f.past[p]? := by
  rw [i.kept, ← i.lost, List.getElem?_drop, Nat.add_sub_cancel' inTime]

theorem perform (i : f.Stocked) (a : Act) : (f.perform a).Stocked := by
  rw [Broadcast.perform]
  split
  · exact i
  next present =>
    have isOpen (needs : a.needsSender) : f.bus.isOpen = true := by
      rw [i.isOpen, decide_eq_true_eq]
      exact fun none_ => present ⟨none_, needs⟩
    cases a with
    | emit n =>
      have emitted : f.bus.emit n = { f.bus with
          kept := (f.bus.kept ++ [n]).drop (f.bus.kept.length + 1 - f.bus.capacity)
          emitted := f.bus.emitted + 1 } := if_pos (isOpen rfl)
      simp only [step, emitted]
      refine ⟨i.some_, ?_, ?_, i.isOpen, i.all⟩
      · rw [i.kept]
        exact drop_keeps_newest n
      · rw [i.emitted, List.length_append, List.length_singleton]
    | share => exact ⟨i.some_, i.kept, i.emitted, by rw [step, isOpen rfl]; simp, i.all⟩
    | leave =>
      simp only [step]
      split
      · next last => exact ⟨i.some_, i.kept, i.emitted, by simp [Bus.close, last], i.all⟩
      · next more =>
        refine ⟨i.some_, i.kept, i.emitted, ?_, i.all⟩
        have some_ : f.senders - 1 ≠ 0 := by
          have present : f.senders ≠ 0 := fun none_ => present ⟨none_, rfl⟩
          omega
        rw [isOpen rfl, decide_eq_true some_]
    | subscribe filter =>
      refine ⟨i.some_, i.kept, i.emitted, i.isOpen, ?_⟩
      simp [step, Bus.subscribe, i.all]
    | look k =>
      obtain ⟨subscriptions, same, looked⟩ := f.bus.exists_look k
      simp only [step, looked]
      exact ⟨i.some_, i.kept, i.emitted, i.isOpen, by rw [List.length_modify, i.all, same]⟩
    | unsubscribe k =>
      exact ⟨i.some_, i.kept, i.emitted, i.isOpen, by simp [step, Bus.unsubscribe, i.all]⟩

end Stocked

-- What an act can do to one subscription and its reader: it begins, it stays as it is, it loses what
-- it comes too late for, or it sees a notice.
inductive Course (f : Broadcast) (k : Nat) : Act → Subscription → Reader → Prop
  | begins (filter : Option Event.Kind) :
    Course f k (.subscribe filter) { place := f.past.length, filter }
      { first := { place := f.past.length, filter } }
  | stays {a : Act} {s : Subscription} {r : Reader} (found : f.bus.subscription? k = some s)
    (reader : f.readers[k]? = some r) : Course f k a s r
  | loses {s : Subscription} {r : Reader} (found : f.bus.subscription? k = some s)
    (reader : f.readers[k]? = some r) (late : s.place < f.bus.lost) :
    Course f k (.look k) { s with place := f.bus.lost } r
  | sees {s : Subscription} {r : Reader} {n : Notice} (found : f.bus.subscription? k = some s)
    (reader : f.readers[k]? = some r) (inTime : f.bus.lost ≤ s.place)
    (seen : f.past[s.place]? = some n) :
    Course f k (.look k) { s with place := s.place + 1 }
      { r with returned := r.returned ++ if s.wants n then [(n, s.place)] else [] }

theorem heard_of_some (found : f.bus.subscription? k = some s) :
    f.heard k =
      match (f.bus.sight s.place).1 with
      | .notice n => if s.wants n then [(n, s.place)] else []
      | .lagged _ | .nothing | .ended => [] := by
  rw [heard, found]

theorem course_look (i : f.Stocked) (found : (f.step (.look k)).bus.subscription? k = some s)
    (reader : (f.step (.look k)).readers[k]? = some r) : Course f k (.look k) s r := by
  simp only [step] at found reader
  rw [List.getElem?_modify_eq] at reader
  obtain ⟨r', before, rfl⟩ := Option.map_eq_some_iff.mp reader
  cases found' : f.bus.subscription? k with
  | none =>
    rw [Bus.look, found'] at found
    cases found'.symm.trans found
  | some t =>
    rw [Bus.look_of_some found', Bus.subscription?_goTo found', if_pos rfl] at found
    obtain rfl := Option.some.inj found
    by_cases late : t.place < f.bus.lost
    case pos =>
      have nothing : f.heard k = [] := by rw [heard_of_some found', Bus.sight_of_lt late]
      rw [nothing, List.append_nil, Bus.sight_of_lt late]
      exact .loses found' before late
    case neg =>
      have inTime := Nat.not_lt.mp late
      cases seen : f.bus.kept[t.place - f.bus.lost]? with
      | none =>
        have nothing : f.heard k = [] := by
          rw [heard_of_some found', Bus.sight_of_none inTime seen]
          cases f.bus.isOpen <;> rfl
        rw [nothing, List.append_nil, Bus.sight_of_none inTime seen]
        exact .stays found' before
      | some n =>
        rw [heard_of_some found', Bus.sight_of_some inTime seen]
        exact .sees found' before inTime (i.getElem?_kept inTime ▸ seen)

theorem course_perform (i : f.Stocked) (found : (f.perform a).bus.subscription? k = some s)
    (reader : (f.perform a).readers[k]? = some r) : Course f k a s r := by
  rw [perform] at found reader
  split at found
  · next away =>
    rw [if_pos away] at reader
    exact .stays found reader
  next present =>
    rw [if_neg present] at reader
    cases a with
    | emit n =>
      refine .stays ?_ reader
      simp only [step, Bus.emit] at found
      split at found <;> exact found
    | share => exact .stays found reader
    | leave =>
      refine .stays ?_ reader
      simp only [step] at found
      split at found <;> exact found
    | subscribe filter =>
      simp only [step, Bus.subscription?_subscribe, i.emitted] at found reader
      split at found
      · next last =>
        obtain rfl := Option.some.inj found
        rw [last, ← i.all, List.getElem?_concat_length] at reader
        obtain rfl := Option.some.inj reader
        exact .begins filter
      · have lt := i.all ▸ Bus.lt_of_subscription? found
        exact .stays found (List.getElem?_append_left lt ▸ reader)
    | look k' =>
      by_cases own : k' = k
      · subst own
        exact course_look i found reader
      · simp only [step] at found reader
        rw [Bus.subscription?_look_of_ne _ own] at found
        rw [List.getElem?_modify_ne _ _ own] at reader
        exact .stays found reader
    | unsubscribe k' =>
      simp only [step, Bus.subscription?_unsubscribe] at found
      split at found
      · cases found
      · exact .stays found reader

-- Where there is no subscription there is nothing to return.
theorem reader_of_absent (i : f.Stocked) (absent : (f.perform a).bus.subscription? k = none)
    (reader : (f.perform a).readers[k]? = some r) : f.readers[k]? = some r := by
  rw [perform] at absent reader
  split at absent
  · next away => rwa [if_pos away] at reader
  next present =>
    rw [if_neg present] at reader
    cases a with
    | emit | share | leave | unsubscribe => exact reader
    | subscribe filter =>
      simp only [step, Bus.subscription?_subscribe] at absent reader
      split at absent
      · cases absent
      · next other =>
        obtain ⟨lt, _⟩ := List.getElem?_eq_some_iff.mp reader
        rw [List.length_append, List.length_singleton, i.all] at lt
        rwa [List.getElem?_append_left (by rw [i.all]; omega)] at reader
    | look k' =>
      simp only [step] at absent reader
      by_cases own : k' = k
      · subst own
        have before : f.bus.subscription? k' = none := by
          cases found : f.bus.subscription? k' with
          | none => rfl
          | some t =>
            rw [Bus.look_of_some found, Bus.subscription?_goTo found, if_pos rfl] at absent
            cases absent
        have nothing : f.heard k' = [] := by rw [heard, before]
        simpa [List.getElem?_modify_eq, nothing] using reader
      · rwa [List.getElem?_modify_ne _ _ own] at reader

theorem exists_past_perform (f : Broadcast) (a : Act) :
    ∃ more, (f.perform a).past = f.past ++ more ∧
      (f.perform a).bus.capacity = f.bus.capacity := by
  rw [perform]
  split
  · exact ⟨[], (List.append_nil _).symm, rfl⟩
  · cases a with
    | emit n =>
      refine ⟨[n], rfl, ?_⟩
      simp only [step, Bus.emit]
      split <;> rfl
    | leave =>
      refine ⟨[], (List.append_nil _).symm, ?_⟩
      simp only [step]
      split <;> rfl
    | look k =>
      obtain ⟨_, _, looked⟩ := f.bus.exists_look k
      exact ⟨[], (List.append_nil _).symm, by rw [step, looked]⟩
    | share | subscribe | unsubscribe => exact ⟨[], (List.append_nil _).symm, rfl⟩

-- A subscription has returned only what lies behind it, and of that all that the bus still keeps.
structure Follows (f : Broadcast) (s : Subscription) (r : Reader) : Prop where
  filter : s.filter = r.first.filter
  since : r.first.place ≤ s.place
  behind : s.place ≤ f.past.length
  returned : r.returned.Sublist (r.concerned (f.past.take s.place))
  all : ∀ e ∈ r.concerned f.past, e.2 < s.place → f.later e.2 < f.bus.capacity → e ∈ r.returned

namespace Follows

theorem wants (h : f.Follows s r) (n : Notice) : s.wants n = r.first.wants n := by
  rw [Subscription.wants, Subscription.wants, h.filter]

theorem lt (h : f.Follows s r) {e : Notice × Nat} (mem : e ∈ r.returned) : e.2 < s.place := by
  obtain ⟨found, _⟩ := mem_concerned_iff.mp (h.returned.mem mem)
  obtain ⟨lt, _⟩ := List.getElem?_eq_some_iff.mp found
  rw [List.length_take] at lt
  omega

theorem mono {f' : Broadcast} {more : List Notice} (h : f.Follows s r)
    (past : f'.past = f.past ++ more) (capacity : f'.bus.capacity = f.bus.capacity) :
    f'.Follows s r where
  filter := h.filter
  since := h.since
  behind := by
    rw [past, List.length_append]
    exact Nat.le_add_right_of_le h.behind
  returned := by
    rw [past, List.take_append_of_le_length h.behind]
    exact h.returned
  all e mem lt later := by
    rw [past, mem_concerned_append_iff (Nat.lt_of_lt_of_le lt h.behind)] at mem
    refine h.all e mem lt ?_
    simp only [Broadcast.later, past, capacity, List.length_append] at later ⊢
    omega

end Follows

structure Sound (f : Broadcast) : Prop extends Stocked f where
  returned : ∀ (k : Nat) r, f.readers[k]? = some r → r.returned.Sublist (r.concerned f.past)
  live : ∀ (k : Nat) s, f.bus.subscription? k = some s →
    ∃ r, f.readers[k]? = some r ∧ f.Follows s r

namespace Sound

-- What lies behind a subscription after an act.
theorem follows (i : f.Sound) (c : Course f k a s r) : f.Follows s r := by
  cases c with
  | begins filter =>
    refine ⟨rfl, Nat.le_refl _, Nat.le_refl _, List.nil_sublist _, fun e mem lt => ?_⟩
    exact absurd (mem_concerned_iff.mp mem).2.1 (Nat.not_le.mpr lt)
  | stays found reader =>
    obtain ⟨r', reader', h⟩ := i.live k _ found
    exact Option.some.inj (reader'.symm.trans reader) ▸ h
  | @loses s r found reader late =>
    obtain ⟨r', reader', h⟩ := i.live k _ found
    obtain rfl := Option.some.inj (reader'.symm.trans reader)
    have le : f.bus.lost ≤ f.past.length := i.lost ▸ Nat.sub_le _ _
    refine ⟨h.filter, Nat.le_trans h.since (Nat.le_of_lt late), le,
      h.returned.trans (concerned_take_sublist _ _ (Nat.le_of_lt late)), fun e mem lt kept => ?_⟩
    have some_ := i.some_
    simp only [i.lost, later] at lt kept
    omega
  | @sees s r n found reader inTime seen =>
    obtain ⟨r', reader', h⟩ := i.live k _ found
    obtain rfl := Option.some.inj (reader'.symm.trans reader)
    obtain ⟨here, _⟩ := List.getElem?_eq_some_iff.mp seen
    refine ⟨h.filter, Nat.le_succ_of_le h.since, here, ?_, fun e mem lt kept => ?_⟩
    · rw [h.wants n]
      exact concerned_take_succ seen h.since ▸ h.returned.append_right _
    · obtain before | same := Nat.lt_succ_iff_lt_or_eq.mp lt
      · exact List.mem_append_left _ (h.all e mem before kept)
      · obtain ⟨found', _, wanted⟩ := mem_concerned_iff.mp mem
        rw [same, seen] at found'
        obtain rfl := Option.some.inj found'
        rw [← h.wants] at wanted
        rw [if_pos wanted, ← same]
        exact List.mem_append_right _ (List.mem_singleton_self e)

theorem perform (i : f.Sound) (a : Act) : (f.perform a).Sound := by
  obtain ⟨more, past, capacity⟩ := f.exists_past_perform a
  have stocked := i.toStocked.perform a
  have live (k : Nat) (s : Subscription) (found : (f.perform a).bus.subscription? k = some s) :
      ∃ r, (f.perform a).readers[k]? = some r ∧ (f.perform a).Follows s r := by
    have here : k < (f.perform a).readers.length := stocked.all ▸ Bus.lt_of_subscription? found
    have reader := List.getElem?_eq_getElem here
    have course := course_perform i.toStocked found reader
    exact ⟨_, reader, (i.follows course).mono past capacity⟩
  refine ⟨stocked, fun k r reader => ?_, live⟩
  cases found : (f.perform a).bus.subscription? k with
  | none =>
    rw [past]
    have before := reader_of_absent i.toStocked found reader
    exact (i.returned k r before).trans (concerned_sublist_append r _ _)
  | some s =>
    obtain ⟨r', reader', h⟩ := live k s found
    obtain rfl := Option.some.inj (reader'.symm.trans reader)
    have sublist := concerned_take_sublist r' (f.perform a).past h.behind
    rw [List.take_length] at sublist
    exact h.returned.trans sublist

theorem run (i : f.Sound) (acts : List Act) : (f.run acts).Sound := by
  induction acts generalizing f with
  | nil => exact i
  | cons a acts ih => exact ih (i.perform a)

end Sound

end

theorem sound_ofCapacity (capacity : Nat) : (ofCapacity capacity).Sound where
  some_ := Nat.lt_of_lt_of_le (by omega) (le_powerOfTwoFrom (max capacity 1) Nat.one_pos)
  kept := List.drop_nil.symm
  emitted := rfl
  isOpen := rfl
  all := rfl
  returned _ _ reader := nomatch reader
  live _ _ found := nomatch found

end Broadcast

end Duplex
