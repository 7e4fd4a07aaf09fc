import Duplex.Proofs.Bus.Broadcast
import Mathlib.Data.List.Induction
import Mathlib.Order.Bounds.Defs

-- What subscribers get of all that was emitted: each its own part in order, without what it came
-- too late for.

namespace Duplex.Broadcast

theorem isLeast_capacity (capacity : Nat) :
    IsLeast { c : Nat | c.isPowerOfTwo ∧ max capacity 1 ≤ c } (ofCapacity capacity).bus.capacity :=
  ⟨⟨isPowerOfTwo_powerOfTwoFrom _ Nat.isPowerOfTwo_one, le_powerOfTwoFrom _ Nat.one_pos⟩,
    fun _ fits => powerOfTwoFrom_le Nat.isPowerOfTwo_one fits.1 (Nat.pos_of_isPowerOfTwo fits.1)
      fits.2⟩

theorem run_append (f : Broadcast) (acts more : List Act) :
    f.run (acts ++ more) = (f.run acts).run more :=
  List.foldl_append

theorem capacity_run (f : Broadcast) (acts : List Act) :
    (f.run acts).bus.capacity = f.bus.capacity := by
  induction acts generalizing f with
  | nil => rfl
  | cons a acts ih =>
    obtain ⟨_, _, same⟩ := f.exists_past_perform a
    exact (ih _).trans same

-- A subscription came too late for a notice: before it got there as many others were emitted as the
-- bus keeps.
def Missed (capacity : Nat) (acts : List Act) (k p : Nat) : Prop :=
  ∃ before after, acts = before ++ .look k :: after ∧
    let f := (ofCapacity capacity).run before
    (∃ s, f.bus.subscription? k = some s ∧ s.place ≤ p) ∧ f.bus.capacity ≤ f.later p

theorem Missed.append {capacity : Nat} {acts : List Act} {k p : Nat} (h : Missed capacity acts k p)
    (more : List Act) : Missed capacity (acts ++ more) k p := by
  obtain ⟨before, after, rfl, passed⟩ := h
  exact ⟨before, after ++ more, by rw [List.append_assoc, List.cons_append], passed⟩

section

variable {f : Broadcast} {a : Act} {k : Nat} {s : Subscription} {r : Reader} {e : Notice × Nat}

-- A subscription has left a notice behind without returning it.
structure Lost (f : Broadcast) (k : Nat) (s : Subscription) (r : Reader) (e : Notice × Nat) :
    Prop where
  found : f.bus.subscription? k = some s
  reader : f.readers[k]? = some r
  concerned : e ∈ r.concerned f.past
  passed : e.2 < s.place
  unreturned : e ∉ r.returned

-- What is lost was lost before, or at a look that came too late.
theorem Course.lost_or (c : Course f k a s r) (i : f.Sound) (mem : e ∈ r.concerned f.past)
    (passed : e.2 < s.place) (unreturned : e ∉ r.returned) :
    (∃ s r, f.Lost k s r e) ∨
      a = .look k ∧ (∃ s, f.bus.subscription? k = some s ∧ s.place ≤ e.2) ∧
        f.bus.capacity ≤ f.later e.2 := by
  cases c with
  | begins filter => exact absurd (mem_concerned_iff.mp mem).2.1 (Nat.not_le.mpr passed)
  | stays found reader => exact .inl ⟨s, r, found, reader, mem, passed, unreturned⟩
  | @loses s r found reader late =>
    obtain before | here := Nat.lt_or_ge e.2 s.place
    · exact .inl ⟨s, r, found, reader, mem, before, unreturned⟩
    · refine .inr ⟨rfl, ⟨s, found, here⟩, ?_⟩
      simp only [i.lost, later] at passed ⊢
      omega
  | @sees s r n found reader inTime seen =>
    rw [List.mem_append, not_or] at unreturned
    obtain before | same := Nat.lt_succ_iff_lt_or_eq.mp passed
    · exact .inl ⟨s, r, found, reader, mem, before, unreturned.1⟩
    · obtain ⟨r', reader', h⟩ := i.live k s found
      obtain rfl := Option.some.inj (reader'.symm.trans reader)
      obtain ⟨found', _, wanted⟩ := mem_concerned_iff.mp mem
      rw [same, seen] at found'
      obtain rfl := Option.some.inj found'
      rw [← h.wants] at wanted
      rw [if_pos wanted, ← same] at unreturned
      exact absurd (List.mem_singleton_self e) unreturned.2

theorem Lost.missed {capacity : Nat} {acts : List Act}
    (h : ((ofCapacity capacity).run acts).Lost k s r e) : Missed capacity acts k e.2 := by
  induction acts using List.reverseRecOn generalizing s r with
  | nil => cases h.found
  | append_singleton acts a ih =>
    have i := (sound_ofCapacity capacity).run acts
    have same : (ofCapacity capacity).run (acts ++ [a]) =
        ((ofCapacity capacity).run acts).perform a := run_append _ acts [a]
    rw [same] at h
    have course := course_perform i.toStocked h.found h.reader
    obtain ⟨more, past, _⟩ := ((ofCapacity capacity).run acts).exists_past_perform a
    have mem := h.concerned
    rw [past, mem_concerned_append_iff (Nat.lt_of_lt_of_le h.passed (i.follows course).behind)] at mem
    obtain before | now := course.lost_or i mem h.passed h.unreturned
    · obtain ⟨_, _, before⟩ := before
      exact (ih before).append [a]
    · obtain ⟨rfl, late⟩ := now
      exact ⟨acts, [], rfl, late⟩

theorem zipIdx_drop {α : Type} (xs : List α) (m : Nat) :
    (xs.drop m).zipIdx m = xs.zipIdx.drop m := by
  apply List.ext_getElem?
  intro j
  simp only [List.getElem?_zipIdx, List.getElem?_drop, Nat.zero_add]

-- What comes at a number or later is what is left when as many are dropped.
theorem filter_zipIdx_drop {α : Type} (xs : List α) {p m : Nat} (le : p ≤ m) :
    (xs.zipIdx.drop p).filter (m ≤ ·.2) = xs.zipIdx.drop m := by
  have split := List.take_append_drop (m - p) (xs.zipIdx.drop p)
  rw [List.drop_drop, Nat.add_sub_cancel' le] at split
  have early : ((xs.zipIdx.drop p).take (m - p)).filter (m ≤ ·.2) = [] := by
    rw [List.filter_eq_nil_iff]
    intro e mem
    obtain ⟨j, found⟩ := List.mem_iff_getElem?.mp mem
    rw [List.getElem?_take, Option.ite_none_right_eq_some, ← zipIdx_drop, List.getElem?_zipIdx,
      Option.map_eq_some_iff] at found
    obtain ⟨lt, _, _, rfl⟩ := found
    simp only [decide_eq_true_eq]
    omega
  have late : (xs.zipIdx.drop m).filter (m ≤ ·.2) = xs.zipIdx.drop m := by
    rw [List.filter_eq_self]
    exact fun e mem => decide_eq_true (mem_zipIdx_drop_iff.mp mem).2
  rw [← split, List.filter_append, early, late, List.nil_append]

namespace Sound

-- What is due to a subscription is what it wants of the rest.
theorem due_eq (i : f.Sound) (found : f.bus.subscription? k = some s)
    (reader : f.readers[k]? = some r) :
    f.due r = (f.past.zipIdx.drop (max s.place f.bus.lost)).filter (s.wants ·.1) := by
  obtain ⟨r', reader', h⟩ := i.live k s found
  obtain rfl := Option.some.inj (reader'.symm.trans reader)
  have ahead : f.due r' = (r'.concerned f.past).filter (max s.place f.bus.lost ≤ ·.2) := by
    rw [due]
    refine List.filter_congr fun e mem => ?_
    obtain ⟨here, _⟩ := List.getElem?_eq_some_iff.mp (mem_concerned_iff.mp mem).1
    have kept : f.later e.2 < f.bus.capacity ↔ f.bus.lost ≤ e.2 := by
      rw [i.lost, later]
      omega
    rw [decide_eq_decide, kept, Nat.max_le, and_comm]
    refine and_congr_left fun inTime => ⟨fun unreturned => ?_, fun le mem' => ?_⟩
    · by_contra before
      exact unreturned (h.all e mem (Nat.not_le.mp before) (kept.mpr inTime))
    · exact absurd (h.lt mem') (Nat.not_lt.mpr le)
  have wants : (fun e : Notice × Nat => s.wants e.1) = fun e => r'.first.wants e.1 :=
    funext fun e => h.wants e.1
  rw [ahead, Reader.concerned, List.filter_filter, wants,
    ← filter_zipIdx_drop f.past (Nat.le_trans h.since (Nat.le_max_left _ f.bus.lost)),
    List.filter_filter]
  exact List.filter_congr fun e _ => Bool.and_comm _ _

theorem receive_eq (i : f.Sound) (found : f.bus.subscription? k = some s)
    (reader : f.readers[k]? = some r) :
    f.bus.receive k =
      match (f.due r).head? with
      | some e => (.notice e.1, f.bus.goTo k s (e.2 + 1))
      | none => (if f.senders = 0 then .ended else .pending, f.bus.goTo k s f.past.length) := by
  have rest : (f.bus.kept.drop (s.place - f.bus.lost)).zipIdx (max s.place f.bus.lost) =
      f.past.zipIdx.drop (max s.place f.bus.lost) := by
    have top : f.bus.lost + (s.place - f.bus.lost) = max s.place f.bus.lost := by omega
    rw [i.kept, ← i.lost, List.drop_drop, top, zipIdx_drop]
  have last : (if f.bus.isOpen then Bus.Received.pending else .ended) =
      if f.senders = 0 then .ended else .pending := by
    rw [i.isOpen]
    by_cases gone : f.senders = 0 <;> simp [gone]
  cases first : (f.due r).head? with
  | none =>
    rw [i.due_eq found reader, List.head?_filter] at first
    simp only [Bus.receive_of_some found, rest, first, i.emitted, last]
  | some e =>
    rw [i.due_eq found reader, List.head?_filter] at first
    simp only [Bus.receive_of_some found, rest, first]

end Sound

theorem due_of_past_eq {f f' : Broadcast} (past : f'.past = f.past)
    (capacity : f'.bus.capacity = f.bus.capacity) (r : Reader) : f'.due r = f.due r := by
  unfold due later
  rw [past, capacity]

namespace Sound

-- After a look a subscriber has to look on, with the same to come, or it has received.
theorem look_cases (i : f.Sound) (found : f.bus.subscription? k = some s)
    (reader : f.readers[k]? = some r) :
    let f' := f.step (.look k)
    (∃ s', f'.bus.subscription? k = some s' ∧ f'.readers[k]? = some r ∧ s.place < s'.place ∧
      f'.bus.receive k = f.bus.receive k) ∨
    f'.bus = (f.bus.receive k).2 ∧
      f'.readers[k]? = some { r with returned := r.returned ++ (f.due r).take 1 } := by
  intro f'
  obtain ⟨r', reader', h⟩ := i.live k s found
  obtain rfl := Option.some.inj (reader'.symm.trans reader)
  have loop := Bus.receive_eq found i.length_kept_le (i.emitted ▸ h.behind)
  rw [Bus.look_of_some found] at loop
  have bus : f'.bus = f.bus.goTo k s (f.bus.sight s.place).2 :=
    congrArg Prod.snd (Bus.look_of_some found)
  have after : f'.readers[k]? = some { r' with returned := r'.returned ++ f.heard k } := by
    change (f.readers.modify k _)[k]? = _
    rw [List.getElem?_modify_eq, reader]
    rfl
  rw [heard_of_some found] at after
  have goes (place : Nat) : (f.bus.goTo k s place).subscription? k = some { s with place } := by
    rw [Bus.subscription?_goTo found, if_pos rfl]
  have due := i.due_eq found reader
  by_cases late : s.place < f.bus.lost
  case pos =>
    rw [Bus.sight_of_lt late] at loop bus after
    rw [List.append_nil] at after
    exact .inl ⟨_, bus ▸ goes _, after, late, bus ▸ loop.symm⟩
  case neg =>
    have inTime := Nat.not_lt.mp late
    rw [Nat.max_eq_left inTime] at due
    cases seen : f.bus.kept[s.place - f.bus.lost]? with
    | none =>
      rw [Bus.sight_of_none inTime seen] at loop bus after
      have last : f.past.length ≤ s.place := by
        rwa [i.getElem?_kept inTime, List.getElem?_eq_none_iff] at seen
      rw [List.drop_eq_nil_of_le (by rwa [List.length_zipIdx])] at due
      right
      rw [due, bus, loop]
      cases isOpen : f.bus.isOpen <;> rw [isOpen] at after <;> exact ⟨rfl, after⟩
    | some n =>
      rw [Bus.sight_of_some inTime seen] at loop bus after
      rw [i.getElem?_kept inTime] at seen
      obtain ⟨lt, eq⟩ := List.getElem?_eq_some_iff.mp seen
      have front : f.past.zipIdx.drop s.place = (n, s.place) :: f.past.zipIdx.drop (s.place + 1) := by
        rw [List.drop_eq_getElem_cons (by rwa [List.length_zipIdx]), List.getElem_zipIdx, eq,
          Nat.zero_add]
      rw [front, List.filter_cons] at due
      cases wanted : s.wants n with
      | false =>
        simp only [wanted, Bool.false_eq_true, if_false, List.append_nil] at loop after
        exact .inl ⟨_, bus ▸ goes _, after, Nat.lt_succ_self _, bus ▸ loop.symm⟩
      | true =>
        simp only [wanted, if_true] at loop after due
        exact .inr ⟨by rw [bus, loop], by rw [after, due]; rfl⟩

end Sound

theorem perform_look (f : Broadcast) (k : Nat) : f.perform (.look k) = f.step (.look k) :=
  if_neg fun away => Bool.false_ne_true away.2

theorem run_looks (f : Broadcast) (k m : Nat) :
    f.run (List.replicate (m + 1) (.look k)) =
      (f.step (.look k)).run (List.replicate m (.look k)) := by
  rw [← perform_look]
  rfl

namespace Sound

-- To receive is to look a number of times, and what is due first is returned.
theorem exists_looks (i : f.Sound) (found : f.bus.subscription? k = some s)
    (reader : f.readers[k]? = some r) :
    ∃ m, (f.run (List.replicate m (.look k))).bus = (f.bus.receive k).2 ∧
      (f.run (List.replicate m (.look k))).readers[k]? =
        some { r with returned := r.returned ++ (f.due r).take 1 } := by
  induction left : f.past.length - s.place using Nat.strongRecOn generalizing f s with
  | ind n ih =>
    obtain ⟨s', found', reader', ahead, same⟩ | done := i.look_cases found reader
    · have i' := i.perform (.look k)
      rw [perform_look] at i'
      obtain ⟨_, reader'', h⟩ := i'.live k s' found'
      have behind : s'.place ≤ f.past.length := h.behind
      obtain ⟨m, rest⟩ := ih (f.past.length - s'.place) (by omega) i' found' reader' rfl
      have capacity : (f.step (.look k)).bus.capacity = f.bus.capacity := by
        obtain ⟨_, _, looked⟩ := f.bus.exists_look k
        simp only [step, looked]
      have past : (f.step (.look k)).past = f.past := rfl
      have same_due : (f.step (.look k)).due r = f.due r := due_of_past_eq past capacity r
      rw [same, same_due] at rest
      exact ⟨m + 1, run_looks f k m ▸ rest⟩
    · exact ⟨1, run_looks f k 0 ▸ done⟩

-- Who sees the end has returned all that was left for it.
theorem of_look_ended (i : f.Sound) (found : f.bus.subscription? k = some s)
    (reader : f.readers[k]? = some r) (ended : (f.bus.look k).1 = .ended) :
    f.senders = 0 ∧ f.due r = [] := by
  obtain ⟨r', reader', h⟩ := i.live k s found
  have looked : f.bus.look k = (.ended, (f.bus.look k).2) := ended ▸ rfl
  have received := Bus.receive_eq found i.length_kept_le (i.emitted ▸ h.behind)
  rw [looked, i.receive_eq found reader] at received
  cases due : f.due r with
  | nil =>
    rw [due] at received
    by_cases gone : f.senders = 0
    · exact ⟨gone, rfl⟩
    · simp [gone] at received
  | cons e rest =>
    rw [due] at received
    cases congrArg Prod.fst received

end Sound

end

-- Whoever emits, subscribes, looks and leaves, and when: a subscription returns, in order and each
-- once, notices that it wants and that were emitted after it began. What it leaves behind it missed:
-- it got there only when as many others had been emitted as the bus keeps, and that is the least
-- power of two that is enough. It ends when nobody can emit any more and nothing is due to it. To
-- receive is to look a number of times, whatever is emitted in between, and it gives what is due
-- first.
theorem run_delivers (capacity : Nat) (acts : List Act) :
    let f := (ofCapacity capacity).run acts
    IsLeast { c : Nat | c.isPowerOfTwo ∧ max capacity 1 ≤ c } f.bus.capacity ∧
      (∀ (k : Nat) r, f.readers[k]? = some r → r.returned.Sublist (r.concerned f.past)) ∧
      ∀ (k : Nat) s, f.bus.subscription? k = some s → ∃ r, f.readers[k]? = some r ∧
        (∀ e ∈ r.concerned f.past, e.2 < s.place → e ∉ r.returned → Missed capacity acts k e.2) ∧
        ((f.bus.look k).1 = .ended → f.senders = 0 ∧ f.due r = []) ∧
        (f.bus.receive k).1 =
          (match (f.due r).head? with
          | some e => .notice e.1
          | none => if f.senders = 0 then .ended else .pending) ∧
        ∃ m, (f.run (List.replicate m (.look k))).bus = (f.bus.receive k).2 ∧
          (f.run (List.replicate m (.look k))).readers[k]? =
            some { r with returned := r.returned ++ (f.due r).take 1 } := by
  intro f
  have i : f.Sound := (sound_ofCapacity capacity).run acts
  have least : IsLeast { c : Nat | c.isPowerOfTwo ∧ max capacity 1 ≤ c } f.bus.capacity :=
    capacity_run (ofCapacity capacity) acts ▸ isLeast_capacity capacity
  refine ⟨least, i.returned, fun k s found => ?_⟩
  obtain ⟨r, reader, h⟩ := i.live k s found
  refine ⟨r, reader, fun e mem passed unreturned => ?_, i.of_look_ended found reader, ?_,
    i.exists_looks found reader⟩
  · exact Lost.missed ⟨found, reader, mem, passed, unreturned⟩
  · rw [i.receive_eq found reader]
    cases (f.due r).head? <;> rfl

-- Five notices for a subscriber that looks when the bus keeps only two of them.
def tardy : List Act :=
  .subscribe (some .close) ::
    (["0", "1", "2", "3", "4"].map fun sid => .emit { sid, event := .close .forcedClose }) ++
    [.look 0, .look 0, .leave]

theorem run_delivers_tardy :
    let f := (ofCapacity 2).run tardy
    f.bus.subscription? 0 = some { place := 4, filter := some .close } ∧
      f.readers[0]? = some
        { first := { place := 0, filter := some .close }
          returned := [({ sid := "3", event := .close .forcedClose }, 3)] } ∧
      Missed 2 tardy 0 2 ∧
      (f.bus.receive 0).1 = .notice { sid := "4", event := .close .forcedClose } := by
  have two : ofCapacity 2 = { bus := { capacity := 2 } } := by
    simp [ofCapacity, Bus.ofCapacity, powerOfTwoFrom]
  have found : ((ofCapacity 2).run tardy).bus.subscription? 0 =
      some { place := 4, filter := some .close } := by
    rw [two]
    decide
  have reader : ((ofCapacity 2).run tardy).readers[0]? = some
      { first := { place := 0, filter := some .close }
        returned := [({ sid := "3", event := .close .forcedClose }, 3)] } := by
    rw [two]
    decide
  obtain ⟨r, reader', missed, _, received, _⟩ := (run_delivers 2 tardy).2.2 0 _ found
  obtain rfl := Option.some.inj (reader'.symm.trans reader)
  refine ⟨found, reader, ?_, ?_⟩
  · refine missed ({ sid := "2", event := .close .forcedClose }, 2) ?_ (by decide) (by decide)
    rw [two]
    decide
  · rw [received, two]
    decide

end Duplex.Broadcast
