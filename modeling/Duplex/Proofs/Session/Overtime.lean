import Duplex.Proofs.Session.Ending
import Duplex.Proofs.Session.Suspended

-- A session and the polls that wait on it, as time passes. A poll whose time is up wakes, and asks
-- for its answer only some time later. Meanwhile it may get an answer, and another poll may take
-- its place.

namespace Duplex

-- How far a poll has come.
inductive Hall.Phase where
  | waiting | woken | done
  deriving DecidableEq, Repr

structure Hall.Waiter where
  since : Nat
  phase : Hall.Phase := .waiting
  deriving DecidableEq, Repr

-- A session, and all polls that were ever let in, in their order.
structure Hall where
  session : Session
  now : Nat
  waiters : List Hall.Waiter := []

-- Whether an operation is none that a poll does for itself.
def Session.Op.isOthers : Session.Op → Bool
  | registerPoll | expirePoll _ | setPollClient _ _ => false
  | _ => true

namespace Hall

-- Whatever others may do, they may do at any moment. A poll comes, and later it takes its answer,
-- or it wakes and then releases what waits, or its client leaves.
inductive Act where
  | operate (op : Session.Op) (others : op.isOthers)
  | come
  | take (poll : PollId)
  | wake (poll : PollId)
  | release (poll : PollId)
  | leave (poll : PollId) (client : Peer)
  | tick

-- What an act does to the session.
def Act.call? : Act → Option Session.Op
  | operate op _ => some op
  | come => some .registerPoll
  | release poll => some (.expirePoll poll)
  | leave poll client => some (.setPollClient poll client)
  | take _ | wake _ | tick => none

def Act.span : Act → Nat
  | tick => 1
  | _ => 0

section

variable (h : Hall)

def phase? (poll : PollId) : Option Phase :=
  h.waiters[poll]?.map (·.phase)

def deadline (w : Waiter) : Nat :=
  w.since + h.session.config.pollTimeout.toNat

-- A poll wakes when its time is up or when everyone has to stop. That it was answered meanwhile
-- makes no difference as long as it has not taken the answer.
def allows : Act → Bool
  | .operate _ _ | .tick => true
  | .come => h.session.registerPoll.isOk
  | .take poll => h.phase? poll = some .waiting && h.session.answersTo poll ≠ []
  | .wake poll => h.waiters[poll]?.any fun w =>
      w.phase = .waiting && (h.deadline w ≤ h.now || h.session.cancelled)
  | .release poll => h.phase? poll = some .woken
  | .leave poll _ => h.phase? poll = some .waiting

def move (poll : PollId) (phase : Phase) : List Waiter :=
  h.waiters.modify poll ({ · with phase })

-- The polls after an act.
def seats : Act → List Waiter
  | .operate _ _ | .tick => h.waiters
  | .come => h.waiters ++ [{ since := h.now }]
  | .wake poll => h.move poll .woken
  | .take poll | .release poll | .leave poll _ => h.move poll .done

-- What is not allowed does not happen.
def perform (a : Act) : Hall :=
  if h.allows a then
    { session := h.session.run a.call?.toList, now := h.now + a.span, waiters := h.seats a }
  else h

def run (acts : List Act) : Hall :=
  acts.foldl perform h

end

end Hall

def Session.Origin.hall (o : Session.Origin) : Hall where
  session := o.session
  now := o.now

namespace Session

variable {s : Session}

-- The poll that waits, if its client would take an answer.
def awaiting? (s : Session) : Option PollId :=
  (s.transport.parked?.filter (·.client.take?.isSome)).map (·.poll)

theorem answersWith_eq (s : Session) (packets : List Packet) :
    s.transport.answersWith packets = (s.awaiting?.map (·, packets)).toList := by
  simp only [Transport.answersWith, awaiting?]
  cases s.transport.parked? with
  | none => rfl
  | some q => cases takes : q.client.take?.isSome <;> simp [Option.filter, takes]

theorem exists_parked_of_awaiting {poll : PollId} (h : s.awaiting? = some poll) :
    ∃ q, s.transport.parked? = some q ∧ q.client.take?.isSome ∧ q.poll = poll := by
  obtain ⟨q, found, same⟩ := Option.map_eq_some_iff.mp h
  obtain ⟨parked, takes⟩ := Option.filter_eq_some_iff.mp found
  exact ⟨q, parked, takes, same⟩

theorem answers_expirePoll (s : Session) (poll : PollId) :
    (s.expirePoll poll).2.answers = s.answers ++ (s.awaiting?.map (·, [.noop])).toList := by
  rw [← s.answersWith_eq, ← s.transport.answers_release]
  exact s.answers_withTransport _

-- Who asks for its answer makes no difference to what becomes of the poll that waits.
theorem answersTo_expirePoll (s : Session) (poll other : PollId) :
    (s.expirePoll poll).2.answersTo other =
      s.answersTo other ++ if s.awaiting? = some other then [[.noop]] else [] := by
  rw [answersTo_append (s.answers_expirePoll poll)]
  cases s.awaiting? with
  | none => rfl
  | some waiting => by_cases same : waiting = other <;> simp [same]

namespace Served

variable {held held' : PollId → Prop}

theorem mono (h : s.Served held) (fewer : ∀ poll, held' poll → held poll) : s.Served held' where
  parked q waits :=
    have ⟨registered, unanswered, takes⟩ := h.parked q waits
    ⟨registered, unanswered, fun stays => takes (fewer _ stays)⟩
  fresh := h.fresh
  once := h.once
  served poll registered stays := h.served poll registered (fewer poll stays)

theorem answersTo_of_awaiting (h : s.Served held) {poll : PollId}
    (waits : s.awaiting? = some poll) : s.answersTo poll = [] := by
  obtain ⟨q, parked, _, rfl⟩ := exists_parked_of_awaiting waits
  exact (h.parked q parked).2.1

-- A poll whose client stays waits if and only if it was not answered.
theorem awaiting_iff (h : s.Served held) {poll : PollId} (registered : poll < s.polls)
    (stays : held poll) : s.awaiting? = some poll ↔ s.answersTo poll = [] := by
  refine ⟨h.answersTo_of_awaiting, fun unanswered => ?_⟩
  obtain ⟨client, parked⟩ := (h.served poll registered stays).resolve_right (absurd unanswered)
  have takes := (h.parked _ parked).2.2 stays
  simp [awaiting?, parked, Option.filter, takes]

-- What a poll does when it asks for its answer. It has one then, and it is the only one to get one,
-- unless it had its answer before and another poll waits.

theorem answersTo_own (h : s.Served held) {poll : PollId} (registered : poll < s.polls)
    (stays : held poll) :
    (s.expirePoll poll).2.answersTo poll =
      if s.answersTo poll = [] then [[.noop]] else s.answersTo poll := by
  rw [answersTo_expirePoll]
  simp only [h.awaiting_iff registered stays]
  split
  · next unanswered => rw [unanswered, List.nil_append]
  · exact List.append_nil _

theorem answersTo_others_iff (h : s.Served held) {poll : PollId} (registered : poll < s.polls)
    (stays : held poll) :
    (∀ other, other ≠ poll → (s.expirePoll poll).2.answersTo other = s.answersTo other) ↔
      s.answersTo poll = [] ∨ s.awaiting? = none := by
  have changes : ∀ other, (s.expirePoll poll).2.answersTo other = s.answersTo other ↔
      s.awaiting? ≠ some other := fun other => by
    rw [answersTo_expirePoll]
    split
    · next waits => simp [waits]
    · next apart => simp [apart]
  simp only [changes, ← h.awaiting_iff registered stays]
  constructor
  · intro apart
    cases waits : s.awaiting? with
    | none => exact .inr rfl
    | some waiting =>
      by_cases own : waiting = poll
      · exact .inl (congrArg some own)
      · exact absurd waits (apart waiting own)
  · rintro (own | nobody) other differs
    · rw [own]
      exact fun same => differs (Option.some.inj same).symm
    · rw [nobody]
      exact nofun

end Served

end Session

namespace Hall

variable {o : Session.Origin} {h : Hall} {a : Act}

-- Why a poll is answered. It gets packets, or learns of the close; or its time is up, or a
-- websocket gets on with its upgrade; or another poll that was answered before wakes and releases
-- it.
inductive Cause (h : Hall) (poll : PollId) : Act → List Packet → Prop
  | batch {a : Act} {op : Session.Op} (does : a.call? = some op)
    (asks : h.session.Waits poll ∨ a = .come ∧ poll = h.session.polls)
    (some_ : h.session.buffer ++ h.session.accepted [op] ≠ []) :
    Cause h poll a (h.session.buffer ++ h.session.accepted [op])
  | close {a : Act} (waits : h.session.Waits poll) (live : h.session.isLive)
    (closed : (h.perform a).session.isLive = false) : Cause h poll a [.close]
  | timeUp {w : Waiter} (waits : h.session.Waits poll) (own : h.waiters[poll]? = some w)
    (late : h.deadline w ≤ h.now) : Cause h poll (.release poll) [.noop]
  | upgrade {tid : TransportId} {p : Packet} {others : (Session.Op.probe tid p).isOthers}
    (waits : h.session.Waits poll) (goes : (h.session.probe tid p).1.isOk) :
    Cause h poll (.operate (.probe tid p) others) [.noop]
  | stale {other : PollId} (waits : h.session.Waits poll) (differs : other ≠ poll)
    (woken : h.phase? other = some .woken) (answered : h.session.answersTo other ≠ []) :
    Cause h poll (.release other) [.noop]

-- A poll that has not come to its end.
def Stays (waiters : List Waiter) (poll : PollId) : Prop :=
  ∀ w, waiters[poll]? = some w → w.phase ≠ .done

-- What holds at every moment: each poll that was let in is here, its client stays as long as it has
-- not come to its end, and none wakes too early.
structure Seated (o : Session.Origin) (h : Hall) : Prop where
  reached : ∃ ops, h.session = o.session.run ops
  all : h.waiters.length = h.session.polls
  served : h.session.Served (Stays h.waiters)
  late : ∀ (poll : PollId) w, h.waiters[poll]? = some w → w.phase = .woken →
    h.deadline w ≤ h.now ∨ h.session.isLive = false

theorem perform_of_allows (allowed : h.allows a) :
    h.perform a =
      { session := h.session.run a.call?.toList, now := h.now + a.span, waiters := h.seats a } :=
  if_pos allowed

theorem perform_of_not_allows (refused : h.allows a = false) : h.perform a = h :=
  if_neg (refused ▸ Bool.false_ne_true)

theorem getElem?_move (h : Hall) (poll poll' : PollId) (phase : Phase) :
    (h.move poll phase)[poll']? =
      h.waiters[poll']?.map fun w => if poll = poll' then { w with phase } else w := by
  rw [move, List.getElem?_modify]
  cases h.waiters[poll']? <;> rfl

-- Who wakes had waited, until its time was up or everyone had to stop.
theorem waiting_of_allows_wake {poll : PollId} (allowed : h.allows (.wake poll)) :
    ∃ w, h.waiters[poll]? = some w ∧ w.phase = .waiting ∧
      (h.deadline w ≤ h.now ∨ h.session.cancelled) := by
  simp only [allows] at allowed
  cases found : h.waiters[poll]? with
  | none => simp [found] at allowed
  | some w => exact ⟨w, rfl, by simpa [found] using allowed⟩

-- A poll that has come to its end leaves it at that.
theorem done_seats {poll : PollId} {w : Waiter} (allowed : h.allows a)
    (found : h.waiters[poll]? = some w) (done : w.phase = .done) :
    ∃ w', (h.seats a)[poll]? = some w' ∧ w'.phase = .done := by
  cases a with
  | operate | tick => exact ⟨w, found, done⟩
  | come =>
    obtain ⟨here, _⟩ := List.getElem?_eq_some_iff.mp found
    exact ⟨w, (List.getElem?_append_left here).trans found, done⟩
  | take poll' | release poll' | leave poll' =>
    refine ⟨_, by rw [seats, getElem?_move, found, Option.map_some], ?_⟩
    split
    · rfl
    · exact done
  | wake poll' =>
    have awake : poll' ≠ poll := by
      rintro rfl
      obtain ⟨w', found', waits, _⟩ := waiting_of_allows_wake allowed
      rw [found] at found'
      obtain rfl := Option.some.inj found'
      cases waits.symm.trans done
    exact ⟨w, by rw [seats, getElem?_move, found, Option.map_some, if_neg awake], done⟩

-- A poll that is awake was so before, or it has just woken.
theorem woken_seats {poll : PollId} {w : Waiter} (found : (h.seats a)[poll]? = some w)
    (woken : w.phase = .woken) :
    h.waiters[poll]? = some w ∨
      ∃ w', a = .wake poll ∧ h.waiters[poll]? = some w' ∧ w = { w' with phase := .woken } := by
  cases a with
  | operate | tick => exact .inl found
  | come =>
    rw [seats, List.getElem?_append] at found
    split at found
    · exact .inl found
    · obtain rfl := List.mem_singleton.mp (List.mem_of_getElem? found)
      cases woken
  | take poll' | release poll' | leave poll' =>
    rw [seats, getElem?_move] at found
    obtain ⟨w', found', rfl⟩ := Option.map_eq_some_iff.mp found
    split at woken
    · cases woken
    · next other => exact .inl (by rw [if_neg other]; exact found')
  | wake poll' =>
    rw [seats, getElem?_move] at found
    obtain ⟨w', found', rfl⟩ := Option.map_eq_some_iff.mp found
    by_cases own : poll' = poll
    · exact .inr ⟨w', by rw [own], found', if_pos own⟩
    · exact .inl (by rw [if_neg own]; exact found')

theorem length_seats (all : h.waiters.length = h.session.polls) (allowed : h.allows a) :
    (h.seats a).length = (h.session.run a.call?.toList).polls := by
  cases a with
  | operate op others =>
    have other : op ≠ .registerPoll := by
      rintro rfl
      cases others
    exact all.trans (h.session.perform_polls other).symm
  | come =>
    simp only [allows] at allowed
    cases registered : h.session.registerPoll with
    | error f => simp [registered, Except.isOk, Except.toBool] at allowed
    | ok s =>
      obtain ⟨_, _, _, _, _, _, flushed⟩ := Session.registerPoll_eq_ok registered
      have counted : s.2.polls = h.session.polls + 1 := by simp [flushed]
      simp [seats, Act.call?, all, Session.perform_registerPoll registered, counted]
  | take | wake | release | leave => exact (List.length_modify ..).trans all
  | tick => exact all

-- A poll that does not come to its end keeps its client.
theorem keeps_of_stays {poll : PollId} (allowed : h.allows a)
    (stays : Stays (h.seats a) poll) : Session.Held poll a.call?.toList := by
  intro op mem
  cases a with
  | operate op' others =>
    obtain rfl := List.mem_singleton.mp mem
    cases op with
    | setPollClient => cases others
    | _ => rfl
  | come | release => exact List.mem_singleton.mp mem ▸ rfl
  | take | wake | tick => cases mem
  | leave poll' client =>
    obtain rfl := List.mem_singleton.mp mem
    have other : poll' ≠ poll := by
      rintro rfl
      obtain ⟨w, found, _⟩ := Option.map_eq_some_iff.mp (of_decide_eq_true allowed)
      exact stays _ (by rw [seats, getElem?_move, found, Option.map_some, if_pos rfl]) rfl
    simp [Session.Op.keeps, other]

theorem come_of_call? (does : a.call? = some .registerPoll) : a = .come := by
  cases a with
  | come => rfl
  | operate op others =>
    obtain rfl := Option.some.inj does
    cases others
  | release | leave => cases does
  | take | wake | tick => cases does

theorem stays_of_woken {poll : PollId} (woken : h.phase? poll = some .woken) :
    Stays h.waiters poll := by
  intro w found done
  simp [phase?, found, done] at woken

namespace Seated

theorem valid (i : Seated o h) : h.session.Valid := by
  obtain ⟨ops, eq⟩ := i.reached
  exact eq ▸ Session.valid_run o ops

theorem cancelled (i : Seated o h) : h.session.cancelled = !h.session.isLive := by
  obtain ⟨ops, eq⟩ := i.reached
  exact eq ▸ Session.cancelled_run o ops

theorem served_run (i : Seated o h) (allowed : h.allows a) :
    (h.session.run a.call?.toList).Served (Stays (h.seats a)) := by
  refine (i.served.mono fun poll stays w found done => ?_).run i.valid _ fun poll =>
    keeps_of_stays allowed
  obtain ⟨w', found', done'⟩ := done_seats allowed found done
  exact stays w' found' done'

theorem late_seats (i : Seated o h) (allowed : h.allows a) {poll : PollId} {w : Waiter}
    (found : (h.seats a)[poll]? = some w) (woken : w.phase = .woken) :
    h.deadline w ≤ h.now ∨ h.session.isLive = false := by
  obtain before | ⟨w', rfl, found', rfl⟩ := woken_seats found woken
  · exact i.late poll w before woken
  · obtain ⟨_, waits, _, due⟩ := waiting_of_allows_wake allowed
    obtain rfl := Option.some.inj (found'.symm.trans waits)
    simpa [deadline, i.cancelled] using due

theorem perform (i : Seated o h) (a : Act) : Seated o (h.perform a) := by
  cases allowed : h.allows a with
  | false => exact (perform_of_not_allows allowed).symm ▸ i
  | true =>
    rw [perform_of_allows allowed]
    obtain ⟨ops, eq⟩ := i.reached
    refine ⟨⟨ops ++ a.call?.toList, ?_⟩, length_seats i.all allowed, i.served_run allowed,
      fun poll w found woken => ?_⟩
    · rw [Session.run_append, ← eq]
    · have same : (h.session.run a.call?.toList).config = h.session.config :=
        congrArg (·.2.2) (Session.run_changes h.session _).identity
      obtain late | dead := i.late_seats allowed found woken
      · exact .inl (by simpa [deadline, same] using Nat.le_add_right_of_le late)
      · refine .inr (Bool.eq_false_iff.mpr fun live => ?_)
        exact Bool.eq_false_iff.mp dead (i.valid.isLive_of_changes (Session.run_changes _ _) live)

theorem run (i : Seated o h) (acts : List Act) : Seated o (h.run acts) := by
  induction acts generalizing h with
  | nil => exact i
  | cons a acts ih => exact ih (i.perform a)

theorem registered {poll : PollId} (i : Seated o h) (woken : h.phase? poll = some .woken) :
    poll < h.session.polls := by
  obtain ⟨w, found, _⟩ := Option.map_eq_some_iff.mp woken
  obtain ⟨here, _⟩ := List.getElem?_eq_some_iff.mp found
  exact i.all ▸ here

-- Nothing is released but for the poll that asks, for an upgrade, or by mistake.
theorem cause_of_releases (i : Seated o h) (allowed : h.allows a) {op : Session.Op} {poll : PollId}
    (does : a.call? = some op) (waits : h.session.Waits poll) (releases : op.releases h.session) :
    Cause h poll a [.noop] := by
  cases a with
  | operate op' others =>
    obtain rfl := Option.some.inj does
    cases op' with
    | probe tid p => exact .upgrade waits releases
    | expirePoll => cases others
    | _ => cases releases
  | come | leave =>
    obtain rfl := Option.some.inj does
    cases releases
  | take | wake | tick => cases does
  | release other =>
    have woken : h.phase? other = some .woken := of_decide_eq_true allowed
    by_cases own : other = poll
    · subst own
      obtain ⟨w, found, awake⟩ := Option.map_eq_some_iff.mp woken
      obtain ⟨_, parked⟩ := waits
      have live := i.valid.isLive_of_parked parked
      exact .timeUp ⟨_, parked⟩ found ((i.late other w found awake).resolve_right (by simp [live]))
    · refine .stale waits own woken ?_
      have served := i.served.served other (i.registered woken) (stays_of_woken woken)
      refine served.resolve_left fun waits' => ?_
      obtain ⟨_, parked⟩ := waits
      obtain ⟨_, parked'⟩ := waits'
      have same := Option.some.inj (parked'.symm.trans parked)
      exact own (congrArg (·.poll) same)

theorem cause_of_answers (i : Seated o h) (allowed : h.allows a) {op : Session.Op} {poll : PollId}
    {packets : List Packet} (does : a.call? = some op)
    (answers : Session.Answers h.session op poll packets)
    (why : packets = h.session.buffer ++ h.session.accepted [op] ∨ packets = [.close] ∨
      packets = [.noop] ∧ op.releases h.session) :
    Cause h poll a packets := by
  have after : (h.perform a).session = h.session.perform op := by
    simp [perform_of_allows allowed, does]
  cases answers with
  | batch asks some_ _ =>
    have comes : op = .registerPoll → a = .come := fun register => come_of_call? (register ▸ does)
    exact .batch does (asks.imp_right (And.imp_left comes)) some_
  | close waits live closed => exact .close waits live (after ▸ closed)
  | noop waits =>
    obtain batch | other | ⟨_, releases⟩ := why
    · rw [batch]
      exact .batch does (.inl waits) (batch ▸ List.cons_ne_nil _ _)
    · cases other
    · exact i.cause_of_releases allowed does waits releases

theorem cause (i : Seated o h) (a : Act) {answer : PollId × List Packet}
    (mem : answer ∈ (h.perform a).session.answers) :
    answer ∈ h.session.answers ∨ Cause h answer.1 a answer.2 := by
  cases allowed : h.allows a with
  | false => exact .inl (perform_of_not_allows allowed ▸ mem)
  | true =>
    rw [perform_of_allows allowed] at mem
    cases does : a.call? with
    | none => exact .inl (by simpa [does] using mem)
    | some op =>
      have mem : answer ∈ (h.session.perform op).answers := by simpa [does] using mem
      cases Session.perform_serves i.valid op with
      | rests _ _ answers | hears _ _ _ _ _ answers | registers _ _ _ answers =>
        exact .inl (answers ▸ mem)
      | meets free _ _ answers content =>
        rw [answers, List.mem_append, List.mem_singleton] at mem
        refine mem.imp_right fun last => ?_
        rw [last]
        have fresh : ¬h.session.Waits h.session.polls := fun waits => by
          obtain ⟨_, parked⟩ := waits
          exact Nat.lt_irrefl _ (i.served.parked _ parked).1
        refine i.cause_of_answers allowed does content ?_
        cases content with
        | batch => exact .inl rfl
        | noop waits | close waits => exact absurd waits fresh
      | empties packets _ _ answers content why =>
        rw [answers, List.mem_append] at mem
        refine mem.imp_right fun new => ?_
        obtain ⟨_, rfl⟩ := Session.waits_of_mem_answersWith new
        exact i.cause_of_answers allowed does (content _ new) why

end Seated

end Hall

theorem Session.Origin.seated (o : Origin) : Hall.Seated o o.hall where
  reached := ⟨[], rfl⟩
  all := o.polls_session.symm
  served := o.served _
  late _ _ found := nomatch found

namespace Hall

-- Whatever is done to a session, and whenever its polls wake, a poll wakes only when its time is up
-- or everyone has to stop. When it asks for its answer it has one, and it is the only poll that
-- gets one then if and only if it had none before or no other poll waits. If everyone has to stop,
-- nobody gets one. A poll that is answered with nothing to say was late, was in the way of an
-- upgrade, or took the place of one that had its answer.
theorem run_releases_own_iff (o : Session.Origin) (acts : List Act) :
    let h := o.hall.run acts
    let s := h.session
    (∀ poll, h.phase? poll = some .woken →
      let s' := (h.perform (.release poll)).session
      (∃ w, h.waiters[poll]? = some w ∧ (h.deadline w ≤ h.now ∨ s.cancelled)) ∧
        s'.answersTo poll = (if s.answersTo poll = [] then [[.noop]] else s.answersTo poll) ∧
        ((∀ other, other ≠ poll → s'.answersTo other = s.answersTo other) ↔
          s.answersTo poll = [] ∨ s.awaiting? = none) ∧
        (s.cancelled → s'.answers = s.answers)) ∧
      ∀ a, ∀ answer ∈ (h.perform a).session.answers,
        answer ∈ s.answers ∨ Cause h answer.1 a answer.2 := by
  intro h s
  have i : Seated o h := o.seated.run acts
  refine ⟨fun poll woken => ?_, fun a answer => i.cause a⟩
  have registered := i.registered woken
  have stays := stays_of_woken woken
  have done : (h.perform (.release poll)).session = (s.expirePoll poll).2 :=
    congrArg session (perform_of_allows (a := .release poll) (decide_eq_true woken))
  obtain ⟨w, found, awake⟩ := Option.map_eq_some_iff.mp woken
  rw [done]
  refine ⟨⟨w, found, ?_⟩, i.served.answersTo_own registered stays,
    i.served.answersTo_others_iff registered stays, fun cancelled => ?_⟩
  · simpa [s, i.cancelled] using i.late poll w found awake
  · have dead : s.isLive = false := by simpa [s, i.cancelled] using cancelled
    obtain ⟨_, _, _, parked, _⟩ := i.valid.ended dead
    simp [Session.answers_expirePoll, Session.awaiting?, s, parked]

-- A poll wakes, and before it asks for its answer a message comes, which it is answered with. The
-- client asks again, and now that poll gets an answer with nothing to say, right when it came.
theorem run_releases_other :
    let o := { Session.Origin.plain with config := { pollTimeout := 1 } }
    let h := o.hall.run
      [.come, .come, .tick, .wake 1, .operate (.send (.message (.text "a"))) rfl, .come]
    let s' := (h.perform (.release 1)).session
    (h.phase? 1 = some .woken ∧ h.session.answersTo 1 = [[.message (.text "a")]]) ∧
      (h.waiters[2]? = some { since := 1 } ∧ h.deadline { since := 1 } = 2 ∧ h.now = 1) ∧
      h.session.awaiting? = some 2 ∧ h.session.answersTo 2 = [] ∧
      s'.answersTo 1 = h.session.answersTo 1 ∧ s'.answersTo 2 = [[.noop]] := by
  decide

-- A poll that nothing came for is the only one to get an answer when its time is up.
theorem run_releases_own_iff_late :
    let o := { Session.Origin.plain with config := { pollTimeout := 1 } }
    let h := o.hall.run [.come, .come, .tick, .wake 1]
    let s' := (h.perform (.release 1)).session
    h.phase? 1 = some .woken ∧ s'.answersTo 1 = [[.noop]] ∧
      ∀ other, other ≠ 1 → s'.answersTo other = h.session.answersTo other := by
  intro o h s'
  have woken : h.phase? 1 = some .woken := by decide
  have unanswered : h.session.answersTo 1 = [] := by decide
  obtain ⟨_, own, others, _⟩ := (run_releases_own_iff o [.come, .come, .tick, .wake 1]).1 1 woken
  exact ⟨woken, own.trans (if_pos unanswered), others.mpr (.inl unanswered)⟩

end Hall

end Duplex
