import Duplex.Proofs.Session.Telling

-- The life of a session, as it tells it: it is established, some upgrades may fail, one may succeed,
-- and it closes once. However its operations interleave, nothing else can be told.

namespace Duplex.Session

-- An upgrade that did not fail.
inductive Attempt where
  | pending | done
  deriving DecidableEq, Repr

-- A session that was established: the upgrades that failed and why, the one that came after them,
-- and why the session closed.
structure Life where
  failed : List Fault := []
  last : Option Attempt := none
  closed : Option CloseReason := none
  deriving DecidableEq, Repr

namespace Life

def failure (f : Fault) : List Event :=
  [.stateChange .established .upgrading, .stateChange .upgrading .established, .upgradeFailed f]

def attempt : Attempt → List Event
  | .pending => [.stateChange .established .upgrading]
  | .done =>
    [.stateChange .established .upgrading, .stateChange .upgrading .established,
      .upgrade .websocket]

def ending (state : ReadyState) (reason : CloseReason) : List Event :=
  [.stateChange state .closing, .stateChange .closing .closed, .close reason]

-- The state that a session closes from.
def openState (l : Life) : ReadyState :=
  if l.last = some .pending then .upgrading else .established

def state (l : Life) : ReadyState :=
  match l.closed with
  | some _ => .closed
  | none => l.openState

-- What an observer is told of such a life.
def events (l : Life) : List Event :=
  .stateChange .opening .established ::
    (l.failed.flatMap failure ++ l.last.toList.flatMap attempt ++
      l.closed.toList.flatMap (ending l.openState))

end Life

-- What an operation passes on.
def Op.passes (s : Session) : Op → List Event
  | passOn => s.events
  | _ => []

theorem Op.passes_of_ne {op : Op} (s : Session) (h : op ≠ .passOn) : op.passes s = [] := by
  cases op with
  | passOn => exact absurd rfl h
  | _ => rfl

-- What was passed on in a run.
def passed (s : Session) : List Op → List Event
  | [] => []
  | op :: ops => op.passes s ++ (s.perform op).passed ops

-- All that a session has told after a run, whether it was passed on or not.
def history (s : Session) (ops : List Op) : List Event :=
  s.passed ops ++ (s.run ops).events

-- Why the session should close, as often as an operation of a run says so.
def causes (s : Session) : List Op → List CloseReason
  | [] => []
  | op :: ops => (op.closing? s).toList ++ (s.perform op).causes ops

-- What is told after the first close.
def afterClose : List Event → List Event
  | [] => []
  | e :: es => if e.kind = .close then es else afterClose es

section

variable {told : List Event} (es : List Event)

theorem afterClose_append_of_open (h : ∀ e ∈ told, e.kind ≠ .close) :
    afterClose (told ++ es) = afterClose es := by
  induction told with
  | nil => rfl
  | cons e told ih =>
    have ⟨first, rest⟩ := List.forall_mem_cons.mp h
    simp only [List.cons_append, afterClose, first, ↓reduceIte]
    exact ih rest

theorem afterClose_append_of_closed {e : Event} (mem : e ∈ told) (close : e.kind = .close) :
    afterClose (told ++ es) = afterClose told ++ es := by
  induction told with
  | nil => simp at mem
  | cons e' told ih =>
    by_cases first : e'.kind = .close
    · simp [afterClose, first]
    · have later : e ∈ told := (List.mem_cons.mp mem).resolve_left fun same => first (same ▸ close)
      simp only [List.cons_append, afterClose, first, ↓reduceIte]
      exact ih later

theorem afterClose_of_open (h : ∀ e ∈ told, e.kind ≠ .close) : afterClose told = [] := by
  simpa [afterClose] using afterClose_append_of_open [] h

end

-- A session has told its life, was joined so often, and was given these causes to close.
structure Lived (told : List Event) (joins : Nat) (causes : List CloseReason) (s : Session)
    (life : Life) : Prop where
  turns : told.filter Event.isTurn = life.events
  joins : joins = life.failed.length + life.last.toList.length
  closed : life.closed = causes.head?
  state : s.state = life.state
  websocket : life.last = some .done → s.transport.kind = .websocket
  after : ∀ e ∈ afterClose told, e.kind = .error

namespace Life

variable {l : Life}

theorem kind_ne_close {e : Event} (open_ : l.closed = none) (mem : e ∈ l.events) :
    e.kind ≠ .close := by
  simp only [events, open_, Option.toList_none, List.flatMap_nil, List.append_nil, List.mem_cons,
    List.mem_append, List.mem_flatMap] at mem
  obtain rfl | ⟨f, _, mem⟩ | ⟨a, _, mem⟩ := mem
  · nofun
  · simp only [failure, List.mem_cons, List.not_mem_nil, or_false] at mem
    obtain rfl | rfl | rfl := mem <;> nofun
  · cases a <;> simp only [attempt, List.mem_cons, List.not_mem_nil, or_false] at mem
    · exact mem ▸ nofun
    · obtain rfl | rfl | rfl := mem <;> nofun

theorem close_mem {reason : CloseReason} (closed : l.closed = some reason) :
    .close reason ∈ l.events := by
  simp [events, closed, ending]

end Life

namespace Lived

variable {told : List Event} {joins : Nat} {causes : List CloseReason} {s s' : Session} {life : Life}

theorem kind_ne_close (h : Lived told joins causes s life) (open_ : life.closed = none) :
    ∀ e ∈ told, e.kind ≠ .close := fun e mem close => by
  have turn : e ∈ told.filter Event.isTurn := by simp [mem, Event.isTurn, close]
  exact Life.kind_ne_close open_ (h.turns ▸ turn) close

theorem live_iff (h : Lived told joins causes s life) : s.isLive ↔ life.closed = none := by
  simp only [isLive, h.state, Life.state]
  cases life.closed with
  | some reason => simp [ReadyState.isLive]
  | none =>
    simp only [Life.openState]
    split <;> simp [ReadyState.isLive]

theorem closed_none (h : Lived told joins causes s life) (live : s.isLive) : life.closed = none :=
  h.live_iff.mp live

theorem last_eq (h : Lived told joins causes s life) (upgrading : s.state = .upgrading) :
    life.last = some .pending := by
  have state : life.openState = .upgrading := by
    have state := h.state
    rw [upgrading] at state
    simpa [Life.state, h.closed_none (isLive_of_upgrading upgrading)] using state.symm
  simp only [Life.openState] at state
  split at state
  · assumption
  · exact absurd state nofun

theorem idle {es : List Event} {cs : List CloseReason} (h : Lived told joins causes s life)
    (state : s'.state = s.state)
    (websocket : s.transport.kind = .websocket → s'.transport.kind = .websocket)
    (plain : ∀ e ∈ es, e.kind = .error ∨ e.kind = .message ∧ s.isLive)
    (stays : s.isLive → cs = []) : Lived (told ++ es) joins (causes ++ cs) s' life where
  turns := by
    have traffic : es.filter Event.isTurn = [] := List.filter_eq_nil_iff.mpr fun e mem => by
      obtain error | ⟨message, _⟩ := plain e mem
      · simp [Event.isTurn, error]
      · simp [Event.isTurn, message]
    rw [List.filter_append, traffic, List.append_nil, h.turns]
  joins := h.joins
  closed := by
    cases closed : life.closed with
    | none => rw [stays (h.live_iff.mpr closed), List.append_nil, ← h.closed, closed]
    | some reason => rw [List.head?_append, ← h.closed, closed, Option.some_or]
  state := state.trans h.state
  websocket done := websocket (h.websocket done)
  after e mem := by
    cases closed : life.closed with
    | none =>
      rw [afterClose_append_of_open es (h.kind_ne_close closed), afterClose_of_open] at mem
      · simp at mem
      · intro e mem
        obtain error | ⟨message, _⟩ := plain e mem
        · simp [error]
        · simp [message]
    | some reason =>
      have close : .close reason ∈ told :=
        (List.mem_filter.mp (h.turns ▸ Life.close_mem closed)).1
      rw [afterClose_append_of_closed es close rfl, List.mem_append] at mem
      cases mem with
      | inl before => exact h.after e before
      | inr now =>
        obtain error | ⟨_, live⟩ := plain e now
        · exact error
        · exact absurd (h.closed_none live) (by simp [closed])

-- What a session that lives tells of an upgrade.
theorem extend {es : List Event} {life' : Life} {n : Nat} (h : Lived told joins causes s life)
    (live : s.isLive) (turns : life'.events = life.events ++ es) (all : ∀ e ∈ es, e.isTurn)
    (count : life'.failed.length + life'.last.toList.length =
      life.failed.length + life.last.toList.length + n)
    (open_ : life'.closed = none) (state : s'.state = life'.openState)
    (websocket : life'.last = some .done → s'.transport.kind = .websocket) :
    Lived (told ++ es) (joins + n) causes s' life' := by
  have told' : (told ++ es).filter Event.isTurn = life'.events := by
    rw [List.filter_append, h.turns, turns, List.filter_eq_self.mpr all]
  have quiet : ∀ e ∈ told ++ es, e.kind ≠ .close := fun e mem close => by
    have turn : e ∈ (told ++ es).filter Event.isTurn :=
      List.mem_filter.mpr ⟨mem, by simp [Event.isTurn, close]⟩
    exact Life.kind_ne_close open_ (told' ▸ turn) close
  refine ⟨told', by rw [h.joins, count], ?_, by simp [Life.state, open_, state], websocket, ?_⟩
  · rw [open_, ← h.closed, h.closed_none live]
  · rw [afterClose_of_open quiet]
    simp

theorem close {es : List Event} {reason : CloseReason} (h : Lived told joins causes s life)
    (live : s.isLive) (plain : ∀ e ∈ es, e.kind = .error) (state : s'.state = .closed)
    (websocket : life.last = some .done → s'.transport.kind = .websocket) :
    Lived (told ++ (es ++ Life.ending s.state reason)) joins (causes ++ [reason]) s'
      { life with closed := some reason } where
  turns := by
    have faults : es.filter Event.isTurn = [] := List.filter_eq_nil_iff.mpr fun e mem => by
      simp [Event.isTurn, plain e mem]
    have ends : (Life.ending s.state reason).filter Event.isTurn = Life.ending s.state reason :=
      List.filter_eq_self.mpr (by simp [Life.ending, Event.isTurn, Event.kind])
    have same : s.state = life.openState := by simp [h.state, Life.state, h.closed_none live]
    rw [List.filter_append, List.filter_append, faults, ends, h.turns, List.nil_append, same]
    simp [Life.events, h.closed_none live, Life.openState]
  joins := h.joins
  closed := by
    have uncaused : causes = [] :=
      List.head?_eq_none_iff.mp (h.closed.symm.trans (h.closed_none live))
    simp [uncaused]
  state := state
  websocket := websocket
  after e mem := by
    have quiet : ∀ e ∈ es, e.kind ≠ .close := fun e mem => by simp [plain e mem]
    rw [afterClose_append_of_open _ (h.kind_ne_close (h.closed_none live)),
      afterClose_append_of_open _ quiet] at mem
    simp [Life.ending, afterClose, Event.kind] at mem

theorem turn {op : Op} (h : Lived told joins causes s life) (t : Turn s op s')
    (websocket : s.transport.kind = .websocket → s'.transport.kind = .websocket) :
    ∃ es life', s'.events = s.events ++ es ∧
      Lived (told ++ es) (joins + (op.joining?.filter s.admits).toList.length)
        (causes ++ (op.closing? s).toList) s' life' := by
  cases t with
  | idle said plain stays lets =>
    refine ⟨_, life, said.events, ?_⟩
    rw [lets]
    exact h.idle said.state websocket plain fun live => by simp [stays live]
  | begins lets before polling after events stays =>
    have live := isLive_of_established before
    have fresh : life.last = none := by
      cases last : life.last with
      | none => rfl
      | some a =>
        cases a with
        | pending => simp [h.state, Life.state, h.closed_none live, Life.openState, last] at before
        | done => cases polling.symm.trans (h.websocket last)
    refine ⟨_, { life with last := some .pending }, events, ?_⟩
    simp only [lets, stays, Option.toList_none, List.append_nil]
    exact h.extend live (by simp [Life.events, fresh, h.closed_none live, Life.attempt])
      (by simp [Event.isTurn, Event.kind]) (by simp [fresh]) (h.closed_none live) after (by simp)
  | fails f before after events stays lets =>
    have live := isLive_of_upgrading before
    have last := h.last_eq before
    refine ⟨_, { life with failed := life.failed ++ [f], last := none }, events, ?_⟩
    simp only [lets, stays, Option.toList_none, List.append_nil]
    exact h.extend live
      (by simp [Life.events, last, h.closed_none live, Life.attempt, Life.failure])
      (by simp [Event.isTurn, Event.kind]) (by simp [last]) (h.closed_none live) after (by simp)
  | upgrades before after carried events stays lets =>
    have live := isLive_of_upgrading before
    have last := h.last_eq before
    refine ⟨_, { life with last := some .done }, events, ?_⟩
    simp only [lets, stays, Option.toList_none, List.append_nil]
    exact h.extend live (by simp [Life.events, last, h.closed_none live, Life.attempt])
      (by simp [Event.isTurn, Event.kind]) (by simp [last]) (h.closed_none live) after
      fun _ => carried
  | @closes reason asks live es plain after events lets =>
    refine ⟨_, { life with closed := some reason }, by rw [events, List.append_assoc], ?_⟩
    rw [lets, asks]
    exact h.close live plain after fun done => websocket (h.websocket done)

end Lived

-- A run that goes on from a session that has told its life so far. `told` is what was passed on
-- before.
theorem lived_from {told : List Event} {joins : Nat} {causes : List CloseReason} {s : Session}
    {life : Life} (v : s.Valid) (h : Lived (told ++ s.events) joins causes s life) (ops : List Op) :
    ∃ life', Lived (told ++ s.history ops) (joins + (s.joined ops).length) (causes ++ s.causes ops)
      (s.run ops) life' := by
  induction ops generalizing told joins causes s life with
  | nil => exact ⟨life, by simpa [history, passed, joined, Session.causes] using h⟩
  | cons op ops ih =>
    have changes := perform_changes s op
    have next : ∃ told' life', Lived (told' ++ (s.perform op).events)
        (joins + (op.joining?.filter s.admits).toList.length) (causes ++ (op.closing? s).toList)
        (s.perform op) life' ∧ told' = told ++ op.passes s := by
      by_cases passes : op = .passOn
      · subst passes
        have quiet : (s.perform .passOn).events = [] := rfl
        have same : Lived (told ++ s.events) joins causes (s.perform .passOn) life :=
          ⟨h.turns, h.joins, h.closed, h.state, h.websocket, h.after⟩
        exact ⟨_, life, by simpa [quiet, Op.passes, Op.joining?, Op.closing?] using same, rfl⟩
      · have websocket := fun carried => changes.induction carried Change.websocket
        obtain ⟨es, life', events, lived⟩ := h.turn (perform_turn v op passes) websocket
        refine ⟨told, life', ?_, by rw [Op.passes_of_ne s passes, List.append_nil]⟩
        rwa [events, ← List.append_assoc]
    obtain ⟨_, _, lived, eq⟩ := next
    obtain ⟨life', lived⟩ := ih (v.perform op) lived
    refine ⟨life', ?_⟩
    rw [eq] at lived
    simpa [history, passed, joined, Session.causes, Nat.add_assoc] using lived

theorem Origin.lived (o : Origin) : Lived o.session.events 0 [] o.session {} := by
  have events : o.session.events = [.stateChange .opening .established] := by
    simp only [session, start, events_flush]
    exact events_enter _ rfl (by decide)
  rw [events]
  refine ⟨rfl, rfl, rfl, (state_flush _).trans (state_enter _ _), by simp, ?_⟩
  simp [afterClose, Event.kind]

theorem Lived.isUpgrading_iff {told : List Event} {joins : Nat} {causes : List CloseReason}
    {s : Session} {life : Life} (h : Lived told joins causes s life) (v : s.Valid) :
    s.isUpgrading ↔ life.last = some .pending ∧ life.closed = none := by
  rw [isUpgrading, ← v.upgrading_iff]
  constructor
  · intro upgrading
    exact ⟨h.last_eq upgrading, h.closed_none (isLive_of_upgrading upgrading)⟩
  · intro ⟨last, closed⟩
    simp [h.state, Life.state, closed, Life.openState, last]

-- Whatever is done to a session, what it tells besides messages and errors is the story of one life,
-- and once it has closed it tells of errors only. Every websocket that was let in is one attempt of
-- that life, and it fails, succeeds, is cut short by the close, or is not decided yet. The session
-- closes once, for the first reason that it was given.
theorem run_tells_life (o : Origin) (ops : List Op) :
    ∃ life : Life, (o.session.history ops).filter Event.isTurn = life.events ∧
      (o.session.joined ops).length = life.failed.length + life.last.toList.length ∧
      ((o.session.run ops).isUpgrading ↔ life.last = some .pending ∧ life.closed = none) ∧
      life.closed = (o.session.causes ops).head? ∧
      ∀ e ∈ afterClose (o.session.history ops), e.kind = .error := by
  have start : Lived ([] ++ o.session.events) 0 [] o.session {} := o.lived
  have ⟨life, h⟩ := lived_from o.valid start ops
  rw [List.nil_append, List.nil_append, Nat.zero_add] at h
  exact ⟨life, h.turns, h.joins, h.isUpgrading_iff (valid_run o ops), h.closed, h.after⟩

end Duplex.Session
