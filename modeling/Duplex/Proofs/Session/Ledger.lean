import Duplex.Proofs.Session.Outbound

-- An account of all packets that a session was given: some were taken by polls, then some by the
-- websocket that took over, and the rest still waits.

namespace Duplex

-- The packets of an answered poll.
def Delivery.answered : Delivery → List Packet
  | answer _ packets => packets
  | frame _ _ | hangUp _ => []

namespace Session

-- The packets that polls were answered with, in the order of the answers.
def answered (s : Session) : List Packet :=
  s.dispatched.flatMap Delivery.answered

end Session

namespace Delivery

variable {before after : TransportKind} {idle : List Delivery}

theorem filter_answered_idle (h : ∀ d ∈ idle, d.Idle before after) {q : Packet → Bool}
    (noop : q .noop = false) : (idle.flatMap answered).filter q = [] := by
  rw [List.filter_eq_nil_iff]
  intro p mem
  have ⟨d, hd, hp⟩ := List.mem_flatMap.mp mem
  cases h d hd <;> simp_all [answered]

theorem framesOn_idle (h : ∀ d ∈ idle, d.Idle before after) (tid : TransportId) :
    ∀ f ∈ idle.filterMap (Session.frameOn? tid), f = .probeAnswer := by
  intro f mem
  have ⟨d, hd, hf⟩ := List.mem_filterMap.mp mem
  cases h d hd <;> simp_all [Session.frameOn?]

theorem framesOn_idle_websocket (h : ∀ d ∈ idle, d.Idle before .websocket) (tid : TransportId) :
    idle.filterMap (Session.frameOn? tid) = [] := by
  rw [List.filterMap_eq_nil_iff]
  intro d hd
  cases h d hd <;> rfl

end Delivery

namespace Channel.Takes

variable {taken : List Packet} {moved : List Delivery} {id : TransportId} {r : Revision}

theorem answered_polls (h : (polls id).Takes taken moved) :
    moved.flatMap Delivery.answered = taken := by
  cases h <;> simp [Delivery.answered]

theorem framesOn_polls (h : (polls id).Takes taken moved) (tid : TransportId) :
    moved.filterMap (Session.frameOn? tid) = [] := by
  cases h <;> simp [Session.frameOn?]

theorem answered_websocket (h : (websocket id r).Takes taken moved) :
    moved.flatMap Delivery.answered = [] := by
  cases h with
  | nothing => rfl
  | frames =>
    rw [List.flatMap_map]
    exact List.flatMap_eq_nil_iff.mpr fun f _ => rfl

theorem framesOn_websocket (h : (websocket id r).Takes taken moved) :
    moved.filterMap (Session.frameOn? id) = taken.filterMap (Frame.form? r) := by
  cases h with
  | nothing => rfl
  | frames =>
    rw [List.filterMap_map]
    have each : Session.frameOn? id ∘ Delivery.frame id = some := by
      funext f
      simp [Session.frameOn?]
    rw [each, List.filterMap_some]

end Channel.Takes

namespace Session

namespace Outbound

variable {s s' : Session} {ps taken : List Packet} {idle moved : List Delivery}

theorem filter_answered (o : Outbound s ps s' idle moved taken) {q : Packet → Bool}
    (noop : q .noop = false) :
    s'.answered.filter q = s.answered.filter q ++ (moved.flatMap Delivery.answered).filter q := by
  simp [answered, o.dispatched, Delivery.filter_answered_idle o.idles noop]

theorem framesOn (o : Outbound s ps s' idle moved taken) (tid : TransportId) :
    s'.framesOn tid =
      s.framesOn tid ++ (idle.filterMap (frameOn? tid) ++ moved.filterMap (frameOn? tid)) := by
  simp [Session.framesOn, o.dispatched]

-- Behind the frames that a websocket had are those of the packets that it took.
theorem framesOn_websocket {id : TransportId} {r : Revision}
    (o : Outbound s ps s' idle moved taken) (after : s'.transport.channel = .websocket id r) :
    s'.framesOn id = s.framesOn id ++ taken.filterMap (Frame.form? r) := by
  have takes := o.takes
  have idles := o.idles
  rw [after] at takes
  rw [← s'.transport.kind_channel, after] at idles
  rw [o.framesOn, takes.framesOn_websocket, Delivery.framesOn_idle_websocket idles, List.nil_append]

end Outbound

-- The frames that a websocket had were answers to its probe pings, and after them the packets that
-- it was offered. While polls go on nothing was offered to a websocket.
def Offered (s : Session) (offered : List Packet) : Channel → Prop
  | .polls _ => offered = [] ∧ ∀ tid, ∀ f ∈ s.framesOn tid, f = .probeAnswer
  | .websocket id r =>
    ∃ n, s.framesOn id = List.replicate n .probeAnswer ++ offered.filterMap (Frame.form? r)

-- The account of a session: all packets that it was given are in one of three places, in order.
-- Polls were answered with what they took, and with packets that mean nothing.
structure Ledger (s : Session) (given polled offered : List Packet) : Prop where
  balance : given = polled ++ offered ++ s.buffer
  answers : ∀ q : Packet → Bool, q .noop = false → s.answered.filter q = polled.filter q
  frames : s.Offered offered s.transport.channel

namespace Ledger

variable {s s' : Session} {given polled offered ps taken : List Packet}
  {idle moved : List Delivery} {id id' : TransportId} {r : Revision}

-- Polls take what waits, and nothing else.
theorem polls (l : s.Ledger given polled offered) (o : Outbound s ps s' idle moved taken)
    (before : s.transport.channel = .polls id) (after : s'.transport.channel = .polls id') :
    s'.Ledger (given ++ ps) (polled ++ taken) [] := by
  have frames := l.frames
  have takes := o.takes
  rw [before] at frames
  rw [after] at takes
  have ⟨unoffered, probed⟩ := frames
  refine ⟨?_, fun q noop => ?_, ?_⟩
  · simp [l.balance, unoffered, o.buffer]
  · rw [o.filter_answered noop, l.answers q noop, takes.answered_polls, List.filter_append]
  · rw [after]
    refine ⟨rfl, fun tid f mem => ?_⟩
    rw [o.framesOn, takes.framesOn_polls, List.append_nil, List.mem_append] at mem
    exact mem.elim (probed tid f) (Delivery.framesOn_idle o.idles tid f)

-- The websocket that takes over had no frames but answers to its probe pings.
theorem swap (l : s.Ledger given polled offered) (o : Outbound s ps s' idle moved taken)
    (before : s.transport.channel = .polls id) (after : s'.transport.channel = .websocket id' r) :
    s'.Ledger (given ++ ps) polled taken := by
  have frames := l.frames
  have takes := o.takes
  rw [before] at frames
  rw [after] at takes
  have ⟨unoffered, probed⟩ := frames
  refine ⟨?_, fun q noop => ?_, ?_⟩
  · simp [l.balance, unoffered, o.buffer]
  · rw [o.filter_answered noop, l.answers q noop, takes.answered_websocket]
    simp
  · rw [after]
    have probes := List.eq_replicate_of_mem (probed id')
    exact ⟨_, by rw [o.framesOn_websocket after, probes]⟩

-- A websocket is offered packets one after the other.
theorem websocket (l : s.Ledger given polled offered) (o : Outbound s ps s' idle moved taken)
    (before : s.transport.channel = .websocket id r)
    (after : s'.transport.channel = .websocket id r) :
    s'.Ledger (given ++ ps) polled (offered ++ taken) := by
  have frames := l.frames
  have takes := o.takes
  rw [before] at frames
  rw [after] at takes
  have ⟨n, eq⟩ := frames
  refine ⟨?_, fun q noop => ?_, ?_⟩
  · simp [l.balance, o.buffer]
  · rw [o.filter_answered noop, l.answers q noop, takes.answered_websocket]
    simp
  · rw [after]
    exact ⟨n, by rw [o.framesOn_websocket after, eq]; simp⟩

-- A change of a live session, whatever it is.
theorem change {ws : List (TransportId × Revision)} (l : s.Ledger given polled offered)
    (h : Change s ps ws s') (v : s.Valid) (live : s'.isLive) :
    ∃ polled offered, s'.Ledger (given ++ ps) polled offered := by
  have ⟨idle, moved, taken, o⟩ := h.outbound v live
  cases before : s.transport.channel with
  | polls id =>
    cases after : s'.transport.channel with
    | polls id' => exact ⟨_, _, l.polls o before after⟩
    | websocket id' r => exact ⟨_, _, l.swap o before after⟩
  | websocket id r => exact ⟨_, _, l.websocket o before (h.channel_of_websocket v before)⟩

theorem changes {ws : List (TransportId × Revision)} (l : s.Ledger given polled offered)
    (h : Changes s ps ws s') (v : s.Valid) (live : s'.isLive) :
    ∃ polled offered, s'.Ledger (given ++ ps) polled offered := by
  induction h generalizing given polled offered with
  | refl => exact ⟨_, _, by simpa using l⟩
  | step c rest ih =>
    have ⟨_, _, l⟩ := l.change c v (Valid.isLive_of_changes (v.change c) rest live)
    rw [← List.append_assoc]
    exact ih l (v.change c) live

end Ledger

namespace Origin

variable (o : Origin)

theorem ledger_created : o.created.Ledger [] [] [] := by
  refine ⟨rfl, fun q _ => rfl, ?_⟩
  cases o.created.transport.channel with
  | polls id => exact ⟨rfl, by simp [framesOn, created]⟩
  | websocket id r => exact ⟨0, rfl⟩

theorem ledger_session : ∃ polled offered, o.session.Ledger [o.handshake.packet] polled offered := by
  have ⟨idle, moved, taken, out⟩ := o.outbound
  have same : o.session.transport.channel = o.created.transport.channel := o.channel_session
  cases before : o.created.transport.channel with
  | polls id => exact ⟨_, _, o.ledger_created.polls out before (same.trans before)⟩
  | websocket id r => exact ⟨_, _, o.ledger_created.websocket out before (same.trans before)⟩

end Origin

theorem ledger_run (o : Origin) (ops : List Op) (live : (o.session.run ops).isLive) :
    ∃ polled offered, (o.session.run ops).Ledger (o.handshake.packet :: o.session.accepted ops)
      polled offered := by
  have ⟨_, _, l⟩ := o.ledger_session
  exact l.changes (run_changes _ ops) o.valid live

end Session

end Duplex
