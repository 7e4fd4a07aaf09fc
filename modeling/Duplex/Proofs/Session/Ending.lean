import Duplex.Proofs.Session.Lifetime
import Duplex.Proofs.Session.Scene
import Duplex.Proofs.Session.Waking

-- Why a session that a websocket carries closes for the sake of its transport: the websocket ended
-- or failed, a close packet came, or the body of a request broke off that was let in before the
-- websocket took over.

namespace Duplex.Session

section

variable {s : Session}

theorem channel_run_of_websocket {id : TransportId} {r : Revision} (v : s.Valid)
    (carried : s.transport.channel = .websocket id r) (ops : List Op) :
    (s.run ops).transport.channel = .websocket id r :=
  ((run_changes s ops).induction (P := fun s => s.Valid ∧ s.transport.channel = .websocket id r)
    ⟨v, carried⟩ fun c h => ⟨h.1.change c, c.channel_of_websocket h.1 h.2⟩).2

-- Nobody who works for a session has to stop as long as it lives.

theorem Change.cancelled {s' : Session} {ps : List Packet} {ws : List (TransportId × Revision)}
    (h : Change s ps ws s') (live : s'.isLive) : s'.cancelled = s.cancelled := by
  cases h with
  | note | release | client | writer | refuse | probe => rfl
  | accept | register => exact cancelled_flush _
  | join => exact cancelled_enter _ _
  | @upgrade p =>
    obtain ⟨_, eq⟩ := s.completeUpgrade_eq p.transport
    have swapped : (s.swap p.transport).cancelled = s.cancelled := by
      simp [swap, handOver, Session.releasePoll, withTransport]
    rw [eq]
    exact (cancelled_flush _).trans swapped
  | abort f pending =>
    obtain ⟨_, eq⟩ := abortUpgrade_of_pending s f pending
    have stayed : s.stay.cancelled = s.cancelled := by
      simp only [stay]
      split <;> simp
    rw [eq]
    exact (cancelled_flush _).trans stayed
  | close reason => exact absurd ((isLive_close s reason).symm.trans live) Bool.false_ne_true

-- A session between two operations. It is stopped only when it is over.
def Sane (s : Session) : Prop :=
  s.Valid ∧ (s.isLive → s.cancelled = false)

namespace Sane

theorem change {s' : Session} {ps : List Packet} {ws : List (TransportId × Revision)}
    (h : s.Sane) (c : Change s ps ws s') : s'.Sane :=
  ⟨h.1.change c, fun live => (c.cancelled live).trans (h.2 (h.1.isLive_of_change c live))⟩

theorem run (h : s.Sane) (ops : List Op) : (s.run ops).Sane :=
  (run_changes s ops).induction h fun c h => h.change c

end Sane

theorem Origin.sane (o : Origin) : o.session.Sane := by
  refine ⟨o.valid, fun _ => ?_⟩
  simp only [session, start, cancelled_flush, cancelled_enter]
  rfl

theorem cancelled_run_of_live (o : Origin) (ops : List Op) (live : (o.session.run ops).isLive) :
    (o.session.run ops).cancelled = false :=
  (o.sane.run ops).2 live

-- Whoever works for a session has to stop exactly when it is over.
theorem cancelled_run (o : Origin) (ops : List Op) :
    (o.session.run ops).cancelled = !(o.session.run ops).isLive := by
  cases live : (o.session.run ops).isLive with
  | false => exact ((valid_run o ops).ended live).2.2.2.2.2
  | true => exact cancelled_run_of_live o ops live

-- An operation tells of a close if it has a reason for one.
theorem close_mem_events_perform (v : s.Valid) (live : s.isLive)
    (open_ : ∀ e ∈ s.events, e.kind ≠ .close) (op : Op) (tells : op ≠ .passOn)
    (reason : CloseReason) :
    .close reason ∈ (s.perform op).events ↔ op.closing? s = some reason := by
  have before : .close reason ∉ s.events := fun mem => open_ _ mem rfl
  cases perform_turn v op tells with
  | idle said plain stays lets =>
    rw [said.events, stays live, List.mem_append, or_iff_right before]
    refine ⟨fun mem => ?_, nofun⟩
    obtain error | ⟨message, _⟩ := plain _ mem
    · cases error
    · cases message
  | begins lets _ _ _ events stays => simp [events, stays, before]
  | fails f _ _ events stays => simp [events, stays, before]
  | upgrades _ _ _ events stays => simp [events, stays, before]
  | closes asks _ es plain _ events lets =>
    have other : .close reason ∉ es := fun mem => nomatch plain _ mem
    simp [events, asks, before, other, eq_comm]

-- As long as a session lives it has told of no close.
theorem kind_ne_close_of_live (o : Origin) (ops : List Op) (live : (o.session.run ops).isLive) :
    ∀ e ∈ (o.session.run ops).events, e.kind ≠ .close := by
  have start : Lived ([] ++ o.session.events) 0 [] o.session {} := o.lived
  have ⟨life, lived⟩ := lived_from o.valid start ops
  intro e mem
  exact lived.kind_ne_close (lived.closed_none live) e
    (List.mem_append_right _ (List.mem_append_right _ mem))

theorem admitUpload_isOk_iff :
    s.admitUpload.isOk ↔ s.isLive ∧ s.transport.kind = .polling := by
  simp only [admitUpload]
  cases s.isLive <;> cases s.transport.kind <;> simp [Except.isOk, Except.toBool]

end

-- What can rightly end a session for the sake of its transport, while a websocket carries it.
inductive Fails (t : Websocket) : Task → Cue → CloseReason → Prop
  | hangUp : Fails t { stage := .carrying t.id } (.message .close) .transportClose
  | failure : Fails t { stage := .carrying t.id } (.message .failure) .transportError
  | packet {stage : Stage} {p : Packet} {left : List Packet} {now : Nat} (close : p.kind = .close) :
    Fails t { stage, left := p :: left } (.next now) .transportClose

-- What ends it besides: a body breaks off that was let in earlier.
inductive Breaks : Task → Cue → CloseReason → Prop
  | body (text : String) : Breaks { stage := .reading } (.broken text) .transportError

namespace Scene

variable {σ : Scene} {a : Act}

-- A session in the midst of a run, that lives and is carried by a websocket.
structure Carried (σ : Scene) (t : Websocket) : Prop where
  valid : σ.session.Valid
  live : σ.session.isLive
  websocket : σ.session.transport = .websocket t
  untold : ∀ e ∈ σ.session.events, e.kind ≠ .close
  working : σ.session.cancelled = false

theorem carried_run {o : Origin} {acts : List Act} {t : Websocket}
    (live : (o.scene.run acts).session.isLive)
    (websocket : (o.scene.run acts).session.transport = .websocket t) :
    Carried (o.scene.run acts) t := by
  have run : (o.scene.run acts).session = o.session.run (o.scene.ops acts) := session_run ..
  have live' : (o.session.run (o.scene.ops acts)).isLive := run ▸ live
  refine ⟨valid_run o acts, live, websocket, ?_, ?_⟩
  · rw [run]
    exact kind_ne_close_of_live o _ live'
  · rw [run]
    exact cancelled_run_of_live o _ live'

namespace Carried

variable {t : Websocket} {reason : CloseReason}

theorem close_not_mem (h : Carried σ t) : .close reason ∉ σ.session.events := fun mem =>
  h.untold _ mem rfl

-- A call tells of a close if it has a reason for one.
theorem close_mem_iff (h : Carried σ t) (op : Op) (tells : op ≠ .passOn) :
    .close reason ∈ (σ.session.run [op]).events ↔ op.closing? σ.session = some reason :=
  close_mem_events_perform h.valid h.live h.untold op tells reason

-- What ends the session concerns the task.
theorem act_ne_none {task : Task} {c : Cue} (ends : Fails t task c reason ∨ Breaks task c reason) :
    task.act σ.session c ≠ none := by
  obtain fails | breaks := ends
  · cases fails <;> nofun
  · cases breaks
    nofun

theorem close_mem_run_of_does (h : Carried σ t)
    (failure : reason = .transportClose ∨ reason = .transportError) {task task' : Task} {c : Cue}
    {ops : List Op} (does : Does σ.session task c ops task') :
    .close reason ∈ (σ.session.run ops).events ↔ Fails t task c reason ∨ Breaks task c reason := by
  have id : σ.session.transport.id = t.id := by
    rw [h.websocket]
    rfl
  have single (op : Op) (tells : op ≠ .passOn) (wrong : ¬Breaks task c reason)
      (asks : op.closing? σ.session = some reason ↔ Fails t task c reason) :
      .close reason ∈ (σ.session.run [op]).events ↔
        Fails t task c reason ∨ Breaks task c reason := by
    rw [h.close_mem_iff op tells, asks, or_iff_left wrong]
  cases does with
  | receive p left now =>
    refine single _ (by simp) (by rintro ⟨⟩) ⟨fun asks => ?_, fun fails => ?_⟩
    · obtain ⟨close, rfl⟩ : p.kind = .close ∧ .transportClose = reason := by
        simpa [Op.closing?] using asks
      exact .packet close
    · cases fails with
      | packet close => simp [Op.closing?, close]
  | lose text =>
    have told : ∀ e ∈ (σ.session.report (.brokenBody text)).events, e.kind ≠ .close := by
      rw [events_report]
      exact List.forall_mem_append.mpr ⟨h.untold, by simp [Event.kind]⟩
    have valid : (σ.session.report (.brokenBody text)).Valid := h.valid.signals _
    have closes :=
      close_mem_events_perform valid h.live told (.close .transportError) (by simp) reason
    refine closes.trans ⟨fun same => ?_, fun breaks => ?_⟩
    · rw [← Option.some.inj same]
      exact .inr (.body text)
    · cases breaks.resolve_left (by rintro ⟨⟩)
      rfl
  | @hangUp tid =>
    refine single _ (by simp) (by rintro ⟨⟩) ⟨fun asks => ?_, fun fails => ?_⟩
    · obtain ⟨rfl, rfl⟩ : t.id = tid ∧ .transportClose = reason := by
        simpa [Op.closing?, id] using asks
      exact .hangUp
    · cases fails
      simp [Op.closing?, id]
  | @fail tid =>
    refine single _ (by simp) (by rintro ⟨⟩) ⟨fun asks => ?_, fun fails => ?_⟩
    · obtain ⟨rfl, rfl⟩ : t.id = tid ∧ .transportError = reason := by
        simpa [Op.closing?, id] using asks
      exact .failure
    · cases fails
      simp [Op.closing?, id]
  | retire cancelled | desert cancelled =>
    exact absurd (h.working.symm.trans cancelled) Bool.false_ne_true
  | misread | mishear =>
    refine single _ (by simp) (by rintro ⟨⟩) (iff_of_false ?_ (by rintro ⟨⟩))
    simp only [Op.closing?]
    obtain rfl | rfl := failure <;> split <;> simp
  | quit tid f before =>
    obtain rfl | rfl := before <;>
      exact single _ (by simp) (by rintro ⟨⟩) (iff_of_false (by simp [Op.closing?]) (by rintro ⟨⟩))
  | read | refuse | probe | hear =>
    exact single _ (by simp) (by rintro ⟨⟩) (iff_of_false (by simp [Op.closing?]) (by rintro ⟨⟩))

-- Nothing else ends the session for the sake of its transport.
theorem close_mem_perform_iff (h : Carried σ t)
    (failure : reason = .transportClose ∨ reason = .transportError) (a : Act) :
    .close reason ∈ (σ.perform a).session.events ↔
      ∃ k c task, a = .cue k c ∧ σ.tasks[k]? = some task ∧
        (Fails t task c reason ∨ Breaks task c reason) := by
  have quiet (other : ∀ k c, a ≠ .cue k c) (silent : .close reason ∉ (σ.perform a).session.events) :
      .close reason ∈ (σ.perform a).session.events ↔
        ∃ k c task, a = .cue k c ∧ σ.tasks[k]? = some task ∧
          (Fails t task c reason ∨ Breaks task c reason) :=
    iff_of_false silent fun ends => by
      obtain ⟨k, c, _, eq, _⟩ := ends
      exact other k c eq
  cases a with
  | post => exact quiet (by simp) h.close_not_mem
  | connect tid revision writer =>
    refine quiet (by simp) fun mem => ?_
    have asks := (h.close_mem_iff (.beginUpgrade tid revision writer) (by simp)).mp mem
    simp [Op.closing?] at asks
  | other op apart =>
    refine quiet (by simp) fun mem => ?_
    by_cases passes : op = .passOn
    · subst passes
      exact absurd mem (List.not_mem_nil)
    · have asks : op.closing? σ.session = some reason := (h.close_mem_iff op passes).mp mem
      cases op with
      | close r =>
        obtain rfl := Option.some.inj asks
        obtain rfl | rfl := failure <;> cases apart
      | recordDecodeError e =>
        simp only [Op.closing?] at asks
        split at asks
        · obtain rfl | rfl := failure <;> cases asks
        · cases asks
      | receive | transportClosed => cases apart
      | _ => cases asks
  | cue k c =>
    cases acted : σ.taskAct? k c with
    | none =>
      rw [perform_cue_of_none acted]
      refine iff_of_false h.close_not_mem ?_
      rintro ⟨k', c', task, same, there, ends⟩
      obtain ⟨rfl, rfl⟩ := Act.cue.inj same
      exact act_ne_none ends ((taskAct?_of_getElem? there).symm.trans acted)
    | some done =>
      obtain ⟨ops, task'⟩ := done
      obtain ⟨task, there, acts⟩ := exists_of_taskAct? acted
      rw [perform_cue acted, h.close_mem_run_of_does failure (does_of_act acts)]
      refine ⟨fun ends => ⟨k, c, task, rfl, there, ends⟩, ?_⟩
      rintro ⟨k', c', task', same, there', ends⟩
      obtain ⟨rfl, rfl⟩ := Act.cue.inj same
      rwa [Option.some.inj (there.symm.trans there')]

end Carried

-- The body of a request that is being read was let in while the session polled.
theorem reading_run {acts : List Act} {k : Nat} (reads : (σ.run acts).stage? k = some .reading) :
    σ.stage? k = some .reading ∨
      ∃ early late, acts = early ++ .post :: late ∧
        (σ.run early).session.transport.kind = .polling ∧ (σ.run early).tasks.length = k := by
  induction acts generalizing σ with
  | nil => exact .inl reads
  | cons a acts ih =>
    obtain earlier | ⟨early, late, eq, polling, last⟩ := ih reads
    · obtain before | comes := stage?_perform earlier
      · exact .inl before
      · cases comes with
        | post admitted last =>
          exact .inr ⟨[], acts, rfl, (admitUpload_isOk_iff.mp admitted).2, last.symm⟩
    · exact .inr ⟨a :: early, late, by rw [eq]; rfl, polling, last⟩

-- Who carries a session. There is at most one, and it is for the active websocket.
structure Manned (σ : Scene) : Prop where
  carried : ∀ k tid, σ.stage? k = some (.carrying tid) →
    ∃ r, σ.session.transport.channel = .websocket tid r
  alone : ∀ k k' tid tid', σ.stage? k = some (.carrying tid) →
    σ.stage? k' = some (.carrying tid') → k' = k

-- A websocket begins to carry the session when it takes over from polling.
theorem Comes.carries (v : σ.session.Valid) {k : Nat} {tid : TransportId}
    (comes : Comes σ k a (.carrying tid)) :
    (∃ c, a = .cue k c) ∧ σ.session.transport.kind = .polling ∧
      ∃ r, (σ.perform a).session.transport.channel = .websocket tid r := by
  cases comes with
  | @upgrade c _ p calls upgraded =>
    have took : σ.session.probe tid p = (.ok .upgraded, (σ.session.probe tid p).2) :=
      Prod.ext upgraded rfl
    obtain ⟨q, pending, id, ⟨other, _⟩ | ⟨_, _, done⟩⟩ := probe_eq_ok took
    · cases other
    · have after : (σ.perform (.cue k c)).session = σ.session.completeUpgrade q.transport := by
        simp only [perform, calls]
        exact done
      refine ⟨⟨c, rfl⟩, (v.pending q pending).1, q.transport.revision, ?_⟩
      rw [after, channel_completeUpgrade, id]

theorem Manned.polls (m : Manned σ) (polling : σ.session.transport.kind = .polling) (k : Nat)
    (tid : TransportId) : σ.stage? k ≠ some (.carrying tid) := fun carries => by
  obtain ⟨r, carried⟩ := m.carried k tid carries
  rw [← Transport.kind_channel, carried] at polling
  cases polling

theorem Manned.perform (v : σ.session.Valid) (m : Manned σ) (a : Act) : Manned (σ.perform a) where
  carried k tid carries := by
    obtain before | comes := stage?_perform carries
    · obtain ⟨r, carried⟩ := m.carried k tid before
      exact ⟨r, channel_run_of_websocket v carried _⟩
    · exact (comes.carries v).2.2
  alone k k' tid tid' carries carries' := by
    obtain before | comes := stage?_perform carries <;>
      obtain before' | comes' := stage?_perform carries'
    · exact m.alone k k' tid tid' before before'
    · exact absurd before (m.polls (comes'.carries v).2.1 k tid)
    · exact absurd before' (m.polls (comes.carries v).2.1 k' tid')
    · obtain ⟨⟨c, rfl⟩, _⟩ := comes.carries v
      obtain ⟨⟨c', same⟩, _⟩ := comes'.carries v
      exact (Act.cue.inj same).1.symm

theorem Manned.run (v : σ.session.Valid) (m : Manned σ) (acts : List Act) : Manned (σ.run acts) := by
  induction acts generalizing σ with
  | nil => exact m
  | cons a acts ih => exact ih (valid_perform v a) (m.perform v a)

end Scene

theorem Origin.stage?_scene {o : Origin} {k : Nat} {stage : Stage}
    (there : o.scene.stage? k = some stage) :
    k = 0 ∧ stage = .carrying o.tid ∧ o.writer?.isSome := by
  simp only [scene, Scene.stage?] at there
  split at there
  · next opened =>
    cases k with
    | zero => exact ⟨rfl, (Option.some.inj there).symm, opened⟩
    | succ k => cases there
  · cases there

theorem Origin.manned (o : Origin) : Scene.Manned o.scene where
  carried k tid carries := by
    obtain ⟨_, same, opened⟩ := o.stage?_scene carries
    obtain ⟨writer, eq⟩ := Option.isSome_iff_exists.mp opened
    refine ⟨o.revision, ?_⟩
    have channel : o.scene.session.transport.channel = o.transport.channel := o.channel_session
    rw [channel, transport, eq, Stage.carrying.inj same]
    rfl
  alone k k' tid tid' carries carries' :=
    (o.stage?_scene carries').1.trans (o.stage?_scene carries).1.symm

-- While a websocket carries a session that lives, the session closes for the sake of its transport
-- if and only if that websocket ends or fails, or a close packet is handed over, or a body breaks off
-- that is still being read. Such a body was let in when the session polled. Only one task carries the
-- session, and it is for the active websocket, so that no other websocket can end the session.
theorem run_fails_iff (o : Origin) (acts : List Act) (a : Act) (t : Websocket) (reason : CloseReason)
    (live : (o.scene.run acts).session.isLive)
    (websocket : (o.scene.run acts).session.transport = .websocket t)
    (failure : reason = .transportClose ∨ reason = .transportError) :
    let σ := o.scene.run acts
    (.close reason ∈ (σ.perform a).session.events ↔
        ∃ k c task, a = .cue k c ∧ σ.tasks[k]? = some task ∧
          (Fails t task c reason ∨ Breaks task c reason)) ∧
      (∀ k, σ.stage? k = some .reading →
        ∃ early late, acts = early ++ .post :: late ∧
          (o.scene.run early).session.transport.kind = .polling ∧
          (o.scene.run early).tasks.length = k) ∧
      ∀ k tid, σ.stage? k = some (.carrying tid) →
        tid = t.id ∧ ∀ k' tid', σ.stage? k' = some (.carrying tid') → k' = k := by
  intro σ
  have carried : σ.Carried t := Scene.carried_run live websocket
  have manned : σ.Manned := o.manned.run o.valid acts
  refine ⟨carried.close_mem_perform_iff failure a, fun k reads => ?_, fun k tid carries => ⟨?_, ?_⟩⟩
  · obtain first | later := Scene.reading_run reads
    · obtain ⟨_, other, _⟩ := o.stage?_scene first
      cases other
    · exact later
  · obtain ⟨r, channel⟩ := manned.carried k tid carries
    rw [carried.websocket] at channel
    exact (Channel.websocket.inj channel).1.symm
  · exact fun k' tid' carries' => manned.alone k k' tid tid' carries carries'

-- The websocket that took over is closed by its client.
theorem run_fails_iff_hangUp :
    let acts : List Act :=
      [.other .registerPoll rfl, .connect 1 .v4 .present,
        .cue 0 (.message (.frame (.text "2probe"))), .cue 0 (.message (.frame (.text "5")))]
    let σ := Origin.plain.scene.run acts
    (σ.session.isLive ∧ σ.session.transport = .websocket { id := 1, revision := .v4 }) ∧
      .close .transportClose ∈ (σ.perform (.cue 0 (.message .close))).session.events :=
  have ends := run_fails_iff .plain _ (.cue 0 (.message .close)) { id := 1, revision := .v4 }
    .transportClose (by decide) (by decide) (.inl rfl)
  ⟨by decide, ends.1.mpr ⟨0, .message .close, { stage := .carrying 1 }, rfl, by decide, .inl .hangUp⟩⟩

-- A body that was let in while the session polled breaks off after the websocket has taken over, and
-- the session closes though the websocket still carries it.
theorem run_fails_broken :
    let acts : List Act :=
      [.other .registerPoll rfl, .post, .connect 1 .v4 .present,
        .cue 1 (.message (.frame (.text "2probe"))), .cue 1 (.message (.frame (.text "5")))]
    let σ := Origin.plain.scene.run acts
    let a : Act := .cue 0 (.broken "reset")
    (σ.session.isLive ∧ σ.session.transport = .websocket { id := 1, revision := .v4 } ∧
        σ.tasks = [{ stage := .reading }, { stage := .carrying 1 }]) ∧
      .close .transportError ∈ (σ.perform a).session.events ∧
      ¬∃ k c task, a = .cue k c ∧ σ.tasks[k]? = some task ∧
        Fails { id := 1, revision := .v4 } task c .transportError := by
  refine ⟨by decide, by decide, ?_⟩
  rintro ⟨k, c, task, same, there, fails⟩
  obtain ⟨rfl, rfl⟩ := Act.cue.inj same
  cases fails

end Duplex.Session
