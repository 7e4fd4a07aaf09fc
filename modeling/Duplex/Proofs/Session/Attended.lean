import Duplex.Proofs.Session.Ending
import Duplex.Proofs.Session.Hangup

-- Everyone who works for a websocket stays until the session works with it no longer, so that whoever
-- waits for its writer to end has told it to hang up.

namespace Duplex.Session

namespace Stage

-- The websocket that one works for.
def websocket? : Stage → Option TransportId
  | joining tid | leaving tid _ | carrying tid => some tid
  | reading | finished => none

-- The websocket that has not taken over yet.
def seeks? : Stage → Option TransportId
  | joining tid | leaving tid _ => some tid
  | reading | carrying _ | finished => none

theorem websocket?_of_seeks? {stage : Stage} {tid : TransportId} (h : stage.seeks? = some tid) :
    stage.websocket? = some tid := by
  cases stage with
  | joining | leaving => exact h
  | reading | carrying | finished => cases h

end Stage

section

variable {s : Session} {t t' : Task} {c : Cue} {ops : List Op} {tid : TransportId}

-- One goes on to work for the same websocket, or is done.

theorem Does.websocket? (h : Does s t c ops t') (after : t'.stage.websocket? = some tid) :
    t.stage.websocket? = some tid := by
  obtain same | ended | ⟨_, _, joins, _, ⟨_, leaves⟩ | ⟨_, carries⟩⟩ := h.stage
  · exact same ▸ after
  · rw [ended] at after
    cases after
  · rw [leaves] at after
    rw [joins]
    exact after
  · rw [carries] at after
    rw [joins]
    exact after

theorem Does.seeks? (h : Does s t c ops t') (after : t'.stage.seeks? = some tid) :
    t.stage.seeks? = some tid := by
  obtain same | ended | ⟨_, _, joins, _, ⟨_, leaves⟩ | ⟨_, carries⟩⟩ := h.stage
  · exact same ▸ after
  · rw [ended] at after
    cases after
  · rw [leaves] at after
    rw [joins]
    exact after
  · rw [carries] at after
    cases after

theorem Does.goesOn (h : Does s t c ops t') (before : t.stage.websocket? = some tid) :
    t'.stage.websocket? = some tid ∨ t'.stage = .finished := by
  obtain same | ended | ⟨_, _, joins, _, ⟨_, leaves⟩ | ⟨_, carries⟩⟩ := h.stage
  · exact .inl (same.symm ▸ before)
  · exact .inr ended
  · rw [joins] at before
    rw [leaves]
    exact .inl before
  · rw [joins] at before
    rw [carries]
    exact .inl before

-- A websocket that takes over is carried by the one who let it in.
theorem Does.carries {p : Packet} (acts : t.act s c = some ([.probe tid p], t'))
    (upgraded : (s.probe tid p).1 = .ok .upgraded) :
    t.stage = .joining tid ∧ t'.stage = .carrying tid := by
  cases does_of_act acts with
  | probe decoded still =>
    simp only [Task.act, Stage.act, decoded, upgraded, Option.some.injEq, Prod.mk.injEq, true_and]
      at acts
    exact ⟨rfl, acts ▸ rfl⟩

end

-- The websocket that comes in a step.
def Act.brings? : Act → Option TransportId
  | connect tid _ _ => some tid
  | post | cue _ _ | other _ _ => none

namespace Scene

-- The websocket that a task works for now.
def attends? (σ : Scene) (k : Nat) : Option TransportId :=
  (σ.stage? k).bind Stage.websocket?

section

variable {σ : Scene} {a : Act} {k : Nat} {tid : TransportId}

theorem exists_of_attends? (h : σ.attends? k = some tid) :
    ∃ t, σ.tasks[k]? = some t ∧ t.stage.websocket? = some tid := by
  obtain ⟨stage, there, websocket⟩ := Option.bind_eq_some_iff.mp h
  obtain ⟨t, present, rfl⟩ := Option.map_eq_some_iff.mp there
  exact ⟨t, present, websocket⟩

theorem attends?_of_getElem? {t : Task} (there : σ.tasks[k]? = some t) :
    σ.attends? k = t.stage.websocket? := by
  simp [attends?, stage?, there]

-- A task of a scene that has gone on was there before, perhaps at another stage, or is the new one.
theorem getElem?_perform {t : Task} (after : (σ.perform a).tasks[k]? = some t) :
    σ.tasks[k]? = some t ∨
      (∃ c ops t₀, a = .cue k c ∧ σ.tasks[k]? = some t₀ ∧ t₀.act σ.session c = some (ops, t) ∧
        (σ.perform a).session = σ.session.run ops) ∨
      t = { stage := .reading } ∨
      ∃ tid r w, a = .connect tid r w ∧ σ.session.checkUpgrade.isOk ∧ k = σ.tasks.length ∧
        t = { stage := .joining tid } := by
  cases a with
  | post =>
    simp only [perform, tasksAfter] at after
    split at after
    · obtain old | ⟨_, new⟩ := getElem?_append_singleton after
      · exact .inl old
      · exact .inr (.inr (.inl new))
    · exact .inl after
  | connect tid revision writer =>
    simp only [perform, tasksAfter] at after
    split at after
    · next admitted =>
      obtain old | ⟨last, new⟩ := getElem?_append_singleton after
      · exact .inl old
      · exact .inr (.inr (.inr ⟨tid, revision, writer, rfl, admitted, last, new⟩))
    · exact .inl after
  | other op apart => exact .inl after
  | cue k' c =>
    cases acted : σ.taskAct? k' c with
    | none =>
      rw [perform_cue_of_none acted] at after
      exact .inl after
    | some done =>
      obtain ⟨ops, t'⟩ := done
      obtain ⟨t₀, there, acts⟩ := exists_of_taskAct? acted
      rw [perform_cue acted] at after ⊢
      by_cases same : k' = k
      · subst same
        obtain rfl := Option.some.inj ((getElem?_set there t').symm.trans after)
        exact .inr (.inl ⟨c, ops, t₀, rfl, there, acts, rfl⟩)
      · exact .inl (by rwa [List.getElem?_set_ne same] at after)

-- Whoever works for a websocket did so before, or has come with it.
theorem attends?_perform (after : (σ.perform a).attends? k = some tid) :
    σ.attends? k = some tid ∨ a.brings? = some tid ∧ k = σ.tasks.length := by
  obtain ⟨t, there, websocket⟩ := exists_of_attends? after
  obtain old | ⟨c, ops, t₀, _, there₀, acts, _⟩ | rfl | ⟨tid', r, w, rfl, _, last, rfl⟩ :=
    getElem?_perform there
  · exact .inl ((attends?_of_getElem? old).trans websocket)
  · exact .inl ((attends?_of_getElem? there₀).trans ((does_of_act acts).websocket? websocket))
  · cases websocket
  · exact .inr ⟨websocket, last⟩

-- Whoever works for a websocket goes on, or is done.
theorem attends?_of_perform (before : σ.attends? k = some tid) (a : Act) :
    (σ.perform a).attends? k = some tid ∨
      ∃ c ops t t', a = .cue k c ∧ Does σ.session t c ops t' ∧ t.stage.websocket? = some tid ∧
        t'.stage = .finished ∧ σ.stage? k = some t.stage ∧
        (σ.perform a).session = σ.session.run ops := by
  obtain ⟨t, there, websocket⟩ := exists_of_attends? before
  have stays (more : List Task) (same : (σ.perform a).tasks = σ.tasks ++ more) :
      (σ.perform a).attends? k = some tid := by
    have bound := (List.getElem?_eq_some_iff.mp there).1
    rw [attends?_of_getElem? (by rw [same, List.getElem?_append_left bound, there]), websocket]
  cases a with
  | post =>
    left
    by_cases admitted : σ.session.admitUpload.isOk
    · exact stays [{ stage := .reading }] (if_pos admitted)
    · exact stays [] ((if_neg admitted).trans (List.append_nil _).symm)
  | connect tid' revision writer =>
    left
    by_cases admitted : σ.session.checkUpgrade.isOk
    · exact stays [{ stage := .joining tid' }] (if_pos admitted)
    · exact stays [] ((if_neg admitted).trans (List.append_nil _).symm)
  | other op apart => exact .inl (stays [] (List.append_nil _).symm)
  | cue k' c =>
    cases acted : σ.taskAct? k' c with
    | none =>
      rw [perform_cue_of_none acted]
      exact .inl before
    | some done =>
      obtain ⟨ops, t'⟩ := done
      obtain ⟨t₀, there₀, acts⟩ := exists_of_taskAct? acted
      rw [perform_cue acted]
      by_cases same : k' = k
      · subst same
        obtain rfl := Option.some.inj (there.symm.trans there₀)
        obtain goes | ended := (does_of_act acts).goesOn websocket
        · exact .inl ((attends?_of_getElem? (getElem?_set there t')).trans goes)
        · exact .inr ⟨c, ops, t, t', rfl, does_of_act acts, websocket, ended,
            by simp [stage?, there], rfl⟩
      · left
        rw [attends?_of_getElem? ((List.getElem?_set_ne same).trans there), websocket]

theorem brings?_calls (σ : Scene) (a : Act) :
    (σ.calls a).filterMap Op.brings? = a.brings?.toList := by
  cases a with
  | post => rfl
  | connect tid revision writer => rfl
  | other op apart => cases op <;> first | rfl | cases apart
  | cue k c =>
    simp only [calls]
    cases acted : σ.taskAct? k c with
    | none => rfl
    | some done =>
      obtain ⟨ops, t'⟩ := done
      obtain ⟨t, _, acts⟩ := exists_of_taskAct? acted
      cases does_of_act acts <;> rfl

end

-- The active transport changes when a task lets its websocket take over.
theorem channel_perform (σ : Scene) (a : Act) :
    (σ.perform a).session.transport.channel = σ.session.transport.channel ∨
      ∃ k c t t' tid p r, a = .cue k c ∧ σ.tasks[k]? = some t ∧
        t.act σ.session c = some ([.probe tid p], t') ∧
        (σ.session.probe tid p).1 = .ok .upgraded ∧ (σ.perform a).tasks[k]? = some t' ∧
        (σ.perform a).session.transport.channel = .websocket tid r := by
  have quiet (others : ∀ op ∈ σ.calls a, op.probes = false) :
      (σ.perform a).session.transport.channel = σ.session.transport.channel :=
    channel_run others
  cases a with
  | post => exact .inl rfl
  | connect => exact .inl (quiet (by simp [calls, Op.probes]))
  | other op apart =>
    refine .inl (quiet ?_)
    cases op <;> first | exact List.forall_mem_singleton.mpr rfl | cases apart
  | cue k c =>
    cases acted : σ.taskAct? k c with
    | none => exact .inl (by rw [perform_cue_of_none acted])
    | some done =>
      obtain ⟨ops, t'⟩ := done
      obtain ⟨t, there, acts⟩ := exists_of_taskAct? acted
      have calls_ : σ.calls (.cue k c) = ops := by simp [calls, acted]
      rw [calls_] at quiet
      cases does_of_act acts with
      | @probe tid f p _ _ _ =>
        rw [perform_cue acted]
        obtain same | ⟨_, _, r, probes, upgraded, taken⟩ := σ.session.channel_perform (.probe tid p)
        · exact .inl same
        · obtain ⟨rfl, rfl⟩ := Op.probe.inj probes
          exact .inr ⟨k, _, _, _, tid, p, r, rfl, there, acts, upgraded, getElem?_set there _, taken⟩
      | receive | read | misread | refuse | lose | quit | desert | hear | mishear | hangUp | fail |
        retire => exact .inl (quiet (by simp [Op.probes]))

end Scene

section

variable {s : Session} {tid : TransportId}

theorem Employs.isLive (h : s.Employs tid) (v : s.Valid) : s.isLive := by
  obtain ⟨live, _⟩ | ⟨p, pending, _⟩ := h
  · exact live
  · exact v.isLive_of_pending pending

-- A session does not begin again to work with a websocket.
theorem employs_of_run (v : s.Valid) {ops : List Op} (others : tid ∉ ops.filterMap Op.brings?)
    (after : (s.run ops).Employs tid) : s.Employs tid := by
  induction ops generalizing s with
  | nil => exact after
  | cons op ops ih =>
    have other : op.brings? ≠ some tid := fun brings =>
      others (List.mem_filterMap.mpr ⟨op, List.mem_cons_self, brings⟩)
    have rest : tid ∉ ops.filterMap Op.brings? := fun mem => others <| by
      obtain ⟨op', mem', brings⟩ := List.mem_filterMap.mp mem
      exact List.mem_filterMap.mpr ⟨op', List.mem_cons_of_mem _ mem', brings⟩
    have next := ih (v.perform op) rest after
    rw [employs_iff (v.perform op)] at next
    rw [employs_iff v]
    cases perform_treats v other with
    | passes _ gone => simp [gone] at next
    | goes _ before | ends _ before => simp [before]

-- Whoever is done with a websocket leaves it when the session does not work with it any more.
theorem Does.dismisses {t t' : Task} {c : Cue} {ops : List Op} (h : Does s t c ops t') (v : s.Valid)
    (working : s.isLive → s.cancelled = false) (before : t.stage.websocket? = some tid)
    (finished : t'.stage = .finished)
    (apart : ∀ r, t.stage.seeks? = some tid → s.transport.channel ≠ .websocket tid r)
    (carried : t.stage = .carrying tid → ∃ r, s.transport.channel = .websocket tid r) :
    ¬(s.run ops).Employs tid := by
  have over_ (reason : CloseReason) (carries : t.stage = .carrying tid) :
      ¬(s.transportClosed tid reason).Employs tid := fun employs => by
    obtain ⟨r, channel⟩ := carried carries
    have active : s.transport.id = tid := by rw [← Transport.id_channel, channel]; rfl
    have valid : (s.transportClosed tid reason).Valid := v.perform (.transportClosed tid reason)
    have live := employs.isLive valid
    simp [transportClosed, active] at live
  cases h with
  | receive => simp only at finished before; rw [finished] at before; cases before
  | read | misread | refuse | lose => cases before
  | hear | mishear => cases finished
  | probe decoded still =>
    obtain rfl | ⟨_, rfl⟩ | ⟨_, rfl⟩ := still <;> cases finished
  | desert cancelled =>
    intro employs
    exact absurd ((working (employs.isLive v)).symm.trans cancelled) Bool.false_ne_true
  | hangUp | fail | retire =>
    obtain rfl := Option.some.inj before
    exact over_ _ rfl
  | @quit stage _ tid' f named =>
    obtain ⟨rfl, seeks⟩ : tid' = tid ∧ stage.seeks? = some tid := by
      obtain rfl | rfl := named <;> exact ⟨Option.some.inj before, before⟩
    rintro (⟨_, t, transport, rfl⟩ | ⟨p, pending, id⟩)
    · have same : (s.run [.abortUpgrade t.id f]).transport.channel = s.transport.channel :=
        channel_run (by simp [Op.probes])
      rw [transport] at same
      exact apart t.revision seeks same.symm
    · have left : (s.abortUpgrade tid' f).pending = some p := pending
      cases found : s.pending.filter (·.transport.id = tid') with
      | none =>
        rw [abortUpgrade_of_filter_none s f found] at left
        simp [left, Option.filter, id] at found
      | some q =>
        obtain ⟨waits, same⟩ := Option.filter_eq_some_iff.mp found
        obtain ⟨_, eq⟩ := abortUpgrade_of_pending s f waits
        rw [← of_decide_eq_true same, eq] at left
        simp at left

end

namespace Scene

-- The websockets that have come so far, each with the one who works for it as long as the session
-- works with it.
structure Attended (known : List TransportId) (σ : Scene) : Prop where
  employed : ∀ tid, σ.session.Employs tid → ∃ k, σ.attends? k = some tid
  alone : ∀ k k' tid, σ.attends? k = some tid → σ.attends? k' = some tid → k' = k
  apart : ∀ k stage tid r, σ.stage? k = some stage → stage.seeks? = some tid →
    σ.session.transport.channel ≠ .websocket tid r
  known : ∀ k tid, σ.attends? k = some tid → tid ∈ known

-- A session in the midst of a run.
def Reached (o : Origin) (σ : Scene) : Prop :=
  ∃ ops, σ.session = o.session.run ops

namespace Reached

variable {o : Origin} {σ : Scene}

theorem valid (r : Reached o σ) : σ.session.Valid := by
  obtain ⟨ops, eq⟩ := r
  exact eq ▸ Session.valid_run o ops

theorem working (r : Reached o σ) (live : σ.session.isLive) : σ.session.cancelled = false := by
  obtain ⟨ops, eq⟩ := r
  rw [eq] at live ⊢
  exact cancelled_run_of_live o ops live

theorem perform (r : Reached o σ) (a : Act) : Reached o (σ.perform a) := by
  obtain ⟨ops, eq⟩ := r
  exact ⟨ops ++ σ.calls a, by rw [Session.run_append, ← eq]; rfl⟩

end Reached

namespace Attended

variable {known : List TransportId} {o : Origin} {σ : Scene} {a : Act}

-- A websocket that has just come is looked after by the one who brought it, unless it was refused.
theorem employed_connect (h : Attended known σ) {tid : TransportId} {revision : Revision}
    {writer : Peer} (employs : (σ.perform (.connect tid revision writer)).session.Employs tid) :
    ∃ k, (σ.perform (.connect tid revision writer)).attends? k = some tid := by
  cases check : σ.session.checkUpgrade with
  | error f =>
    have same : (σ.perform (.connect tid revision writer)).session =
        σ.session.handOver ({ id := tid, revision, writer } : Websocket).close.delivered := by
      show (σ.session.beginUpgrade _).2 = _
      simp only [beginUpgrade, check]
    have before : σ.session.Employs tid := by
      rw [same] at employs
      exact employs
    obtain ⟨k, attends⟩ := h.employed tid before
    refine ⟨k, (attends?_of_perform attends _).resolve_right ?_⟩
    rintro ⟨_, _, _, _, cue, _⟩
    cases cue
  | ok =>
    refine ⟨σ.tasks.length, ?_⟩
    have admitted : σ.session.checkUpgrade.isOk := by rw [check]; rfl
    have tasks : (σ.perform (.connect tid revision writer)).tasks =
        σ.tasks ++ [{ stage := .joining tid }] := if_pos admitted
    rw [attends?_of_getElem? (by rw [tasks, List.getElem?_concat_length])]
    rfl

theorem employed_perform (h : Attended known σ) (m : Manned σ) (r : Reached o σ)
    {tid : TransportId} (employs : (σ.perform a).session.Employs tid) :
    ∃ k, (σ.perform a).attends? k = some tid := by
  by_cases comes : a.brings? = some tid
  · cases a with
    | connect tid' revision writer =>
      obtain rfl := Option.some.inj comes
      exact h.employed_connect employs
    | post | cue | other => cases comes
  · have others : tid ∉ (σ.calls a).filterMap Op.brings? := by
      rw [brings?_calls]
      exact fun mem => comes (Option.mem_toList.mp mem)
    obtain ⟨k, attends⟩ := h.employed tid (employs_of_run r.valid others employs)
    refine ⟨k, (attends?_of_perform attends a).resolve_right ?_⟩
    rintro ⟨c, ops, t, t', rfl, does, websocket, finished, there, session⟩
    rw [session] at employs
    refine does.dismisses r.valid r.working websocket finished ?_ ?_ employs
    · exact fun r seeks => h.apart k t.stage tid r there seeks
    · exact fun carries => m.carried k tid (there.trans (congrArg some carries))

theorem alone_perform (h : Attended known σ) (fresh : ∀ tid, a.brings? = some tid → tid ∉ known)
    {k k' : Nat} {tid : TransportId} (attends : (σ.perform a).attends? k = some tid)
    (attends' : (σ.perform a).attends? k' = some tid) : k' = k := by
  obtain before | ⟨comes, last⟩ := attends?_perform attends <;>
    obtain before' | ⟨comes', last'⟩ := attends?_perform attends'
  · exact h.alone k k' tid before before'
  · exact absurd (h.known k tid before) (fresh tid comes')
  · exact absurd (h.known k' tid before') (fresh tid comes)
  · exact last'.trans last.symm

theorem apart_perform (h : Attended known σ) (fresh : ∀ tid, a.brings? = some tid → tid ∉ known)
    {k : Nat} {stage : Stage} {tid : TransportId} {r : Revision}
    (there : (σ.perform a).stage? k = some stage) (seeks : stage.seeks? = some tid) :
    (σ.perform a).session.transport.channel ≠ .websocket tid r := by
  intro active
  obtain ⟨t, task, rfl⟩ := Option.map_eq_some_iff.mp there
  have attends : (σ.perform a).attends? k = some tid :=
    (attends?_of_getElem? task).trans (Stage.websocket?_of_seeks? seeks)
  obtain same | ⟨k', c, t₀, t', tid', p, r', rfl, there₀, acts, upgraded, after, taken⟩ :=
    σ.channel_perform a
  · rw [same] at active
    have before (t₀ : Task) (there₀ : σ.tasks[k]? = some t₀) :
        t₀.stage.seeks? ≠ some tid := fun seeks =>
      h.apart k t₀.stage tid r (by simp [stage?, there₀]) seeks active
    obtain old | ⟨_, _, t₀, _, there₀, acts, _⟩ | rfl | ⟨_, _, _, _, admitted, _, rfl⟩ :=
      getElem?_perform task
    · exact before t old seeks
    · exact before t₀ there₀ ((does_of_act acts).seeks? seeks)
    · cases seeks
    · have polling : σ.session.transport.kind = .polling := by
        cases check : σ.session.checkUpgrade with
        | error f => simp [check, Except.isOk, Except.toBool] at admitted
        | ok => exact (Valid.checkUpgrade_eq_ok_iff.mp check).2.2
      rw [← Transport.kind_channel, active] at polling
      cases polling
  · obtain ⟨rfl, _⟩ := Channel.websocket.inj (taken.symm.trans active)
    obtain ⟨_, carries⟩ := Does.carries acts upgraded
    have attends' : (σ.perform (.cue k' c)).attends? k' = some tid' := by
      rw [attends?_of_getElem? after, carries]
      rfl
    obtain rfl := h.alone_perform fresh attends attends'
    obtain rfl := Option.some.inj (task.symm.trans after)
    rw [carries] at seeks
    cases seeks

theorem perform (h : Attended known σ) (m : Manned σ) (r : Reached o σ) (a : Act)
    (fresh : ∀ tid, a.brings? = some tid → tid ∉ known) :
    Attended (known ++ a.brings?.toList) (σ.perform a) where
  employed _ employs := h.employed_perform m r employs
  alone _ _ _ attends attends' := h.alone_perform fresh attends attends'
  apart _ _ _ _ there seeks := h.apart_perform fresh there seeks
  known k tid attends := by
    obtain before | ⟨comes, _⟩ := attends?_perform attends
    · exact List.mem_append_left _ (h.known k tid before)
    · exact List.mem_append_right _ (Option.mem_toList.mpr comes)

-- Along a run in which no two websockets have one name. Whoever works for a websocket that was there
-- before worked for it then.
theorem run (h : Attended known σ) (m : Manned σ) (r : Reached o σ) {acts : List Act}
    (distinct : (known ++ (σ.ops acts).filterMap Op.brings?).Nodup) :
    Attended (known ++ (σ.ops acts).filterMap Op.brings?) (σ.run acts) ∧
      ∀ k tid, (σ.run acts).attends? k = some tid → tid ∈ known → σ.attends? k = some tid := by
  induction acts generalizing known σ with
  | nil => exact ⟨by simpa [ops] using h, fun k tid attends _ => attends⟩
  | cons a acts ih =>
    rw [ops, List.filterMap_append, brings?_calls, ← List.append_assoc] at distinct ⊢
    have first : (known ++ a.brings?.toList).Nodup := (List.nodup_append.mp distinct).1
    have fresh : ∀ tid, a.brings? = some tid → tid ∉ known := fun tid comes old =>
      (List.nodup_append.mp first).2.2 tid old tid (Option.mem_toList.mpr comes) rfl
    obtain ⟨after, back⟩ :=
      ih (h.perform m r a fresh) (m.perform r.valid a) (r.perform a) distinct
    refine ⟨after, fun k tid attends old => ?_⟩
    obtain before | ⟨comes, _⟩ :=
      attends?_perform (back k tid attends (List.mem_append_left _ old))
    · exact before
    · exact absurd old (fresh tid comes)

end Attended

end Scene

theorem Origin.reached_scene (o : Origin) : Scene.Reached o o.scene :=
  ⟨[], rfl⟩

theorem Origin.attends?_scene {o : Origin} {k : Nat} {tid : TransportId}
    (attends : o.scene.attends? k = some tid) : k = 0 ∧ tid = o.tid := by
  obtain ⟨stage, there, websocket⟩ := Option.bind_eq_some_iff.mp attends
  obtain ⟨first, rfl, _⟩ := o.stage?_scene there
  exact ⟨first, (Option.some.inj websocket).symm⟩

theorem Origin.attended (o : Origin) : Scene.Attended [o.tid] o.scene where
  employed tid employs := by
    have channel : o.session.transport.channel = o.transport.channel := o.channel_session
    obtain ⟨_, t, transport, id⟩ | ⟨p, pending, _⟩ := employs
    · have transport : o.session.transport = .websocket t := transport
      rw [transport, Origin.transport] at channel
      cases opened : o.writer? with
      | none =>
        rw [opened] at channel
        cases channel
      | some writer =>
        rw [opened] at channel
        obtain ⟨same, _⟩ := Channel.websocket.inj channel
        refine ⟨0, ?_⟩
        rw [← id, same]
        simp [Scene.attends?, Scene.stage?, scene, opened, Stage.websocket?]
    · cases o.pending_session.symm.trans pending
  alone k k' tid attends attends' :=
    (o.attends?_scene attends').1.trans (o.attends?_scene attends).1.symm
  apart k stage tid r there seeks := by
    obtain ⟨_, rfl, _⟩ := o.stage?_scene there
    cases seeks
  known k tid attends := by simp [(o.attends?_scene attends).2]

theorem Scene.ops_append (σ : Scene) (acts more : List Act) :
    σ.ops (acts ++ more) = σ.ops acts ++ (σ.run acts).ops more := by
  induction acts generalizing σ with
  | nil => rfl
  | cons a acts ih =>
    rw [List.cons_append, ops, ih, ops, List.append_assoc]
    rfl

-- Whoever worked for a websocket and is done was handed it, and leaves it when the session does not
-- work with it any more.
theorem Origin.dismissed {o : Origin} {early late : List Act} {k : Nat} {tid : TransportId}
    (distinct : o.Distinct (o.scene.ops (early ++ late)))
    (attends : (o.scene.run early).attends? k = some tid)
    (done : (o.scene.run (early ++ late)).stage? k = some .finished) :
    tid ∈ o.handed (o.scene.ops (early ++ late)) ∧
      ¬(o.scene.run (early ++ late)).session.Employs tid := by
  have all : ([o.tid] ++ (o.scene.ops (early ++ late)).filterMap Op.brings?).Nodup := distinct
  rw [Scene.ops_append, List.filterMap_append, ← List.append_assoc] at all
  obtain ⟨before, first⟩ :=
    o.attended.run o.manned o.reached_scene (List.nodup_append.mp all).1
  have reached : Scene.Reached o (o.scene.run early) := ⟨_, Scene.session_run ..⟩
  obtain ⟨after, back⟩ := before.run (o.manned.run o.valid early) reached all
  rw [Scene.run_append] at done ⊢
  refine ⟨?_, fun employs => ?_⟩
  · obtain opened | comes := List.mem_append.mp (before.known k tid attends)
    · obtain rfl := List.mem_singleton.mp opened
      obtain ⟨stage, there, _⟩ := Option.bind_eq_some_iff.mp (first k o.tid attends opened)
      obtain ⟨writer, writes⟩ := Option.isSome_iff_exists.mp (o.stage?_scene there).2.2
      exact List.mem_append_left _ (by simp [writes])
    · rw [handed, Scene.ops_append, List.filterMap_append]
      exact List.mem_append_right _ (List.mem_append_left _ comes)
  · obtain ⟨k', attends'⟩ := after.employed tid employs
    obtain rfl :=
      before.alone k k' tid attends (back k' tid attends' (before.known k tid attends))
    simp [Scene.attends?, done, Stage.websocket?] at attends'

-- Whatever is done to a session, the writer of every websocket that it was ever handed is given
-- frames, then at most once that nothing follows, and nothing after that. If the writer does not go
-- away, it is told so exactly when the websocket neither carries the session while it lives nor asks
-- to join it. So whoever has worked for a websocket and is done can wait for its writer to end.
theorem commands_run (o : Origin) :
    (∀ ops, o.Distinct ops → ∀ tid ∈ o.handed ops,
      let s := o.session.run ops
      (∃ fs : List Frame, s.commandsOn tid = fs.map (.frame tid) ∨
        s.commandsOn tid = fs.map (.frame tid) ++ [.hangUp tid]) ∧
      (o.WriterStays ops tid → (.hangUp tid ∈ s.dispatched ↔ ¬s.Employs tid))) ∧
    ∀ early late k tid,
      let ops := o.scene.ops (early ++ late)
      let σ := o.scene.run (early ++ late)
      o.Distinct ops → o.WriterStays ops tid → (o.scene.run early).attends? k = some tid →
        σ.stage? k = some .finished → .hangUp tid ∈ σ.session.dispatched := by
  refine ⟨?_, ?_⟩
  · intro ops distinct tid handed s
    obtain ⟨stays, here, commanded⟩ := Origin.commanded_run distinct handed
    exact ⟨commanded.exists_frames,
      fun stays => commanded.hangUp_mem_iff (valid_run o ops) (here stays)⟩
  · intro early late k tid ops σ distinct stays attends done
    obtain ⟨handed, dismissed⟩ := Origin.dismissed distinct attends done
    obtain ⟨_, here, commanded⟩ := Origin.commanded_run distinct handed
    have session : σ.session = o.session.run ops := Scene.session_run ..
    rw [session]
    exact (commanded.hangUp_mem_iff (valid_run o ops) (here stays)).mpr (session ▸ dismissed)

-- A websocket asks to join, and its client goes away before it is probed.
theorem commands_run_cut :
    let o := Origin.plain
    let ops : List Op := [.beginUpgrade 1 .v4 .present]
    let acts : List Act := [.connect 1 .v4 .present, .cue 0 (.message .close)]
    (.hangUp 1 ∈ (o.session.run ops).dispatched ↔ ¬(o.session.run ops).Employs 1) ∧
      .hangUp 1 ∈ (o.scene.run acts).session.dispatched := by
  intro o ops acts
  have distinct : ([0, 1] : List Nat).Nodup := by decide
  obtain ⟨told, leaves⟩ := commands_run o
  refine ⟨(told ops distinct 1 (by decide)).2 ⟨nofun, by decide⟩, ?_⟩
  exact leaves [.connect 1 .v4 .present] [.cue 0 (.message .close)] 0 1 distinct
    ⟨nofun, by decide⟩ (by decide) (by decide)

end Duplex.Session
