import Duplex.Proofs.Session.Blind

-- An upgrade that fails leaves no trace. A session that a websocket asked to join goes on as one that
-- nobody asked to join, but for what the websocket itself is told.

namespace Duplex.Session

section

variable {tid : TransportId} {s t : Session}

theorem Alone.perform (alone : s.Alone tid) {op : Op} (spares : op.joining? = none) :
    (s.perform op).Alone tid := fun p' pending' => by
  have changes := perform_changes s op
  rw [spares] at changes
  obtain ⟨p, pending, id, _⟩ | new := changes.pending pending'
  · rw [id, alone p pending]
  · simp at new

theorem Prompt.flush (waits : s.Prompt) : s.flush = s := by
  by_cases ne : s.buffer = []
  · exact flush_of_buffer_nil ne
  · exact flush_of_not_writable (waits ne)

theorem Alone.run (alone : s.Alone tid) {ops : List Op} (spares : ∀ op ∈ ops, op.spares tid) :
    (s.run ops).Alone tid := by
  induction ops generalizing s with
  | nil => exact alone
  | cons op ops ih =>
    have ⟨now, later⟩ := List.forall_mem_cons.mp spares
    exact ih (alone.perform (Op.joining?_of_spares now)) later

theorem Alone.answerProbe (alone : s.Alone tid) {p : Pending} (waits : s.pending = some p) :
    (s.answerProbe p).Alone tid := fun q answered => by
  rw [← Option.some.inj answered]
  exact (p.transport.id_send _).trans (alone p waits)

theorem unjoined_answerProbe {p : Pending} (joins : p.transport.id = tid) :
    (s.answerProbe p).unjoined tid = s.unjoined tid := by
  have all : ∀ d ∈ p.answer.delivered, d.websocket? = some tid :=
    joins ▸ p.transport.websocket?_send [.probeAnswer]
  exact unjoined_handOver tid
    { s with pending := some { transport := p.answer.transport, probed := true } } all

-- What is done to a session that nobody asks to join, where something is done to one that a websocket
-- asked to join: an answered probe only releases the poll that waits, and any other probe is nothing.
def shadow (s t : Session) : Op → Session
  | .probe tid p =>
    match (s.probe tid p).1 with
    | .ok .probed => t.releasePoll
    | .ok .upgraded | .error _ => t
  | op => t.perform op

theorem shadow_of_ne {op : Op} (h : ∀ tid p, op ≠ .probe tid p) : s.shadow t op = t.perform op := by
  cases op with
  | probe tid p => exact absurd rfl (h tid p)
  | _ => rfl

theorem unjoined_probe (alone : s.Alone tid) (tid' : TransportId) (p : Packet)
    (polling : (s.probe tid' p).2.transport.kind = .polling) :
    (s.probe tid' p).2.unjoined tid = (s.shadow s (.probe tid' p)).unjoined tid := by
  simp only [shadow, probe] at polling ⊢
  cases found : s.pending.filter (·.transport.id = tid') with
  | none => rfl
  | some pending =>
    obtain ⟨waits, _⟩ := Option.filter_eq_some_iff.mp found
    have answered : (s.answerProbe pending).unjoined tid = s.unjoined tid :=
      unjoined_answerProbe (alone pending waits)
    simp only [found] at polling ⊢
    split
    · split
      · exact answered
      · exact (Blind.releasePoll tid).congr (Alone.answerProbe alone waits) alone answered
    · next unprobed =>
      simp only [unprobed, ↓reduceIte] at polling
      split
      · next upgrade =>
        simp only [upgrade, and_self, ↓reduceIte] at polling
        rw [← Transport.kind_channel, channel_completeUpgrade] at polling
        cases polling
      · rfl

-- Nobody asks to join.
structure Unasked (s : Session) : Prop where
  valid : s.Valid
  pending : s.pending = none

namespace Unasked

theorem alone (h : s.Unasked) (tid : TransportId) : s.Alone tid := fun _ asked =>
  absurd (h.pending.symm.trans asked) nofun

theorem perform (h : s.Unasked) {op : Op} (spares : op.joining? = none) : (s.perform op).Unasked := by
  have changes := perform_changes s op
  refine ⟨h.valid.perform op, Option.eq_none_iff_forall_ne_some.mpr ?_⟩
  intro p' pending'
  rw [spares] at changes
  obtain ⟨p, pending, _⟩ | new := changes.pending pending'
  · exact absurd (h.pending.symm.trans pending) nofun
  · simp at new

theorem shadow (h : t.Unasked) (s : Session) {op : Op} (spares : op.joining? = none) :
    (s.shadow t op).Unasked := by
  by_cases probes : ∃ tid' p, op = .probe tid' p
  · have ⟨tid', p, eq⟩ := probes
    subst eq
    simp only [Session.shadow]
    split
    · exact ⟨h.valid.releasePoll, h.pending⟩
    · exact h
    · exact h
  · rw [shadow_of_ne fun tid' p eq => probes ⟨tid', p, eq⟩]
    exact h.perform spares

-- A session that nobody asks to join is as if nobody had asked to join it.
theorem unjoined_eq (h : s.Unasked) (tid : TransportId) :
    s.unjoined tid = { s with dispatched := besides tid s.dispatched, signals := [] } := by
  have calm : s.state ≠ .upgrading := fun upgrading => by
    have asked := h.valid.upgrading_iff.mp upgrading
    simp [h.pending] at asked
  simp only [unjoined, ReadyState.calm_of_ne calm, h.pending]

-- Two such sessions then only differ in what they tell, and what that websocket was told.
theorem eq_of_unjoined (h : s.Unasked) (h' : t.Unasked) (same : s.unjoined tid = t.unjoined tid) :
    ∃ dispatched signals, s = { t with dispatched, signals } ∧
      besides tid dispatched = besides tid t.dispatched := by
  rw [h.unjoined_eq, h'.unjoined_eq] at same
  exact ⟨s.dispatched, s.signals,
    congrArg (fun t : Session => { t with dispatched := s.dispatched, signals := s.signals }) same,
    congrArg dispatched same⟩

end Unasked

-- One operation and its shadow.
theorem unjoined_shadow {op : Op} (alone : s.Alone tid) (unasked : t.Unasked)
    (spares : op.spares tid) (same : s.unjoined tid = t.unjoined tid)
    (polling : (s.perform op).transport.kind = .polling) :
    (s.perform op).unjoined tid = (s.shadow t op).unjoined tid := by
  have alone' := unasked.alone tid
  by_cases probes : ∃ tid' p, op = .probe tid' p
  · have ⟨tid', p, eq⟩ := probes
    subst eq
    rw [perform, unjoined_probe alone tid' p polling]
    simp only [shadow]
    split
    · exact (Blind.releasePoll tid).congr alone alone' same
    · exact same
    · exact same
  · have unprobed : ∀ tid' p, op ≠ .probe tid' p := fun tid' p eq => probes ⟨tid', p, eq⟩
    rw [shadow_of_ne unprobed]
    exact (perform_blind spares unprobed).congr alone alone' same

end

-- What a caller gets back.
inductive Reply where
  | sent (outcome : Except Fault Unit)
  | registered (outcome : Except Fault PollId)
  | answered (packets : List Packet)

def Op.reply? (s : Session) : Op → Option Reply
  | send p => some (.sent ((s.send p).map fun _ => ()))
  | registerPoll => some (.registered (s.registerPoll.map (·.1)))
  | expirePoll poll => some (.answered (s.expirePoll poll).1)
  | _ => none

-- All replies of a run.
def replies (s : Session) : List Op → List Reply
  | [] => []
  | op :: ops => (op.reply? s).toList ++ (s.perform op).replies ops

-- A run of shadows, and the replies in it.

def runShadow (s t : Session) : List Op → Session
  | [] => t
  | op :: ops => (s.perform op).runShadow (s.shadow t op) ops

def repliesShadow (s t : Session) : List Op → List Reply
  | [] => []
  | op :: ops => (op.reply? t).toList ++ (s.perform op).repliesShadow (s.shadow t op) ops

section

variable {tid : TransportId} {s t : Session}

-- Websockets answer no polls.
theorem findSome?_besides (poll : PollId) (ds : List Delivery) :
    (besides tid ds).findSome? (answerIn? poll) = ds.findSome? (answerIn? poll) := by
  rw [← List.head?_filterMap, ← List.head?_filterMap, besides, List.filterMap_filter]
  refine congrArg (fun f => (ds.filterMap f).head?) (funext fun d => ?_)
  cases d with
  | answer => rfl
  | frame | hangUp => simp [answerIn?]

theorem answer?_unjoined (tid : TransportId) (s : Session) (poll : PollId) :
    (s.unjoined tid).answer? poll = s.answer? poll :=
  findSome?_besides poll s.dispatched

theorem reply?_unjoined (tid : TransportId) (s : Session) (op : Op) :
    op.reply? (s.unjoined tid) = op.reply? s := by
  cases op with
  | send p =>
    have h := congrArg (Except.map fun _ => ()) (unjoined_send tid s p)
    simp only [Op.reply?]
    cases sent : s.send p <;> cases sent' : (s.unjoined tid).send p <;> simp_all [Except.map]
  | registerPoll =>
    have h := congrArg (Except.map Prod.fst) (unjoined_registerPoll tid s)
    simp only [Op.reply?]
    cases registered : s.registerPoll <;> cases registered' : (s.unjoined tid).registerPoll <;>
      simp_all [Except.map]
  | expirePoll poll =>
    have released := (s.unjoined_withTransport tid s.transport.release).symm
    have same : (s.unjoined tid).releasePoll.answer? poll = s.releasePoll.answer? poll := by
      rw [← answer?_unjoined tid, ← answer?_unjoined tid s.releasePoll]
      exact congrArg (answer? · poll) released
    exact congrArg (fun a : Option (List Packet) => some (Reply.answered (a.getD [.noop]))) same
  | _ => rfl

-- A whole run and its shadow, as long as polling goes on.
theorem unjoined_runShadow {ops : List Op} (alone : s.Alone tid) (unasked : t.Unasked)
    (spares : ∀ op ∈ ops, op.spares tid) (same : s.unjoined tid = t.unjoined tid)
    (polling : (s.run ops).transport.kind = .polling) :
    (s.run ops).unjoined tid = (s.runShadow t ops).unjoined tid ∧ (s.runShadow t ops).Unasked ∧
      s.replies ops = s.repliesShadow t ops := by
  induction ops generalizing s t with
  | nil => exact ⟨same, unasked, rfl⟩
  | cons op ops ih =>
    have spared := spares op List.mem_cons_self
    have joins := Op.joining?_of_spares spared
    have polls : (s.perform op).transport.kind = .polling := by
      cases kind : (s.perform op).transport.kind with
      | polling => rfl
      | websocket =>
        have carried := (run_changes _ ops).induction kind Change.websocket
        exact absurd (polling.symm.trans carried) nofun
    have next := unjoined_shadow alone unasked spared same polls
    have ⟨rest, unasked, replies⟩ := ih (alone.perform joins) (unasked.shadow s joins)
      (fun op' mem => spares op' (List.mem_cons_of_mem _ mem)) next polling
    have reply : op.reply? s = op.reply? t := by
      rw [← reply?_unjoined tid s, same, reply?_unjoined]
    exact ⟨rest, unasked, by simp only [Session.replies, repliesShadow, reply, replies]⟩

theorem unasked_of_checkUpgrade (v : s.Valid) (admitted : s.checkUpgrade = .ok ()) : s.Unasked := by
  have ⟨_, established, _⟩ := Valid.checkUpgrade_eq_ok_iff.mp admitted
  refine ⟨v, Option.not_isSome_iff_eq_none.mp fun asked => ?_⟩
  exact absurd (established.symm.trans (v.upgrading_iff.mpr asked)) nofun

theorem beginUpgrade_unjoined (tid : TransportId) (admitted : s.checkUpgrade = .ok ())
    (revision : Revision) (writer : Peer) :
    (s.perform (.beginUpgrade tid revision writer)).Alone tid ∧
      (s.perform (.beginUpgrade tid revision writer)).unjoined tid = s.unjoined tid := by
  have ⟨_, established, _⟩ := Valid.checkUpgrade_eq_ok_iff.mp admitted
  simp only [perform, beginUpgrade, admitted]
  refine ⟨fun p waits => ?_, ?_⟩
  · rw [pending_enter] at waits
    rw [← Option.some.inj waits]
  · rw [unjoined_enter]
    simp only [unjoined, established]
    rfl

theorem unjoined_stay (alone : s.Alone tid) : s.stay.unjoined tid = s.unjoined tid := by
  have dropped := unjoined_dropPending alone
  simp only [stay]
  split
  · next upgrading =>
    rw [unjoined_enter, dropped]
    simp [unjoined, upgrading, ReadyState.calm]
  · exact dropped

-- The end of an upgrade leaves everything as it is. No packet has waited for it.
theorem abortUpgrade_unjoined (sound : s.Sound) (alone : s.Alone tid) (f : Fault) :
    (s.abortUpgrade tid f).Unasked ∧ (s.abortUpgrade tid f).unjoined tid = s.unjoined tid := by
  cases pending : s.pending with
  | none =>
    have unfound : s.pending.filter (·.transport.id = tid) = none := by simp [pending]
    rw [abortUpgrade_of_filter_none s f unfound]
    exact ⟨⟨sound.valid, pending⟩, rfl⟩
  | some p =>
    have id := alone p pending
    subst id
    have valid := sound.valid.abortUpgrade f pending
    have waits : s.stay.Prompt := by
      simpa only [Prompt, buffer_stay, transport_stay] using sound.prompt
    have ⟨_, eq⟩ := abortUpgrade_of_pending s f pending
    rw [waits.flush] at eq
    refine ⟨⟨valid, ?_⟩, ?_⟩
    · rw [eq]
      exact s.pending_stay
    · rw [eq]
      exact unjoined_stay alone

end

-- A websocket that asked to join polling and did not manage to leaves no trace. In the same run, but
-- for the upgrade, and with a poll released where a probe was answered, callers get the same replies,
-- and the session is the same at the end, but for what it tells and what that websocket was told.
theorem run_hides_failed_upgrade (o : Origin) (before ops : List Op) (last : Op)
    (tid : TransportId) (revision : Revision) (writer : Peer)
    (admitted : (o.session.run before).checkUpgrade = .ok ()) (fresh : tid ≠ o.tid)
    (spares : ∀ op ∈ ops, op.spares tid)
    (polling : ((o.session.run before).run
      (.beginUpgrade tid revision writer :: ops)).transport.kind = .polling)
    (ends : (∃ f, last = .abortUpgrade tid f) ∨ ∃ reason, last = .transportClosed tid reason) :
    let plain := o.session.run before
    let joined := plain.perform (.beginUpgrade tid revision writer)
    joined.replies ops = joined.repliesShadow plain ops ∧
      ∃ dispatched signals,
        (joined.run ops).perform last = { joined.runShadow plain ops with dispatched, signals } ∧
          besides tid dispatched = besides tid (joined.runShadow plain ops).dispatched := by
  intro plain joined
  have unasked : plain.Unasked := unasked_of_checkUpgrade (valid_run o before) admitted
  have ⟨alone, same⟩ := beginUpgrade_unjoined tid admitted revision writer
  have ⟨shadowed, unasked, replies⟩ := unjoined_runShadow alone unasked spares same polling
  have run : joined.run ops =
      o.session.run (before ++ .beginUpgrade tid revision writer :: ops) := by
    rw [run_append]
    rfl
  have sound : (joined.run ops).Sound := run ▸ sound_run o _
  have other : (joined.run ops).transport.id ≠ tid := by
    have polls : (o.session.run
        (before ++ .beginUpgrade tid revision writer :: ops)).transport.kind = .polling :=
      run ▸ polling
    rw [run, id_of_polling polls]
    exact fresh.symm
  have aborts : ∃ f, (joined.run ops).perform last = (joined.run ops).abortUpgrade tid f := by
    obtain ⟨f, rfl⟩ | ⟨reason, rfl⟩ := ends
    · exact ⟨f, rfl⟩
    · exact ⟨_, if_neg other⟩
  have ⟨f, aborted⟩ := aborts
  have ⟨unasked', unseen⟩ := abortUpgrade_unjoined sound (alone.run spares) f
  rw [aborted]
  exact ⟨replies, unasked'.eq_of_unjoined unasked (unseen.trans shadowed)⟩

-- The websocket was probed, which released a poll, and then it did not take over in time. Messages
-- came and went meanwhile.
theorem run_hides_failed_upgrade_probed :
    let ops : List Op :=
      [.probe 1 { kind := .ping, data := some (.text "probe") }, .registerPoll,
        .receive (.message (.text "a")) 5, .send (.message (.text "b")), .registerPoll,
        .expirePoll 3]
    let plain := Origin.plain.session.run [.registerPoll, .registerPoll]
    let joined := plain.perform (.beginUpgrade 1 .v4 .present)
    let failed := (joined.run ops).perform (.abortUpgrade 1 (.upgradeTimeout 10000))
    joined.replies ops = joined.repliesShadow plain ops ∧
      ∃ dispatched signals, failed = { joined.runShadow plain ops with dispatched, signals } ∧
        besides 1 dispatched = besides 1 (joined.runShadow plain ops).dispatched :=
  run_hides_failed_upgrade _ _ _ _ _ _ _ rfl (by decide) (by decide) (by decide)
    (.inl ⟨_, rfl⟩)

end Duplex.Session
