import Duplex.Proofs.Session.Answers

-- Every poll gets one answer. As long as its client stays, a poll waits or was answered, so a client
-- that asks for its answer once the time is up finds one.

namespace Duplex

theorem Peer.isThere_of_take? {p : Peer} (h : p.take?.isSome) : p.isThere := by
  cases p with
  | gone => exact absurd h nofun
  | _ => rfl

namespace Session

-- An operation after which the client of a poll would still take an answer.
def Op.keeps (poll : PollId) : Op → Bool
  | setPollClient poll' client => poll' ≠ poll || client.take?.isSome
  | _ => true

-- The client of a poll stays until it has its answer.
def Held (poll : PollId) (ops : List Op) : Prop :=
  ∀ op ∈ ops, op.keeps poll

instance (poll : PollId) (ops : List Op) : Decidable (Held poll ops) :=
  inferInstanceAs (Decidable (∀ op ∈ ops, op.keeps poll))

-- No poll was answered twice, and one whose client stays is not forgotten.
structure Served (held : PollId → Prop) (s : Session) : Prop where
  parked : ∀ q, s.transport.parked? = some q →
    q.poll < s.polls ∧ s.answersTo q.poll = [] ∧ (held q.poll → q.client.take?.isSome)
  fresh : ∀ poll, s.polls ≤ poll → s.answersTo poll = []
  once : ∀ poll, (s.answersTo poll).length ≤ 1
  served : ∀ poll, poll < s.polls → held poll → s.Waits poll ∨ s.answersTo poll ≠ []

section

variable {s s' : Session}

theorem answersTo_of_answers (h : s'.answers = s.answers) : s'.answersTo = s.answersTo := by
  funext poll
  simp only [answersTo, h]

theorem answersTo_append {new : List (PollId × List Packet)} (h : s'.answers = s.answers ++ new)
    (poll : PollId) :
    s'.answersTo poll =
      s.answersTo poll ++ new.filterMap fun a => if a.1 = poll then some a.2 else none := by
  simp only [answersTo, h, List.filterMap_append]

theorem mem_answersTo {poll : PollId} {packets : List Packet} :
    packets ∈ s.answersTo poll ↔ (poll, packets) ∈ s.answers := by
  simp only [answersTo, List.mem_filterMap, Option.ite_none_right_eq_some, Option.some.injEq]
  constructor
  · rintro ⟨a, mem, asked, eq⟩
    exact asked ▸ eq ▸ mem
  · intro mem
    exact ⟨_, mem, rfl, rfl⟩

theorem Answers.ne_nil {op : Op} {poll : PollId} {packets : List Packet}
    (h : Answers s op poll packets) : packets ≠ [] := by
  cases h with
  | batch _ some_ _ => exact some_
  | noop | close => exact nofun

-- What an operation answers, it answers in one of three ways.
theorem Serves.mem_answers {op : Op} (h : Serves s op s') {a : PollId × List Packet}
    (mem : a ∈ s'.answers) : a ∈ s.answers ∨ Answers s op a.1 a.2 := by
  cases h with
  | rests _ _ answers | hears _ _ _ _ _ answers | registers _ _ _ answers => exact .inl (answers ▸ mem)
  | meets _ _ _ answers content =>
    rw [answers, List.mem_append, List.mem_singleton] at mem
    apply mem.imp_right
    intro last
    rw [last]
    exact content
  | empties packets _ _ answers content _ =>
    rw [answers, List.mem_append] at mem
    exact mem.imp_right (content a)

theorem waits_of_parked? (h : s'.transport.parked? = s.transport.parked?) :
    s'.Waits = s.Waits := by
  funext poll
  simp only [Waits, h]

end

namespace Served

variable {held : PollId → Prop} {s s' : Session}

-- A poll that makes place for the next one has no client any more.
theorem not_held_of_free (h : s.Served held)
    (free : ∀ q, s.transport.parked? = some q → q.client.isThere = false) {poll : PollId}
    (waits : s.Waits poll) : ¬held poll := fun stays => by
  have ⟨client, parked⟩ := waits
  have there := Peer.isThere_of_take? ((h.parked _ parked).2.2 stays)
  exact absurd ((free _ parked).symm.trans there) nofun

theorem rests (h : s.Served held) (parked : s'.transport.parked? = s.transport.parked?)
    (polls : s'.polls = s.polls) (answers : s'.answers = s.answers) : s'.Served held := by
  have same := answersTo_of_answers answers
  have waits := waits_of_parked? parked
  exact ⟨by rw [parked, polls, same]; exact h.parked, by rw [polls, same]; exact h.fresh,
    by rw [same]; exact h.once, by rw [polls, same, waits]; exact h.served⟩

theorem hears (h : s.Served held) {poll : PollId} {client : Peer}
    (keeps : held poll → client.take?.isSome)
    (parked : s'.transport.parked? = s.transport.parked?.map fun q =>
      if q.poll = poll then { q with client := q.client.become client } else q)
    (polls : s'.polls = s.polls) (answers : s'.answers = s.answers) : s'.Served held := by
  have same := answersTo_of_answers answers
  refine ⟨fun q' parked' => ?_, by rw [polls, same]; exact h.fresh, by rw [same]; exact h.once,
    fun poll' registered stays => ?_⟩
  · rw [parked] at parked'
    have ⟨q, waited, eq⟩ := Option.map_eq_some_iff.mp parked'
    have ⟨registered, unanswered, takes⟩ := h.parked q waited
    rw [polls, same, ← eq]
    split
    · next told =>
      refine ⟨registered, unanswered, fun stays => ?_⟩
      have there := Peer.isThere_of_take? (takes stays)
      simpa [Peer.become, there] using keeps (told ▸ stays)
    · exact ⟨registered, unanswered, takes⟩
  · rw [same]
    apply (h.served poll' (polls ▸ registered) stays).imp_left
    intro ⟨client', waited⟩
    by_cases told : poll' = poll
    · exact ⟨client'.become client, by simp [parked, waited, told]⟩
    · exact ⟨client', by simp [parked, waited, told]⟩

theorem registers (h : s.Served held)
    (free : ∀ q, s.transport.parked? = some q → q.client.isThere = false)
    (parked : s'.transport.parked? = some { poll := s.polls }) (polls : s'.polls = s.polls + 1)
    (answers : s'.answers = s.answers) : s'.Served held := by
  have same := answersTo_of_answers answers
  refine ⟨fun q waits => ?_, fun poll later => ?_, by rw [same]; exact h.once,
    fun poll registered stays => ?_⟩
  · rw [parked] at waits
    rw [← Option.some.inj waits, polls, same]
    exact ⟨Nat.lt_succ_self _, h.fresh _ (Nat.le_refl _), fun _ => rfl⟩
  · rw [same]
    exact h.fresh poll (by omega)
  · by_cases last : poll = s.polls
    · exact .inl ⟨.present, last ▸ parked⟩
    · rw [same]
      refine .inr ((h.served poll (by omega) stays).resolve_left fun waits => ?_)
      exact h.not_held_of_free free waits stays

theorem meets (h : s.Served held) {packets : List Packet}
    (free : ∀ q, s.transport.parked? = some q → q.client.isThere = false)
    (parked : s'.transport.parked? = none) (polls : s'.polls = s.polls + 1)
    (answers : s'.answers = s.answers ++ [(s.polls, packets)]) : s'.Served held := by
  have added := answersTo_append answers
  refine ⟨by simp [parked], fun poll later => ?_, fun poll => ?_, fun poll registered stays => ?_⟩
  · have other : s.polls ≠ poll := by omega
    simp [added, other, h.fresh poll (by omega)]
  · by_cases last : s.polls = poll
    · simp [added, last, h.fresh poll (Nat.le_of_eq last)]
    · simpa [added, last] using h.once poll
  · by_cases last : s.polls = poll
    · simp [added, last]
    · apply Or.inr
      simpa [added, last] using (h.served poll (by omega) stays).resolve_left fun waits =>
        h.not_held_of_free free waits stays

theorem empties (h : s.Served held) {packets : List Packet} (parked : s'.transport.parked? = none)
    (polls : s'.polls = s.polls)
    (answers : s'.answers = s.answers ++ s.transport.answersWith packets) : s'.Served held := by
  have added := answersTo_append answers
  cases waited : s.transport.parked? with
  | none =>
    rw [Transport.answersWith_of_parked_none packets waited, List.append_nil] at answers
    exact h.rests (parked.trans waited.symm) polls answers
  | some q =>
    obtain ⟨registered, unanswered, takes⟩ := h.parked q waited
    simp only [Transport.answersWith, waited] at added
    refine ⟨by simp [parked], fun poll later => ?_, fun poll => ?_, fun poll registered stays => ?_⟩
    · have other : q.poll ≠ poll := Nat.ne_of_lt (Nat.lt_of_lt_of_le registered (polls ▸ later))
      rw [added, h.fresh poll (polls ▸ later)]
      split <;> simp [other]
    · by_cases asked : q.poll = poll
      · rw [added, ← asked, unanswered]
        split <;> simp
      · rw [added]
        split <;> simpa [asked] using h.once poll
    · apply Or.inr
      by_cases asked : q.poll = poll
      · subst asked
        simp [added, takes stays]
      · have answered : s.answersTo poll ≠ [] :=
          (h.served poll (polls ▸ registered) stays).resolve_left fun waits => by
            obtain ⟨_, waits⟩ := waits
            exact asked (by rw [waited] at waits; rw [Option.some.inj waits])
        simp [added, answered]

-- A poll that waits no longer has its answer.
theorem exists_answer (h : s.Served held) {poll : PollId} (registered : poll < s.polls)
    (stays : held poll) (done : ¬s.Waits poll) : ∃ packets, s.answersTo poll = [packets] := by
  have answered := (h.served poll registered stays).resolve_left done
  have some_ := List.length_pos_iff.mpr answered
  exact List.length_eq_one_iff.mp (Nat.le_antisymm (h.once poll) some_)

theorem step {op : Op} (h : s.Served held) (serves : Serves s op s')
    (keeps : ∀ poll, held poll → op.keeps poll) : s'.Served held := by
  cases serves with
  | rests parked polls answers => exact h.rests parked polls answers
  | hears poll client said parked polls answers =>
    have keeps : held poll → client.take?.isSome := fun stays => by
      simpa [said, Op.keeps] using keeps poll stays
    exact h.hears keeps parked polls answers
  | registers free parked polls answers => exact h.registers free parked polls answers
  | meets free parked polls answers _ => exact h.meets free parked polls answers
  | empties packets parked polls answers _ _ => exact h.empties parked polls answers

theorem run (h : s.Served held) (v : s.Valid) (ops : List Op)
    (keeps : ∀ poll, held poll → Held poll ops) : (s.run ops).Served held := by
  induction ops generalizing s with
  | nil => exact h
  | cons op ops ih =>
    have now := fun poll stays => keeps poll stays op List.mem_cons_self
    have later := fun poll stays op' mem => keeps poll stays op' (List.mem_cons_of_mem _ mem)
    exact ih (h.step (perform_serves v op) now) (v.perform op) later

end Served

namespace Origin

variable (o : Origin)

theorem parked?_created : (o.created.enter .established).transport.parked? = none := by
  simp only [transport_enter, created, transport]
  split <;> rfl

-- No poll was there yet to take the handshake.
theorem answers_session : o.session.answers = [] ∧ o.session.transport.parked? = none := by
  let queued : Session :=
    { o.created with buffer := [o.handshake.packet], lastHeartbeat := o.now }.enter .established
  have parked : queued.transport.parked? = none := o.parked?_created
  have unanswered : queued.answers = [] := answers_enter _ _
  have start : o.session = queued.flush := rfl
  rw [start]
  cases queued.flush_answers with
  | inl rest => exact ⟨rest.2.trans unanswered, rest.1.trans parked⟩
  | inr taken =>
    refine ⟨?_, taken.2.1⟩
    rw [taken.2.2.1, Transport.answersWith_of_parked_none _ parked, unanswered, List.nil_append]

theorem polls_session : o.session.polls = 0 :=
  (polls_flush _).trans (polls_enter _ _)

theorem served (held : PollId → Prop) : o.session.Served held := by
  have unanswered : ∀ poll, o.session.answersTo poll = [] := fun poll => by
    simp [answersTo, o.answers_session.1]
  refine ⟨by simp [o.answers_session.2], fun poll _ => unanswered poll,
    fun poll => by simp [unanswered poll], fun poll registered => ?_⟩
  simp [o.polls_session] at registered

end Origin

theorem served_run (o : Origin) (ops : List Op) :
    (o.session.run ops).Served fun poll => Held poll ops :=
  (o.served _).run o.valid ops fun _ stays => stays

-- Whoever was answered in a run was answered by one of its operations.
theorem exists_answers {s : Session} (v : s.Valid) {ops : List Op} {a : PollId × List Packet}
    (mem : a ∈ (s.run ops).answers) :
    a ∈ s.answers ∨
      ∃ before op after, ops = before ++ op :: after ∧ Answers (s.run before) op a.1 a.2 := by
  induction ops generalizing s with
  | nil => exact .inl mem
  | cons op ops ih =>
    obtain now | ⟨before, op', after, split, answers⟩ := ih (v.perform op) mem
    · apply ((perform_serves v op).mem_answers now).imp_right
      exact fun answers => ⟨[], op, ops, rfl, answers⟩
    · exact .inr ⟨op :: before, op', after, by rw [split]; rfl, answers⟩

-- The answer to a poll that is asked for once its time is up.
theorem Served.answersTo_releasePoll {held : PollId → Prop} {s : Session} (h : s.Served held)
    (v : s.Valid) {poll : PollId} (registered : poll < s.polls) (stays : held poll) :
    s.releasePoll.answersTo poll = [(s.expirePoll poll).1] := by
  have released : s.releasePoll.Served held :=
    h.step (perform_serves v (.expirePoll poll)) fun _ _ => rfl
  have done : ¬s.releasePoll.Waits poll := fun ⟨_, waits⟩ => by
    rw [transport_releasePoll, s.transport.parked?_release] at waits
    exact absurd waits nofun
  have ⟨packets, answered⟩ := released.exists_answer registered stays done
  have given : (s.expirePoll poll).1 = packets := by
    simp [expirePoll, answer?_eq_head?, answered]
  rw [given, answered]

theorem registerPoll_of_waiting {s : Session} (v : s.Valid) {q : Polling.Parked}
    (waits : s.transport.parked? = some q) (there : q.client.isThere) :
    s.registerPoll = .error .overlappingPoll := by
  have live := v.isLive_of_parked waits
  cases transport : s.transport with
  | websocket t => simp [transport, Transport.parked?] at waits
  | polling t =>
    have parked : t.parked = some q := by simpa [transport, Transport.parked?] using waits
    simp [registerPoll, live, transport, Polling.register?, Polling.hasLivePoll, parked, there]

-- Whatever is done to a session, a poll that comes while another one waits is refused. A poll whose
-- client stays either waits or has its one answer, and if it is asked for its answer it has it then.
-- No answer is empty.
theorem run_answers_once (o : Origin) (ops : List Op) :
    let s := o.session.run ops
    (∀ q, s.transport.parked? = some q → q.client.isThere →
        s.registerPoll = .error .overlappingPoll ∧ s.perform .registerPoll = s) ∧
      (∀ poll < s.polls, Held poll ops →
        (s.Waits poll ∧ s.answersTo poll = [] ∨
            ¬s.Waits poll ∧ ∃ packets, s.answersTo poll = [packets]) ∧
          s.releasePoll.answersTo poll = [(s.expirePoll poll).1]) ∧
      ∀ poll, (s.answersTo poll).length ≤ 1 ∧
        ∀ packets ∈ s.answersTo poll, packets ≠ [] ∧
          ∃ before op after, ops = before ++ op :: after ∧
            Answers (o.session.run before) op poll packets := by
  intro s
  have v : s.Valid := valid_run o ops
  have h : s.Served fun poll => Held poll ops := served_run o ops
  refine ⟨fun q waits there => ?_, fun poll registered stays => ⟨?_, ?_⟩,
    fun poll => ⟨h.once poll, fun packets mem => ?_⟩⟩
  · have refused := registerPoll_of_waiting v waits there
    exact ⟨refused, by simp [perform, refused, Except.toOption]⟩
  · by_cases waits : s.Waits poll
    · obtain ⟨client, parked⟩ := waits
      exact .inl ⟨⟨client, parked⟩, (h.parked _ parked).2.1⟩
    · exact .inr ⟨waits, h.exists_answer registered stays waits⟩
  · exact h.answersTo_releasePoll v registered stays
  · obtain before | ⟨before, op, after, split, answers⟩ := exists_answers o.valid (mem_answersTo.mp mem)
    · simp [o.answers_session] at before
    · exact ⟨answers.ne_nil, before, op, after, split, answers⟩

-- The handshake goes to the first poll, and a message to the second. The third poll is released when
-- the probe ping has come, and the last one learns of the close.
theorem run_answers_once_probed :
    let ops : List Op :=
      [.registerPoll, .registerPoll, .registerPoll, .send (.message (.text "a")), .registerPoll,
        .beginUpgrade 1 .v4 .present, .probe 1 { kind := .ping, data := some (.text "probe") },
        .registerPoll, .close .forcedClose]
    let s := Origin.plain.session.run ops
    (3 < s.polls ∧ Held 3 ops) ∧ s.answersTo 2 = [[.noop]] ∧
      (s.Waits 3 ∧ s.answersTo 3 = [] ∨ ¬s.Waits 3 ∧ ∃ packets, s.answersTo 3 = [packets]) :=
  ⟨by decide, by decide, ((run_answers_once _ _).2.1 3 (by decide) (by decide)).1⟩

end Session

end Duplex
