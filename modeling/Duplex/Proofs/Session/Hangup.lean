import Duplex.Proofs.Session.Commands

-- What the writer of a websocket was given in a whole run: it is told to hang up exactly when the
-- session works with the websocket no longer.

namespace Duplex.Session

-- A websocket that the session has never worked with.
structure Unknown (tid : TransportId) (s : Session) : Prop where
  serving : s.employed? tid = none
  commands : s.commandsOn tid = []

-- What the writer of a websocket was given up to now. `stays` says that it has not gone away.
inductive Commanded (tid : TransportId) (stays : Prop) (s : Session) : Prop
  | serving {t : Websocket} (fs : List Frame) (serves : s.employed? tid = some t)
    (told : s.commandsOn tid = fs.map (.frame tid)) (there : stays → t.writer = .present)
  | left (fs : List Frame) (gone : s.employed? tid = none)
    (told : s.commandsOn tid = fs.map (.frame tid) ++ [.hangUp tid] ∨
      s.commandsOn tid = fs.map (.frame tid) ∧ ¬stays)

namespace Unknown

variable {tid : TransportId} {stays : Prop} {s s' : Session}

theorem treats (h : Unknown tid s) (t : Treats tid stays s s') : Unknown tid s' := by
  cases t with
  | passes _ after same => exact ⟨after, same.trans h.commands⟩
  | goes _ before | ends _ before => exact absurd (before.symm.trans h.serving) nofun

theorem run (h : Unknown tid s) (v : s.Valid) {ops : List Op}
    (others : tid ∉ ops.filterMap Op.brings?) : Unknown tid (s.run ops) := by
  induction ops generalizing s with
  | nil => exact h
  | cons op ops ih =>
    have other : op.brings? ≠ some tid := fun brings =>
      others (List.mem_filterMap.mpr ⟨op, List.mem_cons_self, brings⟩)
    refine ih (h.treats (perform_treats v other)) (v.perform op) fun mem => others ?_
    obtain ⟨op', mem', brings⟩ := List.mem_filterMap.mp mem
    exact List.mem_filterMap.mpr ⟨op', List.mem_cons_of_mem _ mem', brings⟩

-- It is let in, or told to hang up at once.
theorem beginUpgrade (h : Unknown tid s) (revision : Revision) (writer : Peer) :
    Commanded tid (writer = .present) (s.perform (.beginUpgrade tid revision writer)) := by
  simp only [perform, Session.beginUpgrade]
  cases check : s.checkUpgrade with
  | error f =>
    let t : Websocket := { id := tid, revision, writer }
    have told : (s.handOver t.close.delivered).commandsOn tid =
        t.close.delivered.filter (·.websocket? = some tid) := by
      rw [commandsOn_append rfl, h.commands, List.nil_append]
    have same : (s.handOver t.close.delivered).attached? = s.attached? := attached?_congr rfl rfl rfl
    refine .left [] (by rw [employed?, same]; exact h.serving) ?_
    obtain hangUp | ⟨nothing, absent⟩ := t.close_hangUp rfl
    · exact .inl (told.trans (by rw [hangUp]; simp [Delivery.websocket?, t]))
    · exact .inr ⟨told.trans (by rw [nothing]; rfl), absent⟩
  | ok =>
    let t : Websocket := { id := tid, revision, writer }
    refine .serving (t := t) [] ?_ ?_ fun there => there
    · exact (employed?_of_attached? (attached?_of_pending (pending_enter _ _))).trans (if_pos rfl)
    · rw [commandsOn, dispatched_enter]
      exact h.commands

end Unknown

namespace Commanded

variable {tid : TransportId} {stays stays' : Prop} {s s' : Session}

theorem treats (h : Commanded tid stays s) (t : Treats tid stays' s s') :
    Commanded tid (stays ∧ stays') s' := by
  cases h with
  | serving fs serves told there =>
    cases t with
    | passes before => exact absurd (serves.symm.trans before) nofun
    | goes fs' before after told' there' =>
      obtain rfl := Option.some.inj (serves.symm.trans before)
      refine .serving (fs ++ fs') after ?_ fun stays => there' stays.2 (there stays.1)
      rw [told', told, List.map_append]
    | ends fs' before after told' =>
      obtain rfl := Option.some.inj (serves.symm.trans before)
      rw [told, ← List.map_append] at told'
      exact .left (fs ++ fs') after
        (told'.imp_right fun cut => ⟨cut.1, fun stays => cut.2 ⟨stays.2, there stays.1⟩⟩)
  | left fs gone told =>
    cases t with
    | passes _ after same =>
      rw [← same] at told
      exact .left fs after (told.imp_right fun cut => ⟨cut.1, fun stays => cut.2 stays.1⟩)
    | goes _ before | ends _ before => exact absurd (before.symm.trans gone) nofun

theorem mono (h : Commanded tid stays s) (weaker : stays' → stays) : Commanded tid stays' s := by
  cases h with
  | serving fs serves told there => exact .serving fs serves told fun stays => there (weaker stays)
  | left fs gone told =>
    exact .left fs gone (told.imp_right fun cut => ⟨cut.1, fun stays => cut.2 (weaker stays)⟩)

theorem run (h : Commanded tid stays s) (v : s.Valid) {ops : List Op}
    (others : tid ∉ ops.filterMap Op.brings?) :
    Commanded tid (stays ∧ ∀ op ∈ ops, op.keepsWriter tid) (s.run ops) := by
  induction ops generalizing s stays with
  | nil => exact h.mono And.left
  | cons op ops ih =>
    have other : op.brings? ≠ some tid := fun brings =>
      others (List.mem_filterMap.mpr ⟨op, List.mem_cons_self, brings⟩)
    refine (ih (h.treats (perform_treats v other)) (v.perform op) fun mem => others ?_).mono ?_
    · obtain ⟨op', mem', brings⟩ := List.mem_filterMap.mp mem
      exact List.mem_filterMap.mpr ⟨op', List.mem_cons_of_mem _ mem', brings⟩
    · rintro ⟨stays, keeps⟩
      obtain ⟨first, rest⟩ := List.forall_mem_cons.mp keeps
      exact ⟨⟨stays, first⟩, rest⟩

theorem exists_frames (h : Commanded tid stays s) :
    ∃ fs : List Frame, s.commandsOn tid = fs.map (.frame tid) ∨
      s.commandsOn tid = fs.map (.frame tid) ++ [.hangUp tid] := by
  cases h with
  | serving fs _ told => exact ⟨fs, .inl told⟩
  | left fs _ told => exact ⟨fs, told.symm.imp_left And.left⟩

theorem hangUp_mem_iff (h : Commanded tid stays s) (v : s.Valid) (here : stays) :
    .hangUp tid ∈ s.dispatched ↔ ¬s.Employs tid := by
  have told : .hangUp tid ∈ s.dispatched ↔ .hangUp tid ∈ s.commandsOn tid := by
    simp [commandsOn, Delivery.websocket?]
  rw [told, employs_iff v]
  cases h with
  | serving fs serves told => simp [told, serves]
  | left fs gone told =>
    obtain hangUp | cut := told
    · simp [hangUp, gone]
    · exact absurd here cut.2

end Commanded

namespace Origin

variable (o : Origin)

-- The websockets that a session was ever handed.
def handed (ops : List Op) : List TransportId :=
  (o.writer?.map fun _ => o.tid).toList ++ ops.filterMap Op.brings?

-- No two transports have one name.
def Distinct (ops : List Op) : Prop :=
  (o.tid :: ops.filterMap Op.brings?).Nodup

-- The writer of a websocket does not go away.
def WriterStays (ops : List Op) (tid : TransportId) : Prop :=
  (o.tid = tid → o.writer? = some .present) ∧ ∀ op ∈ ops, op.keepsWriter tid

variable {o : Origin} {tid : TransportId}

theorem attached?_filled (o : Origin) : o.filled.attached? = o.transport.carrier? := by
  have pending : o.filled.pending = none := pending_enter _ _
  have live : o.filled.isLive := isLive_of_established (state_enter _ _)
  rw [attached?_of_live pending live, filled, transport_enter]
  rfl

theorem commandsOn_filled (o : Origin) (tid : TransportId) : o.filled.commandsOn tid = [] := by
  rw [commandsOn, filled, dispatched_enter]
  rfl

theorem unknown_filled (other : o.tid ≠ tid) : Unknown tid o.filled := by
  refine ⟨?_, o.commandsOn_filled tid⟩
  cases opened : o.writer? with
  | none => simp [employed?, o.attached?_filled, Origin.transport, opened, Transport.carrier?]
  | some writer =>
    simp [employed?, o.attached?_filled, Origin.transport, opened, Transport.carrier?, other]

theorem commanded_session {writer : Peer} (opened : o.writer? = some writer) :
    Commanded o.tid (writer = .present) o.session := by
  let t : Websocket := { id := o.tid, revision := o.revision, writer }
  have attached : o.filled.attached? = some t := by
    rw [o.attached?_filled, Origin.transport, opened]
    rfl
  have filled : Commanded o.tid (writer = .present) o.filled :=
    .serving [] ((employed?_of_attached? attached).trans (if_pos rfl)) (o.commandsOn_filled o.tid)
      fun there => there
  exact (filled.treats (.flush o.valid_filled)).mono fun there => ⟨there, trivial⟩

-- Every websocket that a session was ever handed gets what it should.
theorem commanded_run {ops : List Op} (distinct : o.Distinct ops) (handed : tid ∈ o.handed ops) :
    ∃ stays : Prop, (o.WriterStays ops tid → stays) ∧ Commanded tid stays (o.session.run ops) := by
  obtain ⟨fresh, once⟩ := List.nodup_cons.mp distinct
  obtain first | later := List.mem_append.mp handed
  · obtain ⟨writer, opened, rfl⟩ : ∃ writer, o.writer? = some writer ∧ o.tid = tid := by
      simpa using first
    refine ⟨_, fun stays => ?_, (commanded_session opened).run o.valid fresh⟩
    exact ⟨Option.some.inj (opened.symm.trans (stays.1 rfl)), stays.2⟩
  · have named : o.tid ≠ tid := fun same => fresh (same ▸ later)
    obtain ⟨op, mem, brings⟩ := List.mem_filterMap.mp later
    obtain ⟨early, late, rfl⟩ := List.append_of_mem mem
    rw [List.filterMap_append, List.filterMap_cons_some brings] at once
    obtain ⟨_, rest, apart⟩ := List.nodup_append.mp once
    obtain ⟨after, _⟩ := List.nodup_cons.mp rest
    have before : tid ∉ early.filterMap Op.brings? := fun mem =>
      apart tid mem tid List.mem_cons_self rfl
    obtain ⟨revision, writer, rfl⟩ :
        ∃ revision writer, op = .beginUpgrade tid revision writer := by
      cases op with
      | beginUpgrade tid' revision writer =>
        have same : tid' = tid := Option.some.inj brings
        exact ⟨revision, writer, by rw [same]⟩
      | _ => cases brings
    have opened : Treats tid True o.filled o.session := .flush o.valid_filled
    have unknown : Unknown tid (o.session.run early) :=
      ((unknown_filled named).treats opened).run o.valid before
    have v : (o.session.run early).Valid := valid_run o early
    refine ⟨_, fun stays => ?_, by
      rw [run_append, run_cons]
      exact (unknown.beginUpgrade revision writer).run (v.perform _) after⟩
    refine ⟨?_, fun op mem => stays.2 op (by simp [mem])⟩
    simpa [Op.keepsWriter] using stays.2 (.beginUpgrade tid revision writer) (by simp)

end Origin

end Duplex.Session
