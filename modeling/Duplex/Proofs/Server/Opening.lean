import Duplex.Proofs.Json.Fields
import Duplex.Proofs.Json.Reading
import Duplex.Proofs.Server.Sessions
import Duplex.Proofs.Session.Encodable

-- The record that opens a session: it gets through to the client whatever is in it, and it says what
-- the session is like.

namespace Duplex

namespace Json

-- What the fields of a record are written as comes back from a text.

theorem isExact_ofNat (n : UInt64) : (ofNat n.toNat).isExact := by
  have small := n.toNat_lt
  have low : -((word / 2 : Nat) : Int) ≤ n.toNat := by omega
  have high : (n.toNat : Int) < word := Int.ofNat_lt.mpr small
  simp only [ofNat, isExact, inWord, low, high, decide_true, Bool.and_true]

theorem isExact_ofStrings (ss : List String) : (ofStrings ss).isExact := by
  have each : areExact (ss.map string) := by
    induction ss with
    | nil => rfl
    | cons s ss ih => simpa [areExact, isExact] using ih
  exact each

end Json

namespace Handshake

open Json

theorem isExact_toJson (h : Handshake) : h.toJson.isExact := by
  cases limit : h.maxPayload <;>
    simp [toJson, limit, isExact, areExactMembers, isExact_ofNat, isExact_ofStrings]

theorem readLimit_ofNat (n : UInt64) : readLimit (ofNat n.toNat) = some (some n) := by
  have read : (ofNat n.toNat).asUInt64? = some n := asUInt64?_eq_some_iff.mpr rfl
  simp only [ofNat] at read ⊢
  rw [readLimit, read, Option.map_some]
  intro eq
  cases eq

theorem hasRepeatedField_toJson (h : Handshake) : hasRepeatedField h.toJson = false := by
  cases limit : h.maxPayload <;> simp [hasRepeatedField, fieldNames, toJson, limit]

-- The fields of a record as JSON.

theorem field?_toJson (h : Handshake) :
    h.toJson.field? "sid" 0 = some (.string h.sid) ∧
      h.toJson.field? "upgrades" 1 = some (.ofStrings h.upgrades) ∧
      h.toJson.field? "pingInterval" 2 = some (.ofNat h.pingInterval.toNat) ∧
      h.toJson.field? "pingTimeout" 3 = some (.ofNat h.pingTimeout.toNat) ∧
      h.toJson.field? "maxPayload" 4 = h.maxPayload.map fun limit => .ofNat limit.toNat := by
  cases limit : h.maxPayload <;>
    simp [toJson, field?, Members.get?_nil, Members.get?_cons, limit]

theorem fieldOr_toJson (h : Handshake) :
    h.toJson.fieldOr "maxPayload" 4 none readLimit = some h.maxPayload := by
  obtain ⟨_, _, _, _, written⟩ := h.field?_toJson
  rw [fieldOr, written]
  cases h.maxPayload with
  | none => rfl
  | some limit => exact readLimit_ofNat limit

theorem ofJson?_toJson (h : Handshake) : ofJson? h.toJson = some h := by
  obtain ⟨sid, upgrades, pingInterval, pingTimeout, _⟩ := h.field?_toJson
  have isRecord : h.toJson.isRecord fieldNames.length = true := rfl
  have sid' : (h.toJson.field? "sid" 0).bind asString? = some h.sid :=
    Option.bind_eq_some_iff.mpr ⟨_, sid, rfl⟩
  have upgrades' : (h.toJson.field? "upgrades" 1).bind asStrings? = some h.upgrades :=
    Option.bind_eq_some_iff.mpr ⟨_, upgrades, asStrings?_eq_some_iff.mpr rfl⟩
  have pingInterval' : (h.toJson.field? "pingInterval" 2).bind asUInt64? = some h.pingInterval :=
    Option.bind_eq_some_iff.mpr ⟨_, pingInterval, asUInt64?_eq_some_iff.mpr rfl⟩
  have pingTimeout' : (h.toJson.field? "pingTimeout" 3).bind asUInt64? = some h.pingTimeout :=
    Option.bind_eq_some_iff.mpr ⟨_, pingTimeout, asUInt64?_eq_some_iff.mpr rfl⟩
  rw [ofJson?, isRecord, h.hasRepeatedField_toJson, sid', upgrades', pingInterval', pingTimeout',
    h.fieldOr_toJson]
  rfl

-- The client reads the record that it was sent.
theorem ofText?_text (h : Handshake) : ofText? h.text = some h := by
  rw [ofText?, text, ofText?_render h.isExact_toJson]
  exact h.ofJson?_toJson

theorem text_ne_empty (h : Handshake) : h.text ≠ "" := by
  intro empty
  have first : h.text.toList.head? = some '\x7b' := by
    rw [text, render, String.toList_ofList, toJson, write]
    rfl
  rw [empty] at first
  cases first

theorem data_packet (h : Handshake) : h.packet.data = some (.text h.text) := by
  simp [packet, Packet.handshake, Packet.withData, Payload.normalized, h.text_ne_empty]

theorem normalized_packet (h : Handshake) : h.packet.normalized = h.packet := by
  have written : h.packet = { kind := .handshake, data := some (.text h.text) } := by
    rw [← h.data_packet]
    rfl
  rw [written]
  simp [Packet.normalized, Payload.normalized, h.text_ne_empty]

-- Whatever leaves with it, as one body or frame by frame, the record comes in as it was.

theorem exists_batch (h : Handshake) (r : Revision) {more : List Packet}
    (checked : ∀ p ∈ more, Batch.check p r = .ok ()) :
    ∃ body, Batch.encode (h.packet :: more) r = .ok body ∧
      ((r = .v3 → body.utf8ByteSize ≤ Batch.maxLength) →
        Batch.decode body r = .ok (h.packet :: more.map Packet.normalized)) := by
  have all : ∀ p ∈ h.packet :: more, Batch.check p r = .ok () :=
    List.forall_mem_cons.mpr ⟨h.check_packet .polling r, checked⟩
  refine ⟨_, Batch.encode_of_check all, fun fits => ?_⟩
  rw [Batch.decode_of_encode (List.cons_ne_nil _ _) (Batch.encode_of_check all) fits, List.map_cons,
    h.normalized_packet]

theorem exists_frame (h : Handshake) (r : Revision) :
    ∃ f, Frame.encode h.packet r = .ok f ∧ Frame.decode f r = .ok h.packet := by
  obtain ⟨f, encoded, decoded⟩ := Frame.crosses_of_check (h.check_packet .websocket r)
  exact ⟨f, encoded, decoded.trans (congrArg _ h.normalized_packet)⟩

end Handshake

namespace Session

-- What a session has sent, and nothing else: it still waits, or it left as a frame.
inductive Sends (s : Session) (p : Packet) : Prop
  | waits (buffer : s.buffer = [p]) (dispatched : s.dispatched = [])
  | left {f : Frame} (encoded : Frame.encode p s.revision = .ok f) (buffer : s.buffer = [])
    (dispatched : s.dispatched = [.frame s.transport.id f])

theorem Sends.signals {s : Session} {p : Packet} (h : s.Sends p) (signals : List Signal) :
    { s with signals }.Sends p := by
  cases h with
  | waits buffer dispatched => exact .waits buffer dispatched
  | left encoded buffer dispatched => exact .left encoded buffer dispatched

namespace Origin

variable (o : Origin)

-- The first thing that a session sends is its handshake.
theorem sends : o.session.Sends o.handshake.packet := by
  obtain ⟨taken, moved, takes, split, dispatched⟩ := o.filled.flush_takes
  have filled : o.filled.buffer = [o.handshake.packet] := by simp [Origin.filled]
  have quiet : o.filled.dispatched = [] := by simp [Origin.filled, created]
  have transport : o.filled.transport = o.transport := by simp [Origin.filled, created]
  rw [filled] at split
  rw [quiet, List.nil_append] at dispatched
  cases opened : o.writer? with
  | none =>
    have idle : o.filled.transport.writable = false := by
      rw [transport, Origin.transport, opened]
      rfl
    have same : o.session = o.filled := flush_of_not_writable idle
    exact .waits (same ▸ filled) (same ▸ quiet)
  | some writer =>
    have channel : o.filled.transport.channel = .websocket o.tid o.revision := by
      rw [transport, Origin.transport, opened]
      rfl
    rw [channel] at takes
    change [o.handshake.packet] = taken ++ o.session.buffer at split
    change o.session.dispatched = moved at dispatched
    cases takes with
    | nothing => exact .waits split.symm dispatched
    | frames taken =>
      obtain ⟨rfl, waits⟩ | ⟨first, none_⟩ := List.append_eq_singleton_iff.mp split.symm
      · exact .waits waits dispatched
      · subst first
        obtain ⟨f, encoded, _⟩ := o.handshake.exists_frame o.revision
        have revision : o.session.revision = o.revision := congrArg (·.2.1) o.identity_session
        have id : o.session.transport.id = o.tid := by
          rw [← Transport.id_channel, o.channel_session, Transport.id_channel, o.id_transport]
        refine .left (revision ▸ encoded) none_ (dispatched.trans ?_)
        simp [id, Frame.form?_of_ok encoded]

-- A session that has just opened lets a websocket join as its handshake tells.
theorem checkUpgrade_session_iff :
    o.session.checkUpgrade = .ok () ↔ o.config.mayUpgrade ∧ o.transport.kind = .polling := by
  have config : o.session.config = o.config := congrArg (·.2.2) o.identity_session
  have state : o.session.state = .established := by
    rw [session, start, state_flush, state_enter]
  have kind : o.session.transport.kind = o.transport.kind := by
    rw [← Transport.kind_channel, o.channel_session, Transport.kind_channel]
  rw [Valid.checkUpgrade_eq_ok_iff, config, kind]
  simp [state]

end Origin

end Session

theorem Configuration.mem_upgradesFrom_iff (c : Configuration) (kind : TransportKind) :
    TransportKind.websocket.name ∈ c.upgradesFrom kind ↔ c.mayUpgrade ∧ kind = .polling := by
  simp [upgradesFrom, and_comm]

theorem Configuration.ofSettings_eq_ok {settings : Settings} {config : Configuration}
    (h : ofSettings settings = .ok config) :
    config.pingInterval = settings.engine.pingInterval ∧
      config.pingTimeout = settings.engine.pingTimeout ∧
      config.maxPayload = settings.engine.maxPayload := by
  simp only [ofSettings] at h
  split at h
  · cases h
  · obtain rfl := Except.ok.inj h
    exact ⟨rfl, rfl, rfl⟩

-- The record that opens a session, end to end. It can be sent whatever it tells, on every transport
-- and with anything, and the client reads what was told: who the session is, the times and the limit
-- that were set, and a websocket to go on with exactly if the session lets one join. A body of
-- revision 3 is a text in memory, so its size is a word.
theorem Engine.openSession_tells :
    (∀ (h : Handshake) (r : Revision),
      Batch.check h.packet r = .ok () ∧ Batch.separator ∉ h.text.toList ∧
        (∀ more : List Packet, (∀ p ∈ more, Batch.check p r = .ok ()) →
          ∃ body, Batch.encode (h.packet :: more) r = .ok body ∧
            ((r = .v3 → body.utf8ByteSize ≤ Batch.maxLength) →
              Batch.decode body r = .ok (h.packet :: more.map Packet.normalized))) ∧
        (∃ f, Frame.encode h.packet r = .ok f ∧ Frame.decode f r = .ok h.packet) ∧
        h.packet.data = some (.text h.text) ∧ Handshake.ofText? h.text = some h) ∧
      ∀ settings config, Configuration.ofSettings settings = .ok config →
        ∀ e : Engine, e.config = config → e.Holds (fun _ => True) →
          ∀ revision tid writer? now,
            let transport := (e.origin revision tid writer? now).transport
            let opened := e.openSession revision transport now
            ∃ (s : Session) (h : Handshake),
              opened.2.sessions = e.sessions ++ [s] ∧ opened.1 = s.id ∧
              s.transport.kind = transport.kind ∧ s.Sends h.packet ∧ h.sid = s.id ∧
              h.pingInterval = settings.engine.pingInterval ∧
              h.pingTimeout = settings.engine.pingTimeout ∧
              h.maxPayload = (if revision = .v4 then some settings.engine.maxPayload else none) ∧
              (TransportKind.websocket.name ∈ h.upgrades ↔ s.checkUpgrade = .ok ()) := by
  refine ⟨fun h r => ?_, ?_⟩
  · have plain : Text.IsPlain h.text.toList := by
      rw [Handshake.text, Json.render, String.toList_ofList]
      exact Json.isPlain_write _
    exact ⟨h.check_packet .polling r, Text.separator_not_mem_of_isPlain plain,
      fun more => h.exists_batch r, h.exists_frame r, h.data_packet, h.ofText?_text⟩
  · rintro settings config valid e rfl holds revision tid writer? now transport opened
    let o := e.origin revision tid writer? now
    obtain ⟨_, _, _, eq⟩ := holds.openSession_eq revision tid writer? now
    have id : o.session.id = o.sid := congrArg (·.1) o.identity_session
    have kind : o.session.transport.kind = o.transport.kind := by
      rw [← Transport.kind_channel, o.channel_session, Transport.kind_channel]
    have told : o.transport.kind = if writer?.isSome then .websocket else .polling := by
      cases writer? <;> rfl
    obtain ⟨interval, timeout, limit⟩ := Configuration.ofSettings_eq_ok valid
    refine ⟨{ o.session with signals := [] }, o.handshake, congrArg (·.sessions) eq, id.symm, kind,
      o.sends.signals [], id.symm, interval, timeout, ?_, ?_⟩
    · rw [← limit]
      rfl
    · have tells := Configuration.mem_upgradesFrom_iff e.config o.transport.kind
      rw [told] at tells
      exact tells.trans (told ▸ o.checkUpgrade_session_iff.symm)

-- An engine with the default settings, before anything was opened.
def Engine.fresh : Engine where
  config := {}
  idOf n := String.ofList (List.replicate (n + 1) 'a')
  -- The capacity of a bus of default size is found by a loop that the kernel does not evaluate.
  bus := { capacity := 1 }

-- A session by polling in revision 4, and its record as a body of revision 3 with a message.
theorem Engine.openSession_tells_fresh :
    Configuration.ofSettings {} = .ok fresh.config ∧ fresh.Holds (fun _ => True) ∧
      (∃ (s : Session) (h : Handshake),
        (fresh.openSession .v4 (.polling { id := 0 }) 0).2.sessions = [s] ∧ s.Sends h.packet ∧
          h.sid = "a" ∧ h.pingInterval = 25000 ∧ h.pingTimeout = 20000 ∧
          h.maxPayload = some 1000000 ∧ TransportKind.websocket.name ∈ h.upgrades) ∧
      let h := fresh.config.handshake "a" .v3 .polling
      let more := [Packet.message (.text "hi")]
      (∀ p ∈ more, Batch.check p .v3 = .ok ()) ∧
        ∃ body, Batch.encode (h.packet :: more) .v3 = .ok body ∧
          body.utf8ByteSize ≤ Batch.maxLength ∧
          Batch.decode body .v3 = .ok (h.packet :: more) := by
  have settings : Configuration.ofSettings {} = .ok fresh.config := rfl
  have holds : fresh.Holds (fun _ => True) :=
    .of_sessions_nil rfl (distinct_of_length (by simp [fresh]))
  refine ⟨settings, holds, ?_, ?_⟩
  · obtain ⟨s, h, one, sid, _, sends, id, interval, timeout, limit, upgrades⟩ :=
      openSession_tells.2 {} _ settings fresh rfl holds .v4 0 none 0
    have joins : (fresh.openSession .v4 (.polling { id := 0 }) 0).2.sessions.all
        (fun s => s.checkUpgrade = .ok ()) := by
      decide +kernel
    have mem : s ∈ (fresh.openSession .v4 (.polling { id := 0 }) 0).2.sessions :=
      one ▸ List.mem_singleton_self s
    exact ⟨s, h, one, sends, id.trans sid.symm, interval, timeout, limit,
      upgrades.mpr (of_decide_eq_true (List.all_eq_true.mp joins s mem))⟩
  · intro h more
    have checked : ∀ p ∈ more, Batch.check p .v3 = .ok () := by
      decide
    obtain ⟨body, encoded, decoded⟩ := (openSession_tells.1 h .v3).2.2.1 more checked
    have small : (Batch.encode (h.packet :: more) .v3).toOption.all
        (·.utf8ByteSize ≤ Batch.maxLength) := by
      decide +kernel
    rw [encoded] at small
    have fits : body.utf8ByteSize ≤ Batch.maxLength := of_decide_eq_true small
    exact ⟨checked, body, encoded, fits, decoded fun _ => fits⟩

end Duplex
