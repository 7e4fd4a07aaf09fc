import Duplex.Proofs.Session.Echoing
import Duplex.Proofs.Session.Marks
import Duplex.Proofs.Wire.Canonical

-- Every ping is answered. Whatever can be read as a ping, from a body or from a frame, has a pong
-- with the same data that can be sent, also if the session moves to a websocket in between.

namespace Duplex

-- Reading leaves no empty text behind.

theorem Packet.normalized_withData (kind : Kind) (payload : Payload) :
    (withData kind payload).normalized = withData kind payload := by
  cases payload with
  | binary bytes => rfl
  | text s => by_cases empty : s = "" <;> simp [withData, normalized, Payload.normalized, empty]

theorem Packet.pong_eq {p : Packet} (normal : p.normalized = p) :
    pong p.data = { kind := .pong, data := p.data } := by
  have data : p.normalized.data = p.data := congrArg Packet.data normal
  exact congrArg (Packet.mk .pong) data

namespace Frame

theorem normalized_of_decodeText {r : Revision} {cs : List Char} {p : Packet}
    (h : decodeText r cs = .ok p) : p.normalized = p := by
  obtain ⟨kind, s, rfl, _⟩ | ⟨kind, bytes, _, rfl, _⟩ := decodeText_eq_ok h
  · exact Packet.normalized_withData kind _
  · exact Packet.normalized_withData kind _

theorem normalized_of_decode {f : Frame} {r : Revision} {p : Packet} (h : decode f r = .ok p) :
    p.normalized = p := by
  obtain ⟨kind, s, rfl, _⟩ | ⟨kind, bytes, _, rfl, _⟩ := decode_eq_ok h
  · exact Packet.normalized_withData kind _
  · exact Packet.normalized_withData kind _

-- What was read could have been written.
theorem check_of_decode {f : Frame} {r : Revision} {p : Packet} (h : decode f r = .ok p) :
    check p r = .ok () := by
  obtain ⟨kind, s, rfl, _⟩ | ⟨kind, bytes, message, rfl, _⟩ := decode_eq_ok h
  · exact check_of_encode (encode_withData_text kind s r)
  · exact check_of_encode (encode_withData_binary message bytes)

end Frame

namespace Batch

theorem exists_decodeText_of_mem {r : Revision} {rs : List (List Char)} {packets : List Packet}
    (h : decodeRecords r rs = .ok packets) {p : Packet} (mem : p ∈ packets) :
    ∃ cs ∈ rs, Frame.decodeText r cs = .ok p := by
  induction rs generalizing packets with
  | nil =>
    rw [← Except.ok.inj h] at mem
    cases mem
  | cons cs rs ih =>
    simp only [decodeRecords] at h
    split at h
    · cases h
    · next first read =>
      split at h
      · next later rest =>
        rw [← Except.ok.inj h] at mem
        cases List.mem_cons.mp mem with
        | inl same => exact ⟨cs, List.mem_cons_self, same ▸ read⟩
        | inr mem =>
          obtain ⟨cs', mem', read'⟩ := ih rest mem
          exact ⟨cs', List.mem_cons_of_mem _ mem', read'⟩
      · cases h

theorem normalized_of_decode {body : String} {r : Revision} {packets : List Packet}
    (h : decode body r = .ok packets) : ∀ p ∈ packets, p.normalized = p := by
  intro p mem
  cases r with
  | v4 =>
    obtain ⟨_, _, read⟩ := exists_decodeText_of_mem (decodeRecords_of_decode_v4 h) mem
    exact Frame.normalized_of_decodeText read
  | v3 =>
    obtain ⟨_, _, records⟩ := decodeRecords_of_decode_v3 h
    obtain ⟨_, _, read⟩ := exists_decodeText_of_mem records mem
    exact Frame.normalized_of_decodeText read

theorem normalized_of_decodeBytes {body : Bytes} {r : Revision} {packets : List Packet}
    (h : decodeBytes body r = .ok packets) : ∀ p ∈ packets, p.normalized = p := by
  simp only [decodeBytes] at h
  split at h
  · exact normalized_of_decode h
  · cases h

end Batch

-- A check asks for the data of a packet, and of its kind only whether it is a message.
theorem Transport.check_pong {kind : TransportKind} {p : Packet} {r : Revision}
    (normal : p.normalized = p) (ping : p.kind = .ping) (h : check kind p r = .ok ()) :
    check kind (.pong p.data) r = .ok () := by
  rw [Packet.pong_eq normal]
  obtain ⟨_, data⟩ := p
  obtain rfl := ping
  match data, r with
  | none, _ => cases kind <;> rfl
  | some (.text s), _ => cases kind <;> exact h
  | some (.binary bytes), .v3 => cases kind <;> rfl
  | some (.binary bytes), .v4 => cases kind <;> exact absurd h nofun

namespace Session

-- How a packet comes to a session: in a body, or in a frame of the websocket that carries it.
inductive Comes (s : Session) (p : Packet) : Prop
  | body {bytes : Bytes} {packets : List Packet}
    (decoded : Batch.decodeBytes bytes s.revision = .ok packets) (mem : p ∈ packets)
  | frame {f : Frame} (carried : s.transport.kind = .websocket)
    (decoded : Frame.decode f s.revision = .ok p)

namespace Comes

variable {s : Session} {p : Packet}

theorem normalized (h : Comes s p) : p.normalized = p := by
  cases h with
  | body decoded mem => exact Batch.normalized_of_decodeBytes decoded p mem
  | frame _ decoded => exact Frame.normalized_of_decode decoded

-- A websocket carries whatever a batch carries, and only on a websocket come packets that a batch
-- could not carry.
theorem check (h : Comes s p) : Transport.check s.transport.kind p s.revision = .ok () := by
  cases h with
  | body decoded mem =>
    have batched := Batch.check_of_decodeBytes decoded p mem
    cases s.transport.kind with
    | polling => exact batched
    | websocket => exact Batch.frame_check_of_check batched
  | frame carried decoded =>
    rw [carried]
    exact Frame.check_of_decode decoded

end Comes

-- What can be sent now can be sent later.
theorem Changes.check_of_check {s s' : Session} {ps : List Packet}
    {ws : List (TransportId × Revision)} (h : Changes s ps ws s') {p : Packet}
    (check : Transport.check s.transport.kind p s.revision = .ok ()) :
    Transport.check s'.transport.kind p s'.revision = .ok () :=
  h.induction check fun c => c.check_of_check

theorem accepts_pong {s : Session} {p : Packet} {between : List Op} (came : Comes s p)
    (ping : p.kind = .ping) (live : (s.run between).isLive) :
    (s.run between).accepts (.pong p.data) := by
  have sendable := Transport.check_pong came.normalized ping came.check
  rw [accepts_eq, live, (run_changes s between).check_of_check sendable]
  rfl

-- A ping that is answered leaves its pong behind all that waits.
theorem receive_of_accepts {s : Session} {p : Packet} (now : Nat) (ping : p.kind = .ping)
    (accepted : s.accepts (.pong p.data)) :
    let heard := (s.meter .received).heartbeat now
    heard.send (.pong p.data) = .ok (s.receive p now) ∧
      s.receive p now = { heard with buffer := heard.buffer ++ [Packet.pong p.data] }.flush := by
  intro heard
  have same : heard.accepts (.pong p.data) := by
    rw [accepts_eq] at accepted ⊢
    exact accepted
  have sent := send_of_accepts same
  have received : s.receive p now = heard.perform (.send (.pong p.data)) := by
    simp only [receive, ping, answerPing_eq]
    rfl
  obtain ⟨_, _, eq⟩ := send_eq_ok sent
  rw [received]
  exact ⟨sent, eq⟩

-- However a ping has come to a session, and whatever is done between that moment and the one at
-- which it is handled: if the session lives then, it has heard its client and sends one pong with
-- the data of the ping, which is not refused. The pong waits behind all that waits already, until
-- the transport can take it.
theorem run_answers_ping (o : Origin) (before between : List Op) (p : Packet) (now : Nat)
    (came : Comes (o.session.run before) p) (ping : p.kind = .ping)
    (live : (o.session.run (before ++ between)).isLive) :
    let s := o.session.run (before ++ between)
    let heard := (s.meter .received).heartbeat now
    let pong := Packet.pong p.data
    pong.data = p.data ∧ (s.receive p now).lastHeartbeat = now ∧
      heard.send pong = .ok (s.receive p now) ∧
      s.receive p now = { heard with buffer := s.buffer ++ [pong] }.flush ∧
      s.accepted [.receive p now] = [pong] := by
  intro s heard pong
  have accepted : s.accepts pong := by
    rw [run_append] at live
    have accepts := accepts_pong came ping live
    rwa [← run_append] at accepts
  obtain ⟨sent, eq⟩ := receive_of_accepts now ping accepted
  have data : pong = { kind := .pong, data := p.data } := Packet.pong_eq came.normalized
  refine ⟨by rw [data], ?_, sent, eq, ?_⟩
  · have noted := congrArg Prod.fst (s.marks_receive p now)
    simpa [Op.hears?, ping, marks] using noted
  · simp [Session.accepted, Op.sending?, ping, Option.filter, accepted, pong]

-- A ping comes in a body together with a message, and the session moves to a websocket before it is
-- handled.
theorem run_answers_ping_upgraded :
    let ping : Packet := { kind := .ping, data := some (.text "a") }
    let before : List Op :=
      [.registerPoll, .beginUpgrade 1 .v4 .present,
        .probe 1 { kind := .ping, data := some (.text "probe") }]
    let s := Origin.plain.session.run (before ++ [.probe 1 .upgrade])
    s.transport.kind = .websocket ∧ (s.receive ping 5).lastHeartbeat = 5 ∧
      s.accepted [.receive ping 5] = [.pong (some (.text "a"))] := by
  intro ping before s
  have decoded : Batch.decodeBytes (Text.utf8 "2a\x1e4b") .v4 =
      .ok [ping, .message (.text "b")] := by
    rw [Batch.decodeBytes_utf8]
    cbv
  have answered := run_answers_ping .plain before [.probe 1 .upgrade] ping 5
    (.body decoded List.mem_cons_self) rfl (by decide)
  obtain ⟨_, heard, _, _, accepted⟩ := answered
  exact ⟨by decide, heard, accepted⟩

end Session

end Duplex
