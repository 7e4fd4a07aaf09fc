import Duplex.Proofs.Json.Written
import Duplex.Proofs.Session.Polled
import Duplex.Proofs.Session.Waiting
import Duplex.Proofs.Wire.Strict
import Duplex.Server.Clock

-- Packets are checked when they are accepted and written later, maybe on another transport or as
-- part of the answer to a poll. What was accepted can still be written then.

namespace Duplex

theorem Text.separator_not_mem_of_isPlain {cs : List Char} (plain : IsPlain cs) :
    Batch.separator ∉ cs := fun mem =>
  absurd (plain _ mem) (by decide)

-- The handshake has a form on every transport, whatever it tells.
theorem Handshake.check_packet (h : Handshake) (kind : TransportKind) (r : Revision) :
    Transport.check kind h.packet r = .ok () := by
  have plain : Text.IsPlain h.text.toList := by
    rw [text, Json.render, String.toList_ofList]
    exact Json.isPlain_write _
  have batched : Batch.check h.packet r = .ok () :=
    Batch.check_withData_text fun _ => Text.separator_not_mem_of_isPlain plain
  cases kind with
  | polling => exact batched
  | websocket => exact Batch.frame_check_of_check batched

namespace Session

variable {s s' : Session} {ps : List Packet} {ws : List (TransportId × Revision)}

-- What waits in a session can leave by the transport that is active now.
def Encodable (s : Session) : Prop :=
  ∀ p ∈ s.buffer, Transport.check s.transport.kind p s.revision = .ok ()

theorem Change.check (h : Change s ps ws s') {p : Packet} (mem : p ∈ ps) :
    Transport.check s.transport.kind p s.revision = .ok () := by
  cases h with
  | accept _ check => exact List.mem_singleton.mp mem ▸ check
  | _ => simp at mem

-- The next transport is of the same kind, or a websocket, which takes whatever a batch can carry.
theorem Change.check_of_check (h : Change s ps ws s') {p : Packet}
    (check : Transport.check s.transport.kind p s.revision = .ok ()) :
    Transport.check s'.transport.kind p s'.revision = .ok () := by
  have same := h.changes.revision
  rw [same]
  obtain kept | ⟨q, _, _, taken⟩ := h.channel
  · have kind : s'.transport.kind = s.transport.kind := by
      rw [← Transport.kind_channel, kept, Transport.kind_channel]
    rw [kind]
    exact check
  · have kind : s'.transport.kind = .websocket := by
      rw [← Transport.kind_channel, taken]
      rfl
    rw [kind]
    exact Transport.frame_check_of_check check

namespace Encodable

theorem batched (encodable : s.Encodable) (polling : s.transport.kind = .polling) :
    ∀ p ∈ s.buffer, Batch.check p s.revision = .ok () := fun p mem => by
  have checked := encodable p mem
  rw [polling] at checked
  exact checked

-- A frame can carry whatever a batch can.
theorem framed (encodable : s.Encodable) : ∀ p ∈ s.buffer, Frame.check p s.revision = .ok () :=
  fun p mem => Transport.frame_check_of_check (encodable p mem)

theorem change (encodable : s.Encodable) (v : s.Valid) (h : Change s ps ws s') :
    s'.Encodable := fun p mem => by
  apply h.check_of_check
  cases h.mem_buffer v mem with
  | inl waited => exact encodable p waited
  | inr accepted => exact h.check accepted

end Encodable

theorem Origin.encodable (o : Origin) : o.session.Encodable := fun _ mem =>
  eq_packet_of_mem_buffer mem ▸ o.handshake.check_packet _ _

theorem encodable_run (o : Origin) (ops : List Op) : (o.session.run ops).Encodable := by
  have both := (run_changes _ ops).induction (P := fun s => s.Valid ∧ s.Encodable)
    ⟨o.valid, o.encodable⟩ fun c ⟨v, encodable⟩ => ⟨v.change c, encodable.change v c⟩
  exact both.2

theorem mem_accepted {op : Op} {p : Packet} :
    p ∈ s.accepted [op] ↔ op.sending? = some p ∧ s.accepts p := by
  simp [accepted, Option.filter_eq_some_iff]

theorem check_of_accepts {p : Packet} (h : s.accepts p) :
    Transport.check s.transport.kind p s.revision = .ok () :=
  (send_eq_ok (send_of_accepts h)).2.1

-- Only polling has polls to answer.
theorem kind_of_waits {poll : PollId} (h : s.Waits poll) : s.transport.kind = .polling := by
  have ⟨_, parked⟩ := h
  cases transport : s.transport with
  | polling => rfl
  | websocket => simp [transport, Transport.parked?] at parked

-- A poll that is not let in is not answered either.
theorem kind_of_registerPoll (some_ : s.buffer ++ s.accepted [.registerPoll] ≠ [])
    (sent : (s.perform .registerPoll).buffer = []) : s.transport.kind = .polling := by
  cases h : s.registerPoll with
  | error f =>
    have empty : s.buffer = [] := perform_registerPoll_of_error h ▸ sent
    simp [empty, accepted, Op.sending?] at some_
  | ok registered =>
    obtain ⟨_, _, t, _, polling, _⟩ := registerPoll_eq_ok h
    rw [polling]
    rfl

theorem Answers.check {op : Op} {poll : PollId} {packets : List Packet}
    (h : Answers s op poll packets) (encodable : s.Encodable) :
    ∀ p ∈ packets, Batch.check p s.revision = .ok () := by
  cases h with
  | batch asks some_ sent =>
    have polling : s.transport.kind = .polling := by
      rcases asks with waits | ⟨register, _⟩
      · exact kind_of_waits waits
      · rw [register] at some_ sent
        exact kind_of_registerPoll some_ sent
    intro p mem
    cases List.mem_append.mp mem with
    | inl waited => exact encodable.batched polling p waited
    | inr entered =>
      have checked := check_of_accepts (mem_accepted.mp entered).2
      rw [polling] at checked
      exact checked
  | noop | close =>
    intro p mem
    rw [List.mem_singleton.mp mem]
    rfl

theorem revision_run (o : Origin) (ops : List Op) :
    (o.session.run ops).revision = o.session.revision :=
  (run_changes _ ops).revision

theorem check_of_mem_answersTo (o : Origin) (ops : List Op) {poll : PollId} {packets : List Packet}
    (mem : packets ∈ (o.session.run ops).answersTo poll) :
    packets ≠ [] ∧ ∀ p ∈ packets, Batch.check p (o.session.run ops).revision = .ok () := by
  obtain before | ⟨before, op, _, _, answers⟩ := exists_answers o.valid (mem_answersTo.mp mem)
  · simp [o.answers_session] at before
  · have checked := answers.check (encodable_run o before)
    rw [revision_run] at checked ⊢
    exact ⟨answers.ne_nil, checked⟩

-- What a poll gets that is asked for its answer is one that it was given, or a packet that means
-- nothing.
theorem check_of_expirePoll (o : Origin) (ops : List Op) (poll : PollId) :
    ((o.session.run ops).expirePoll poll).1 ≠ [] ∧
      ∀ p ∈ ((o.session.run ops).expirePoll poll).1,
        Batch.check p (o.session.run ops).revision = .ok () := by
  have released : (o.session.run ops).releasePoll = o.session.run (ops ++ [.expirePoll poll]) := by
    rw [run_append]
    rfl
  simp only [expirePoll, answer?_eq_head?, released]
  cases answered : ((o.session.run (ops ++ [.expirePoll poll])).answersTo poll).head? with
  | none => exact ⟨by simp, fun p mem => by rw [List.mem_singleton.mp mem]; rfl⟩
  | some packets =>
    have checked := check_of_mem_answersTo o _ (List.mem_of_mem_head? answered)
    rw [revision_run] at checked ⊢
    exact checked

-- Whatever is done to a session, what waits in it can leave by the transport that is active, also
-- by the websocket that has just taken over. What a poll is answered with has a body, and the
-- client reads the same packets from it.
theorem run_encodable (o : Origin) (ops : List Op) :
    let s := o.session.run ops
    (s.transport.kind = .polling → ∀ p ∈ s.buffer, Batch.check p s.revision = .ok ()) ∧
      (s.transport.kind = .websocket → ∀ p ∈ s.buffer, Frame.check p s.revision = .ok ()) ∧
      (∀ q, s.pending = some q →
        (s.swap q.transport).transport.kind = .websocket ∧
          ∀ p ∈ (s.swap q.transport).buffer, Frame.check p s.revision = .ok ()) ∧
      ∀ poll packets, packets ∈ s.answersTo poll ∨ packets = (s.expirePoll poll).1 →
        ∃ body, Batch.encode packets s.revision = .ok body ∧
          Server.pollResponse s.revision packets = .batch body ∧
          ((s.revision = .v3 → body.utf8ByteSize ≤ Batch.maxLength) →
            Batch.decode body s.revision = .ok (packets.map Packet.normalized)) := by
  intro s
  have encodable : s.Encodable := encodable_run o ops
  refine ⟨fun polling => encodable.batched polling, fun _ => encodable.framed,
    fun q _ => ⟨?_, fun p mem => ?_⟩, fun poll packets answer => ?_⟩
  · rw [transport_swap]
    rfl
  · rw [buffer_swap] at mem
    exact encodable.framed p mem
  · have ⟨ne, checked⟩ : packets ≠ [] ∧ ∀ p ∈ packets, Batch.check p s.revision = .ok () := by
      rcases answer with given | asked
      · exact check_of_mem_answersTo o ops given
      · exact asked ▸ check_of_expirePoll o ops poll
    have encoded := Batch.encode_of_check checked
    exact ⟨_, encoded, by rw [Server.pollResponse, encoded],
      fun fits => Batch.decode_of_encode ne encoded fits⟩

-- Bytes and a text leave in one answer, and one more message waits for the next.
theorem run_encodable_polled :
    let s := Origin.plain.session.run
      [.registerPoll, .send (.message (.binary [7])), .send (.message (.text "a")), .registerPoll,
        .send (.message (.text "b"))]
    let packets : List Packet := [.message (.binary [7]), .message (.text "a")]
    (s.transport.kind = .polling ∧ packets ∈ s.answersTo 1) ∧
      (∀ p ∈ s.buffer, Batch.check p s.revision = .ok ()) ∧
      ∃ body, Batch.encode packets s.revision = .ok body ∧
        Server.pollResponse s.revision packets = .batch body ∧
        Batch.decode body s.revision = .ok packets := by
  intro s packets
  have answered : packets ∈ s.answersTo 1 := by decide
  have ⟨checked, _, _, answers⟩ := run_encodable .plain
    [.registerPoll, .send (.message (.binary [7])), .send (.message (.text "a")), .registerPoll,
      .send (.message (.text "b"))]
  have ⟨body, encoded, response, read⟩ := answers 1 packets (.inl answered)
  exact ⟨⟨rfl, answered⟩, checked rfl, body, encoded, response, read nofun⟩

end Session

end Duplex
