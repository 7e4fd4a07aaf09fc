import Duplex.Proofs.Session.Outbound
import Duplex.Proofs.Wire.Batch

-- The packets that wait in a session: they wait only as long as they must, and once they can leave
-- they have a form to leave in.

namespace Duplex

namespace Handshake

variable (h : Handshake)

theorem kind_packet : h.packet.kind = .handshake := rfl

theorem carriesBytes_packet : h.packet.carriesBytes = false := by
  simp only [packet, Packet.handshake, Packet.withData, Payload.normalized]
  split <;> rfl

theorem ne_packet_of_kind {p : Packet} (kind : p.kind ≠ .handshake) : p ≠ h.packet :=
  fun eq => kind (eq ▸ h.kind_packet)

end Handshake

theorem Transport.frame_check_of_check {kind : TransportKind} {p : Packet} {r : Revision}
    (h : Transport.check kind p r = .ok ()) : Frame.check p r = .ok () := by
  cases kind with
  | polling => exact Batch.frame_check_of_check h
  | websocket => exact h

theorem Transport.not_writable_release {t : Transport} (h : t.writable = false) :
    t.release.transport.writable = false := by
  cases t with
  | polling t =>
    simp [release_polling, send, Dispatch.map, writable, Polling.writable, Polling.hasLivePoll]
  | websocket t => exact h

namespace Session

variable {s s' : Session} {ps : List Packet} {ws : List (TransportId × Revision)}

theorem Prompt.change (waits : s.Prompt) (h : Change s ps ws s') : s'.Prompt := by
  cases h with
  | note | refuse | probe => exact waits
  | accept | register => exact prompt_flush _
  | release => exact fun ne => Transport.not_writable_release (waits ne)
  | client => exact fun ne => Transport.not_writable_setPollClient _ _ _ (waits ne)
  | writer => exact fun ne => Transport.not_writable_setWriter _ _ _ (waits ne)
  | join =>
    intro ne
    simp only [buffer_enter, transport_enter] at ne ⊢
    exact waits ne
  | @upgrade p =>
    have ⟨_, eq⟩ := s.completeUpgrade_eq p.transport
    rw [eq]
    exact (s.swap p.transport).prompt_flush
  | abort f pending =>
    have ⟨_, eq⟩ := abortUpgrade_of_pending s f pending
    rw [eq]
    exact s.stay.prompt_flush
  | close reason live =>
    have ⟨_, eq⟩ := close_of_live reason live
    rw [eq]
    exact fun ne => absurd s.buffer_shut ne

theorem Change.mem_buffer (h : Change s ps ws s') (v : s.Valid) {p : Packet}
    (mem : p ∈ s'.buffer) : p ∈ s.buffer ∨ p ∈ ps := by
  cases live : s'.isLive with
  | true =>
    have ⟨_, _, taken, o⟩ := h.outbound v live
    rw [← List.mem_append, o.buffer]
    exact List.mem_append_right taken mem
  | false =>
    have ⟨_, empty, _⟩ := (v.change h).ended live
    simp [empty] at mem

theorem Change.frame_check (h : Change s ps ws s') {p : Packet} (mem : p ∈ ps) :
    Frame.check p s.revision = .ok () := by
  cases h with
  | accept _ check =>
    rw [List.mem_singleton.mp mem]
    exact Transport.frame_check_of_check check
  | _ => simp at mem

-- What holds of a session at every moment. Whatever waits in it has a frame of its own revision.
structure Sound (s : Session) : Prop where
  valid : s.Valid
  prompt : s.Prompt
  framed : ∀ p ∈ s.buffer, Frame.check p s.revision = .ok ()

theorem Sound.change (sound : s.Sound) (h : Change s ps ws s') : s'.Sound where
  valid := sound.valid.change h
  prompt := sound.prompt.change h
  framed p mem := by
    rw [h.changes.revision]
    cases h.mem_buffer sound.valid mem with
    | inl waited => exact sound.framed p waited
    | inr accepted => exact h.frame_check accepted

theorem Changes.frame_check (h : Changes s ps ws s') {p : Packet} (mem : p ∈ ps) :
    Frame.check p s.revision = .ok () := by
  induction h with
  | refl => simp at mem
  | step c _ ih =>
    cases List.mem_append.mp mem with
    | inl now => exact c.frame_check now
    | inr later => exact c.changes.revision ▸ ih later

-- All that waits or is accepted has a frame of the session's own revision.
theorem Sound.frame_check (sound : s.Sound) {ops : List Op} {p : Packet}
    (mem : p ∈ s.buffer ++ s.accepted ops) : Frame.check p s.revision = .ok () := by
  cases List.mem_append.mp mem with
  | inl waited => exact sound.framed p waited
  | inr accepted => exact (run_changes s ops).frame_check accepted

theorem Origin.eq_packet_of_mem_buffer {o : Origin} {p : Packet} (mem : p ∈ o.session.buffer) :
    p = o.handshake.packet := by
  have ⟨_, _, taken, out⟩ := o.outbound
  have split : [o.handshake.packet] = taken ++ o.session.buffer := out.buffer
  exact List.mem_singleton.mp (split ▸ List.mem_append_right taken mem)

theorem Origin.sound (o : Origin) : o.session.Sound where
  valid := o.valid
  prompt := prompt_flush _
  framed p mem := by
    rw [eq_packet_of_mem_buffer mem]
    exact Frame.check_eq_ok_iff.mpr fun _ bytes => by simp [o.handshake.carriesBytes_packet] at bytes

theorem sound_run (o : Origin) (ops : List Op) : (o.session.run ops).Sound :=
  (run_changes _ ops).induction o.sound fun c sound => sound.change c

end Session

end Duplex
