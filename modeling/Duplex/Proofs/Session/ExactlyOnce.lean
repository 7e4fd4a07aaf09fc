import Duplex.Proofs.Session.Ledger
import Duplex.Proofs.Session.Waiting

-- Every message that a session accepts goes out once, in order, and after the handshake, whatever
-- else is done to the session meanwhile.

namespace Duplex

namespace Frame

theorem isSome_form?_of_check {p : Packet} {r : Revision} (h : check p r = .ok ()) :
    (form? r p).isSome := by
  have ⟨f, encoded⟩ := exists_encode_of_check h
  simp [form?_of_ok encoded]

theorem isSome_form?_of_isMessage {p : Packet} (r : Revision) (h : p.isMessage) :
    (form? r p).isSome :=
  isSome_form?_of_check (check_eq_ok_iff.mpr fun _ _ => by simpa [Packet.isMessage] using h)

theorem isSome_form?_of_not_carriesBytes {p : Packet} (r : Revision) (h : p.carriesBytes = false) :
    (form? r p).isSome :=
  isSome_form?_of_check (check_eq_ok_iff.mpr (by simp [h]))

-- Frames are those of the packets that have one.
theorem map_encode_filter (r : Revision) (packets : List Packet) :
    (packets.filter fun p => (form? r p).isSome).map (encode · r) =
      (packets.filterMap (form? r)).map .ok := by
  induction packets with
  | nil => rfl
  | cons p ps ih =>
    cases h : encode p r with
    | error e => simp [form?_of_error h, ih]
    | ok f => simp [form?_of_ok h, h, ih]

end Frame

namespace Session

-- The packets whose frames the writer of the active websocket was given.
def Carried (s : Session) (carried : List Packet) : Prop :=
  match s.transport with
  | .polling _ => carried = []
  | .websocket t => carried.map (Frame.encode · t.revision) = (s.framesOn t.id).map .ok

-- Whatever has a frame in every revision, and is not sent for no packet, is found in the account.
theorem Ledger.exists_carried {s : Session} {given polled offered : List Packet}
    (l : s.Ledger given polled offered) :
    ∃ carried, s.Carried carried ∧
      ∀ q : Packet → Bool, q .noop = false → q .probeAnswer = false →
        (∀ p r, q p → (Frame.form? r p).isSome) →
        (s.answered ++ carried ++ s.buffer).filter q = given.filter q := by
  have frames := l.frames
  cases ht : s.transport with
  | polling t =>
    rw [ht] at frames
    have ⟨unoffered, _⟩ := frames
    refine ⟨[], by simp [Carried, ht], fun q noop _ _ => ?_⟩
    simp [l.answers q noop, l.balance, unoffered]
  | websocket t =>
    rw [ht] at frames
    have ⟨n, eq⟩ := frames
    refine ⟨List.replicate n .probeAnswer ++ offered.filter fun p => (Frame.form? t.revision p).isSome,
      ?_, fun q noop probe formed => ?_⟩
    · simp [Carried, ht, eq, Frame.map_encode_filter, Frame.encode_probeAnswer]
    · have kept : (offered.filter fun p => (Frame.form? t.revision p).isSome).filter q =
          offered.filter q := by
        rw [List.filter_filter]
        exact List.filter_congr fun p _ => by
          cases hq : q p
          · rfl
          · simpa using formed p t.revision hq
      have unprobed : (List.replicate n Packet.probeAnswer).filter q = [] := by simp [probe]
      simp [l.answers q noop, l.balance, kept, unprobed]

-- At every moment of a live session the messages that polls were answered with, then those that
-- went to the active websocket, then those that wait are the messages that were accepted, in the
-- order in which they were. The handshake is before all of them.
theorem run_delivers_once (o : Origin) (ops : List Op) (live : (o.session.run ops).isLive) :
    ∃ carried, (o.session.run ops).Carried carried ∧
      let outbound := (o.session.run ops).answered ++ carried ++ (o.session.run ops).buffer
      outbound.filter Packet.isMessage = (o.session.accepted ops).filter Packet.isMessage ∧
        ∃ before after, outbound = before ++ o.handshake.packet :: after ∧
          ∀ p ∈ before, p.isMessage = false := by
  have ⟨_, _, l⟩ := ledger_run o ops live
  have ⟨carried, h, account⟩ := l.exists_carried
  refine ⟨carried, h, ?_, ?_⟩
  · have first : o.handshake.packet.isMessage = false := rfl
    rw [account Packet.isMessage rfl rfl fun p r h => Frame.isSome_form?_of_isMessage r h]
    simp [first]
  · let q : Packet → Bool := fun p => p.isMessage || p = o.handshake.packet
    have noop : q .noop = false := by
      simp [q, Packet.isMessage, Packet.noop, o.handshake.ne_packet_of_kind]
    have probe : q .probeAnswer = false := by
      simp [q, Packet.isMessage, Packet.probeAnswer, Packet.pong, o.handshake.ne_packet_of_kind]
    have formed : ∀ p r, q p → (Frame.form? r p).isSome := fun p r h => by
      simp only [q, Bool.or_eq_true, decide_eq_true_eq] at h
      cases h with
      | inl message => exact Frame.isSome_form?_of_isMessage r message
      | inr eq =>
        exact Frame.isSome_form?_of_not_carriesBytes r (eq ▸ o.handshake.carriesBytes_packet)
    have shown := account q noop probe formed
    rw [List.filter_cons_of_pos (by simp [q])] at shown
    have ⟨before, after, eq, unsent, _⟩ := List.filter_eq_cons_iff.mp shown
    refine ⟨before, after, eq, fun p mem => ?_⟩
    have unsent := unsent p mem
    simp only [q, Bool.or_eq_true, decide_eq_true_eq, not_or] at unsent
    simpa using unsent.1

-- One message goes to a poll, one waits for the next poll and then for the websocket that takes over,
-- and of the last two the writer takes one before it goes away.
theorem run_delivers_once_swapped :
    let ops : List Op :=
      [.registerPoll, .registerPoll, .send (.message (.text "a")), .beginUpgrade 1 .v4 .present,
        .send (.message (.text "b")), .probe 1 { kind := .ping, data := some (.text "probe") },
        .probe 1 .upgrade, .setWriter 1 (.leaving 1), .send (.message (.text "c")),
        .send (.message (.text "d"))]
    let s := Origin.plain.session.run ops
    s.isLive ∧
      ∃ carried, s.Carried carried ∧
        let outbound := s.answered ++ carried ++ s.buffer
        outbound.filter Packet.isMessage =
            (Origin.plain.session.accepted ops).filter Packet.isMessage ∧
          ∃ before after, outbound = before ++ Origin.plain.handshake.packet :: after ∧
            ∀ p ∈ before, p.isMessage = false :=
  ⟨by decide, run_delivers_once _ _ (by decide)⟩

end Session

end Duplex
