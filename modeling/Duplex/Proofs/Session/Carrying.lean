import Duplex.Proofs.Session.Ledger
import Duplex.Proofs.Session.Waiting

-- What one operation gives to the websocket that carries the session afterwards: all packets that
-- wait or are accepted, if its writer is there.

namespace Duplex.Session

variable {s s' : Session} {ps : List Packet} {ws : List (TransportId × Revision)}

theorem Changes.framesOn {id : TransportId} {r : Revision} (h : Changes s ps ws s') (v : s.Valid)
    (live : s'.isLive) (carried : s.transport.channel = .websocket id r) :
    s'.transport.channel = .websocket id r ∧
      ∃ taken, s.buffer ++ ps = taken ++ s'.buffer ∧
        s'.framesOn id = s.framesOn id ++ taken.filterMap (Frame.form? r) := by
  induction h with
  | refl => exact ⟨carried, [], by simp⟩
  | @step s s₁ s' ps ps' _ _ c rest ih =>
    have v₁ := v.change c
    have same := c.channel_of_websocket v carried
    have ⟨_, _, taken, o⟩ := c.outbound v (v₁.isLive_of_changes rest live)
    have ⟨after, taken', split, frames⟩ := ih v₁ live same
    refine ⟨after, taken ++ taken', ?_, ?_⟩
    · rw [← List.append_assoc, o.buffer, List.append_assoc, split, List.append_assoc]
    · rw [frames, o.framesOn_websocket same]
      simp

theorem kind_send_eq {p : Packet} (h : s.send p = .ok s') :
    s'.transport.kind = s.transport.kind := by
  have ⟨_, _, eq⟩ := send_eq_ok h
  simp [eq]

theorem kind_close (s : Session) (reason : CloseReason) :
    (s.close reason).transport.kind = s.transport.kind := by
  cases live : s.isLive with
  | false => rw [close_of_not_live reason live]
  | true =>
    have ⟨_, eq⟩ := close_of_live reason live
    simp [eq]

theorem kind_abortUpgrade (s : Session) (tid : TransportId) (f : Fault) :
    (s.abortUpgrade tid f).transport.kind = s.transport.kind := by
  simp only [abortUpgrade]
  split
  · rfl
  · simp [announce, meter]

theorem kind_registerPoll (s : Session) :
    (s.perform .registerPoll).transport.kind = s.transport.kind := by
  simp only [perform, registerPoll]
  split
  · rfl
  · split
    · rfl
    · next polling =>
      split
      · rfl
      · simp [Except.toOption, polling]
        rfl

theorem kind_answerPing (s : Session) (data : Option Payload) :
    (s.answerPing data).transport.kind = s.transport.kind := by
  simp only [answerPing]
  split
  · next sent => exact kind_send_eq sent
  · rfl

theorem kind_receive (s : Session) (p : Packet) (now : Nat) :
    (s.receive p now).transport.kind = s.transport.kind := by
  simp only [receive]
  split
  case h_1 => exact kind_answerPing _ p.data
  case h_3 =>
    simp only [takeIn]
    split <;> rfl
  case h_4 => exact kind_close _ _
  all_goals rfl

theorem kind_beginUpgrade (s : Session) (t : Websocket) :
    (s.beginUpgrade t).2.transport.kind = s.transport.kind := by
  simp only [beginUpgrade]
  split
  · rfl
  · simp

-- A session moves to a websocket in no other way than by a packet on one that waits to take over.
theorem perform_kind (s : Session) (op : Op) :
    (s.perform op).transport.kind = s.transport.kind ∨
      ∃ tid p pending, op = .probe tid p ∧ s.pending = some pending ∧ pending.probed ∧
        s.perform op = s.completeUpgrade pending.transport := by
  cases op with
  | probe tid p =>
    cases h : s.pending.filter (·.transport.id = tid) with
    | none => exact .inl (by simp [perform, probe, h])
    | some pending =>
      simp only [perform, probe, h]
      split
      · split
        · exact .inl rfl
        · exact .inl (by simp; rfl)
      · split
        · next upgrades =>
          exact .inr ⟨tid, p, pending, rfl, (Option.filter_eq_some_iff.mp h).1, upgrades.2, rfl⟩
        · exact .inl rfl
  | send p =>
    cases h : s.send p with
    | error f => exact .inl (by simp [perform, h, Except.toOption])
    | ok s' => exact .inl (by simpa [perform, h, Except.toOption] using kind_send_eq h)
  | registerPoll => exact .inl s.kind_registerPoll
  | expirePoll poll => exact .inl (by simp [perform, expirePoll])
  | receive p now => exact .inl (s.kind_receive p now)
  | recordDecodeError e =>
    simp only [perform, recordDecodeError]
    split
    · exact .inl (kind_close _ _)
    · exact .inl rfl
  | beginUpgrade id revision writer => exact .inl (s.kind_beginUpgrade { id, revision, writer })
  | abortUpgrade tid f => exact .inl (s.kind_abortUpgrade tid f)
  | transportClosed tid reason =>
    simp only [perform, transportClosed]
    split
    · exact .inl (s.kind_close reason)
    · exact .inl (s.kind_abortUpgrade tid _)
  | setPollClient => exact .inl (by simp [perform, setPollClient])
  | setWriter => exact .inl (by simp [perform, setWriter])
  | close reason => exact .inl (s.kind_close reason)
  | heartbeat | countDecodeError | resetDecodeErrors | report | passOn => exact .inl rfl

-- All that waits or is accepted goes to the websocket at once, if its writer is there. The websocket
-- carried the session before, or waited to.
theorem perform_framesOn {op : Op} {t : Websocket} (v : s.Valid) (prompt : s.Prompt)
    (websocket : (s.perform op).transport = .websocket t) (live : (s.perform op).isLive)
    (there : t.writer.isThere) :
    (s.perform op).buffer = [] ∧
      (s.perform op).framesOn t.id =
        s.framesOn t.id ++ (s.buffer ++ s.accepted [op]).filterMap (Frame.form? t.revision) ∧
      (s.transport.channel = .websocket t.id t.revision ∨
        ∃ p, s.pending = some p ∧ p.transport.id = t.id ∧ p.transport.revision = t.revision) := by
  have changes := perform_changes s op
  have v' := changes.induction v fun c v => v.change c
  have prompt' := changes.induction prompt fun c prompt => prompt.change c
  have empty : (s.perform op).buffer = [] := by
    refine Decidable.byContradiction fun ne => ?_
    have unwritable := prompt' ne
    obtain ⟨unclosed, _⟩ := v'.live live
    rw [websocket] at unwritable unclosed
    have unclosed : t.closed = false := unclosed
    simp [Transport.writable, Websocket.writable, unclosed, there] at unwritable
  refine ⟨empty, ?_⟩
  have channel : (s.perform op).transport.channel = .websocket t.id t.revision := by
    rw [websocket]
    rfl
  have accepted : s.accepted [op] = (op.sending?.filter s.accepts).toList := by simp [accepted]
  rw [accepted]
  cases s.perform_kind op with
  | inl same =>
    rw [websocket, ← Transport.kind_channel s.transport] at same
    cases before : s.transport.channel with
    | polls id =>
      rw [before] at same
      cases same
    | websocket id r =>
      obtain ⟨after, taken, split, frames⟩ := changes.framesOn v live before
      obtain ⟨hid, hr⟩ := Channel.websocket.inj (channel.symm.trans after)
      rw [empty, List.append_nil] at split
      exact ⟨by rw [split, hid, hr, frames], .inl (by rw [hid, hr])⟩
  | inr swapped =>
    obtain ⟨tid, p, pending, eq, waits, probed, done⟩ := swapped
    rw [done] at live empty channel ⊢
    obtain ⟨_, _, taken, o⟩ := (Change.upgrade waits probed).outbound v live
    have split := o.buffer
    rw [empty, List.append_nil, List.append_nil] at split
    have after := s.channel_completeUpgrade pending.transport
    obtain ⟨hid, hr⟩ := Channel.websocket.inj (after.symm.trans channel)
    refine ⟨?_, .inr ⟨pending, waits, hid, hr⟩⟩
    rw [o.framesOn_websocket channel, split, eq]
    simp [Op.sending?]

end Duplex.Session
