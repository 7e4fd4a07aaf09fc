import Mathlib
import Duplex.Proofs.Server.Run
import Duplex.Proofs.Session.Carrying

-- Which packets reach the client of a websocket as they are. The session checks and reads packets in
-- its own revision, but a websocket that joined writes them in that of the request that it came by.

namespace Duplex

namespace Server

-- The websocket that carries a session, or waits to, writes in the session's revision, or it joined
-- by a request of its own.
theorem Grown.revision {requests : List (SessionId × Revision)} {s : Session}
    (h : Grown requests s) {t : Websocket}
    (carries : s.transport.channel = .websocket t.id t.revision ∨
      ∃ p, s.pending = some p ∧ p.transport.id = t.id ∧ p.transport.revision = t.revision) :
    t.revision = s.revision ∨ (s.id, t.revision) ∈ requests := by
  have ⟨o, ops, eq, joined⟩ := h
  have lineage : Session.Lineage o (o.session.joined ops) s := eq ▸ Session.lineage_run o ops
  cases carries with
  | inl active =>
    cases lineage.transport with
    | inl first =>
      have same : s.revision = o.revision := by
        rw [eq, (Session.run_changes o.session ops).revision]
        exact congrArg (·.2.1) o.identity_session
      exact .inl (same ▸ Session.Origin.revision_of_channel (first.symm.trans active))
    | inr later =>
      have ⟨w, mem, channel⟩ := later
      have ⟨_, revision⟩ := Channel.websocket.inj (active.symm.trans channel)
      exact .inr (revision ▸ joined w mem)
  | inr waits =>
    have ⟨p, pending, _, revision⟩ := waits
    exact .inr (revision ▸ joined _ (lineage.pending p pending))

-- A new server, whatever its settings, after whatever clients and the application did.
theorem run_crosses_iff (v : Server) (new : v.engine.sessions = [])
    (distinct : ∀ m n, v.engine.idOf m = v.engine.idOf n → m = n) (moves : List Move) {s : Session}
    (mem : s ∈ (v.run moves).engine.sessions) (op : Session.Op) {t : Websocket}
    (websocket : (s.perform op).transport = .websocket t) (live : (s.perform op).isLive)
    (there : t.writer.isThere) :
    (s.perform op).buffer = [] ∧
      (s.perform op).framesOn t.id =
        s.framesOn t.id ++ (s.buffer ++ s.accepted [op]).filterMap (Frame.form? t.revision) ∧
      (∀ p ∈ s.buffer ++ s.accepted [op],
        Frame.Crosses p t.revision s.revision ↔
          t.revision = s.revision ∨ p.carriesBytes = false) ∧
      (t.revision = s.revision ∨ (s.id, t.revision) ∈ v.joins moves) := by
  have start : v.Holds (Grown []) := Engine.Holds.of_sessions_nil new distinct
  have grown : Grown (v.joins moves) s := (grown_run start moves).each s mem
  have ⟨o, ops, eq, _⟩ := grown
  have sound : s.Sound := eq ▸ Session.sound_run o ops
  have ⟨empty, frames, carries⟩ :=
    Session.perform_framesOn sound.valid sound.prompt websocket live there
  exact ⟨empty, frames, fun p mem => Frame.crosses_iff (sound.frame_check mem),
    grown.revision carries⟩

-- A client that opens a session in revision 3 and lets a websocket take over in revision 4.

def mixedStart : Server where
  listener := {}
  engine :=
    { config := {}
      idOf := fun n => String.ofList (List.replicate (n + 1) 'a')
      bus := { capacity := 1 } }

def mixedMoves : List Move :=
  [.request
      { method := "GET", target := "/engine.io/?EIO=3&transport=polling", headers := .ofList [] }
      (some []),
    .openSocket
      { method := "GET", target := "/engine.io/?EIO=4&transport=websocket&sid=a"
        headers := .ofList [] },
    .sendOnSocket 0 (.frame (.text "2probe")), .sendOnSocket 0 (.frame (.text "5"))]

theorem distinct_mixedStart (m n : Nat) (h : mixedStart.engine.idOf m = mixedStart.engine.idOf n) :
    m = n :=
  Engine.distinct_of_length (by simp [mixedStart]) m n h

def mixedPacket : Packet :=
  .message (.binary [7])

set_option maxRecDepth 20000 in
theorem exists_mixed_session :
    ∃ s ∈ (mixedStart.run mixedMoves).engine.sessions,
      s.revision = .v3 ∧ s.accepts mixedPacket ∧
        (s.perform (.send mixedPacket)).transport = .websocket { id := 1, revision := .v4 } ∧
        (s.perform (.send mixedPacket)).isLive ∧
        (s.perform (.send mixedPacket)).framesOn 1 = s.framesOn 1 ++ [.binary [7]] := by
  have found : ((mixedStart.run mixedMoves).engine.sessions.any fun s =>
      s.revision = .v3 ∧ s.accepts mixedPacket ∧
        (s.perform (.send mixedPacket)).transport = .websocket { id := 1, revision := .v4 } ∧
        (s.perform (.send mixedPacket)).isLive ∧
        (s.perform (.send mixedPacket)).framesOn 1 = s.framesOn 1 ++ [.binary [7]]) = true := by
    cbv
  obtain ⟨s, mem, h⟩ := List.any_eq_true.mp found
  exact ⟨s, mem, of_decide_eq_true h⟩

-- The bytes of an accepted message leave without the type that revision 3 expects in front of them.
theorem run_not_crosses_mixed :
    ∃ s ∈ (mixedStart.run mixedMoves).engine.sessions, ∃ s' t,
      s.send mixedPacket = .ok s' ∧ s'.isLive ∧ s'.transport = .websocket t ∧ t.writer.isThere ∧
        s'.framesOn t.id = s.framesOn t.id ++ [.binary [7]] ∧
        Frame.decode (.binary [7]) s.revision ≠ .ok mixedPacket.normalized := by
  have ⟨s, mem, revision, accepts, websocket, live, frames⟩ := exists_mixed_session
  have sent := Session.send_of_accepts accepts
  refine ⟨s, mem, _, _, sent, live, websocket, rfl, frames, ?_⟩
  rw [revision]
  exact nofun

theorem run_crosses_iff_mixed :
    ∃ s ∈ (mixedStart.run mixedMoves).engine.sessions,
      mixedPacket ∈ s.accepted [.send mixedPacket] ∧
        (s.perform (.send mixedPacket)).buffer = [] ∧
        (s.perform (.send mixedPacket)).framesOn 1 =
          s.framesOn 1 ++
            (s.buffer ++ s.accepted [.send mixedPacket]).filterMap (Frame.form? .v4) ∧
        (∀ p ∈ s.buffer ++ s.accepted [.send mixedPacket],
          Frame.Crosses p .v4 s.revision ↔ .v4 = s.revision ∨ p.carriesBytes = false) ∧
        (.v4 = s.revision ∨ (s.id, .v4) ∈ mixedStart.joins mixedMoves) := by
  have ⟨s, mem, _, accepts, websocket, live, _⟩ := exists_mixed_session
  have entered : mixedPacket ∈ s.accepted [.send mixedPacket] := by
    simp [Session.accepted, Session.Op.sending?, Option.filter, accepts]
  exact ⟨s, mem, entered,
    run_crosses_iff mixedStart rfl distinct_mixedStart mixedMoves mem (.send mixedPacket) websocket
      live rfl⟩

end Server

end Duplex
