import Duplex.Proofs.Session.Vigil

-- The watch sleeps to a deadline that may be out of date when it wakes, and still gives a session up
-- at one instant only: when the client has been silent for as long as it may. The pings that it sends
-- make no difference.

namespace Duplex

namespace Vigil

-- A watch over a session that lives, whose client was last heard at `l`. It wakes in time.
structure Alert (o : Session.Origin) (l : Nat) (v : Vigil) : Prop where
  reached : Reached o v
  goes : v.ended = none
  live : v.session.isLive
  heard : v.session.lastHeartbeat = l
  past : l ≤ v.now
  awakes : v.now ≤ v.watch.wake
  behind : v.watch.wake ≤ l + o.config.grace

namespace Alert

variable {o : Session.Origin} {l h : Nat} {v : Vigil} {closings : List Nat}

theorem deadline (a : Alert o l v) : v.session.deadline = l + o.config.grace := by
  rw [Session.deadline, a.heard, a.reached.config]

theorem working (a : Alert o l v) : v.session.cancelled = false := by
  simp [a.reached.cancelled, a.live]

-- An operation that leaves the session alive may put the deadline off.
theorem operate (a : Alert o l v) (op : Session.Op)
    (live : (v.perform (.operate op)).session.isLive) :
    Alert o (if op.beats then v.now else l) (v.perform (.operate op)) where
  reached := a.reached.perform (.operate op)
  goes := a.goes
  live := live
  heard := by
    refine (v.session.lastHeartbeat_perform op v.now).trans ?_
    rw [a.heard]
  past := by
    split
    · exact Nat.le_refl _
    · exact a.past
  awakes := a.awakes
  behind := by
    split
    · exact Nat.le_trans a.behind (Nat.add_le_add_right a.past _)
    · exact a.behind

theorem tick {now : Nat} (a : Alert o l v) (past : v.now ≤ now) (awakes : now ≤ v.watch.wake) :
    Alert o l { v with now } :=
  ⟨a.reached, a.goes, a.live, a.heard, Nat.le_trans a.past past, awakes, a.behind⟩

end Alert

-- A watch that has sent so many pings, each when it was due, and has not missed the next one.
structure Paced (o : Session.Origin) (n : Nat) (v : Vigil) : Prop where
  pings : v.pings = (List.range n).map fun k => o.pingTime (k + 1)
  sent : o.pingTime n ≤ v.last
  early : v.last ≤ o.pingTime (n + 1)
  next : v.ended = none → v.watch.nextPing = o.pingTime (n + 1)

section

variable {o : Session.Origin} {v : Vigil} {n : Nat}

theorem last_of_none (goes : v.ended = none) : v.last = v.now := by
  simp [last, goes]

theorem pinged_eq (r : Reached o v) :
    v.pinged =
      if v.session.isLive ∧ o.revision = .v4 ∧ v.watch.nextPing ≤ v.now then [v.now] else [] := by
  have pings : v.session.revision.serverPings = decide (o.revision = .v4) := by
    rw [r.revision]
    cases o.revision <;> rfl
  cases live : v.session.isLive with
  | false => simp [pinged, r.cancelled, live]
  | true =>
    simp [pinged, r.cancelled, live, Watch.pingsAt, pings, Session.accepts_ping live,
      Bool.and_eq_true]

-- What a look makes of the pings.
theorem Paced.pinged (p : Paced o n v) (r : Reached o v) (v4 : o.revision = .v4)
    (pos : 0 < o.config.pingInterval.toNat) (goes : v.ended = none) (live : v.session.isLive) :
    ∃ n', v.pings ++ v.pinged = ((List.range n').map fun k => o.pingTime (k + 1)) ∧
      o.pingTime n' ≤ v.now ∧ v.now < o.pingTime (n' + 1) ∧
      (if v.watch.pingsAt v.session v.now then v.watch.nextPing + Watch.interval v.session
        else v.watch.nextPing) = o.pingTime (n' + 1) := by
  have now := last_of_none goes
  have next := p.next goes
  have due : v.watch.pingsAt v.session v.now = decide (o.pingTime (n + 1) ≤ v.now) := by
    rw [Watch.pingsAt, r.revision, v4, next]
    rfl
  have interval : Watch.interval v.session = o.config.pingInterval.toNat := by
    rw [Watch.interval, r.config]
  simp only [pinged_eq r, live, v4, true_and, next, due, decide_eq_true_eq, interval]
  by_cases ping : o.pingTime (n + 1) ≤ v.now
  · have exact_ : v.now = o.pingTime (n + 1) := Nat.le_antisymm (now ▸ p.early) ping
    refine ⟨n + 1, ?_, ping, ?_, ?_⟩
    · rw [if_pos ping, p.pings, List.range_succ, List.map_append, exact_]
      rfl
    · rw [o.pingTime_succ (n + 1), exact_]
      exact Nat.lt_add_of_pos_right pos
    · rw [if_pos ping, o.pingTime_succ (n + 1)]
  · refine ⟨n, ?_, now ▸ p.sent, Nat.not_le.mp ping, if_neg ping⟩
    rw [if_neg ping, List.append_nil, p.pings]

theorem Paced.look (p : Paced o n v) (r : Reached o v) (v4 : o.revision = .v4)
    (pos : 0 < o.config.pingInterval.toNat) :
    ∃ n', Paced o n' v.look ∧
      (v.look.ended = none → v.look.watch.nextPing = o.pingTime (n' + 1) ∧
        v.now < o.pingTime (n' + 1)) := by
  cases goes : v.ended with
  | some e =>
    rw [look_of_ended goes]
    exact ⟨n, p, by simp [goes]⟩
  | none =>
    have now := last_of_none goes
    cases live : v.session.isLive with
    | false =>
      have cancelled : v.session.cancelled := by simp [r.cancelled, live]
      rw [look_of_none goes (Watch.run_of_cancelled cancelled)]
      refine ⟨n, ⟨?_, now ▸ p.sent, now ▸ p.early, nofun⟩, nofun⟩
      simp [pinged_eq r, live, p.pings]
    | true =>
      obtain ⟨n', pings, sent, early, next⟩ := p.pinged r v4 pos goes live
      cases run : v.watch.run v.session v.now with
      | mk w s =>
        cases w with
        | none =>
          rw [look_of_none goes run]
          exact ⟨n', ⟨pings, sent, Nat.le_of_lt early, nofun⟩, nofun⟩
        | some w =>
          rw [look_of_some goes run]
          have last : { v with session := s, watch := w, pings := v.pings ++ v.pinged }.last = v.now :=
            last_of_none goes
          have upcoming := (Watch.nextPing_run run).2.trans next
          refine ⟨n', ⟨pings, ?_, ?_, fun _ => upcoming⟩, fun _ => ⟨upcoming, early⟩⟩
          · exact last.symm ▸ sent
          · exact last.symm ▸ Nat.le_of_lt early

theorem Paced.perform (p : Paced o n v) (r : Reached o v) (v4 : o.revision = .v4)
    (pos : 0 < o.config.pingInterval.toNat) (a : Act) : ∃ n', Paced o n' (v.perform a) := by
  cases a with
  | operate op => exact ⟨n, p.pings, p.sent, p.early, p.next⟩
  | look =>
    obtain ⟨n', paced, _⟩ := p.look r v4 pos
    exact ⟨n', paced⟩
  | tick =>
    obtain ⟨n', paced, ahead⟩ := p.look r v4 pos
    cases goes : v.look.ended with
    | some e =>
      have last : (v.perform .tick).last = v.look.last := by simp [last, Vigil.perform, goes]
      exact ⟨n', paced.pings, last ▸ paced.sent, last ▸ paced.early, paced.next⟩
    | none =>
      have last : (v.perform .tick).last = v.now + 1 := last_of_none goes
      have before : v.look.last = v.now := (last_of_none goes).trans v.now_look
      obtain ⟨next, early⟩ := ahead goes
      exact ⟨n', paced.pings, last ▸ Nat.le_succ_of_le (before ▸ paced.sent), last ▸ early,
        fun _ => next⟩

theorem Paced.run (p : Paced o n v) (r : Reached o v) (v4 : o.revision = .v4)
    (pos : 0 < o.config.pingInterval.toNat) (acts : List Act) : ∃ n', Paced o n' (v.run acts) := by
  induction acts generalizing n v with
  | nil => exact ⟨n, p⟩
  | cons a acts ih =>
    obtain ⟨n', p'⟩ := p.perform r v4 pos a
    exact ih p' (r.perform a)

end

end Vigil

section

variable (o : Session.Origin)

theorem Session.Origin.reached : Vigil.Reached o o.vigil :=
  ⟨[], rfl⟩

theorem Session.Origin.paced : Vigil.Paced o 0 o.vigil where
  pings := rfl
  sent := by simp [pingTime, Vigil.last, vigil]
  early := by simp [pingTime, Vigil.last, vigil]
  next _ := by
    have config : o.session.config = o.config := o.reached.config
    simp [vigil, Watch.ofSession, Watch.interval, config, pingTime]

end

namespace Vigil

end Vigil

end Duplex
