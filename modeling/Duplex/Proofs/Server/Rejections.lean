import Duplex.Proofs.Server.Frames
import Duplex.Proofs.Server.Serving
import Duplex.Proofs.Session.Encodable

-- What a request can do to the sessions of a server, and what it leaves of them when it is rejected.

namespace Duplex

namespace Session

variable {s t : Session}

-- What a session has to say makes no difference to its end.

theorem quiet_enter (s : Session) (state : ReadyState) :
    (s.enter state).quiet = { s.quiet with state } := by
  simp only [enter]
  split
  · next same => rw [← same]; rfl
  · rfl

theorem quiet_dropPending (s : Session) : s.dropPending.quiet = s.quiet.dropPending := by
  have same : s.quiet.pending = s.pending := rfl
  simp only [dropPending, same]
  cases s.pending <;> rfl

theorem quiet_shut (h : s.quiet = t.quiet) : s.shut.quiet = t.shut.quiet := by
  have dropped (s : Session) : ({ s.enter .closing with buffer := [] }.dropPending).quiet =
      { s.quiet with state := .closing, buffer := [] }.dropPending := by
    rw [quiet_dropPending]
    exact congrArg (fun s : Session => { s with buffer := [] }.dropPending) (s.quiet_enter .closing)
  let finish (s : Session) : Session := { s.withTransport s.transport.close with state := .closed }
  have shut (s : Session) :
      s.shut.quiet = finish ({ s.enter .closing with buffer := [] }.dropPending).quiet :=
    quiet_enter _ _
  rw [shut, shut, dropped, dropped, h]

theorem quiet_close (reason : CloseReason) (h : s.quiet = t.quiet) :
    (s.close reason).quiet = (t.close reason).quiet := by
  have same : s.quiet.isLive = t.quiet.isLive := congrArg isLive h
  have same : s.isLive = t.isLive := same
  cases live : s.isLive with
  | false => rw [close_of_not_live reason live, close_of_not_live reason (same ▸ live), h]
  | true =>
    have ⟨_, eq⟩ := close_of_live reason live
    have ⟨_, eq'⟩ := close_of_live reason (same ▸ live)
    rw [eq, eq']
    exact congrArg (fun s : Session => { s with listening := false, cancelled := true })
      (quiet_shut h)

-- One input too many ends a session, and any other is counted.
theorem quiet_recordDecodeError (s : Session) (e : DecodeError) :
    (s.recordDecodeError e).quiet =
      (if s.config.maxDecodeErrors < s.decodeErrors + 1 then
        { s with decodeErrors := s.decodeErrors + 1 }.close .parseError
      else { s with decodeErrors := s.decodeErrors + 1 }).quiet := by
  by_cases exceeded : s.config.maxDecodeErrors < s.decodeErrors + 1
  · have closed : s.recordDecodeError e = (s.countDecodeError e).close .parseError := if_pos exceeded
    rw [closed, if_pos exceeded]
    exact quiet_close .parseError rfl
  · have counted : s.recordDecodeError e = s.countDecodeError e := if_neg exceeded
    rw [counted, if_neg exceeded]
    rfl

end Session

namespace Server

-- What is left of a session that a body was posted to and rejected. A body that is too large leaves
-- all of it, wherever it stops.
def Body.blame (body : Body) (s : Session) : Session :=
  let counted := { s with decodeErrors := s.decodeErrors + 1 }
  if s.config.maxPayload.toNat < body.read.length then s
  else
    match body.failure, Batch.decodeBytes body.read s.revision with
    | some _, _ => s.close .transportError
    | none, .ok _ => s
    | none, .error _ =>
      if s.config.maxDecodeErrors < counted.decodeErrors then counted.close .parseError
      else counted

-- What a session makes of a body that is not too large, and the response.
def Body.deliver (body : Body) (s : Session) (now : Nat) : Http.Response × Session :=
  match body.failure, s.takeBatch body.read now with
  | some reason, _ => (.ofFault (s.breakBody reason).1, (s.breakBody reason).2)
  | none, (.ok (), s) => (.batch "ok", s)
  | none, (.error f, s) => (.ofFault f, s)

section

variable {v : Server} {x : Exchange} {s : Session} {sid : SessionId} {body : Body}

@[simp]
theorem status_dress (extra : Http.Headers) (response : Http.Response) :
    (v.dress extra response).status = response.status := by
  simp only [dress]
  split <;> rfl

theorem le_status_ofFault (f : Fault) : 400 ≤ (Http.Response.ofFault f).status := by
  simp only [Http.Response.ofFault, Http.Response.typed, Fault.status]
  split <;> decide

theorem exchange?_respond (v : Server) (x : Exchange) (response : Http.Response) :
    (v.respond x response).exchange? x.id = none := by
  refine List.find?_eq_none.mpr fun y mem same => ?_
  have other := (List.mem_filter.mp mem).2
  simp_all

-- The answer to a poll is never an error.
theorem pollResponse_of_grown {requests : List (SessionId × Revision)} (h : Grown requests s)
    (poll : PollId) {packets : List Packet}
    (answer : s.answer? poll = some packets ∨ packets = (s.expirePoll poll).1) :
    ∃ body, pollResponse s.revision packets = .batch body := by
  obtain ⟨o, ops, rfl, _⟩ := h
  have ⟨_, _, _, answers⟩ := Session.run_encodable o ops
  have given : packets ∈ (o.session.run ops).answersTo poll ∨
      packets = ((o.session.run ops).expirePoll poll).1 :=
    answer.imp_left fun answered =>
      List.mem_of_mem_head? (Session.answer?_eq_head? _ poll ▸ answered)
  have ⟨body, _, response, _⟩ := answers poll packets given
  exact ⟨body, response⟩

section

variable {requests : List (SessionId × Revision)} {poll : PollId} {deadline : Nat}

theorem runExchange_poll (h : v.Holds (Grown requests)) (work : x.work = .poll sid poll deadline)
    (found : v.session? sid = some s) :
    (v.runExchange x = v ∧ v.now < deadline) ∨
      ∃ body engine, v.runExchange x = { v with engine }.respond x (.batch body) ∧
        Session.OnlyAt sid v.engine.sessions engine.sessions := by
  have grown : Grown requests s := h.of_session? found
  simp only [runExchange, work, found]
  split
  · next answered =>
    obtain ⟨body, response⟩ := pollResponse_of_grown grown poll (.inl answered)
    exact .inr ⟨body, v.engine, by rw [response], .refl⟩
  · split
    · obtain ⟨body, response⟩ := pollResponse_of_grown grown poll (.inr rfl)
      have id : (s.expirePoll poll).2.id = sid :=
        Session.stable_id sid (.expirePoll poll) rfl (Engine.id_of_session? found)
      refine .inr ⟨body, _, ?_, id ▸ v.engine.put_onlyAt (s.expirePoll poll).2⟩
      rw [← response]
      rfl
    · next waits => exact .inl ⟨rfl, by omega⟩

-- A poll has its answer at once, or gets it when its time is up.
theorem awaitPoll_spec (h : v.Holds (Grown requests)) (work : x.work = .poll sid poll deadline)
    (there : ∃ s ∈ v.engine.sessions, s.id = sid) (mem : x ∈ v.exchanges) :
    ∃ response, (v.awaitPoll x deadline).responses = v.responses ++ [(x.id, response)] ∧
      response.status < 400 ∧
      Session.OnlyAt sid v.engine.sessions (v.awaitPoll x deadline).engine.sessions := by
  obtain ⟨s, found⟩ := Engine.session?_of_mem there
  have fine (body : String) : (v.dress x.extra (.batch body)).status < 400 := by
    simp [Http.Response.batch, Http.Response.typed]
  simp only [awaitPoll]
  obtain ⟨waits, _⟩ | ⟨body, engine, answered, only⟩ := runExchange_poll h work found
  · have open_ : (v.exchange? x.id).isNone = false := by
      rw [Option.isNone_eq_false_iff, exchange?, List.find?_isSome]
      exact ⟨x, mem, decide_eq_true rfl⟩
    let late : Server := { v with now := max v.now deadline }
    have later : late.Holds (Grown requests) := h
    have found' : late.session? sid = some s := found
    simp only [waits, open_, Bool.false_eq_true, ↓reduceIte]
    obtain ⟨_, early⟩ | ⟨body, engine, answered, only⟩ := runExchange_poll later work found'
    · exact absurd early (Nat.not_lt.mpr (Nat.le_max_right ..))
    · rw [answered]
      exact ⟨_, rfl, fine body, only⟩
  · simp only [answered, exchange?_respond, Option.isNone_none, ↓reduceIte]
    exact ⟨_, rfl, fine body, only⟩

end

-- A body that is not too large is kept until all of it was read.
theorem extendBody_of_fits (work : x.work = .upload s.id []) (found : v.session? s.id = some s)
    (mem : x ∈ v.exchanges) {data : Bytes} (fits : data.length ≤ s.config.maxPayload.toNat) :
    ∃ exchanges y, v.extendBody x data = { v with exchanges } ∧
      { v with exchanges }.exchange? x.id = some y ∧ y.id = x.id ∧ y.work = .upload s.id data := by
  let keep (y : Exchange) : Exchange :=
    if y.id = x.id then { y with work := .upload s.id data } else y
  have kept : v.extendBody x data = { v with exchanges := v.exchanges.map keep } := by
    simp only [extendBody, work, found, List.nil_append, Nat.not_lt.mpr fits, ↓reduceIte]
    rfl
  have there : ((v.exchanges.map keep).find? (·.id = x.id)).isSome := by
    rw [List.find?_isSome]
    exact ⟨keep x, List.mem_map_of_mem mem, by simp [keep]⟩
  obtain ⟨y, first⟩ := Option.isSome_iff_exists.mp there
  have same : y.id = x.id := by simpa using List.find?_some first
  obtain ⟨z, _, rfl⟩ := List.mem_map.mp (List.mem_of_find?_eq_some first)
  refine ⟨_, keep z, kept, first, same, ?_⟩
  by_cases is : z.id = x.id
  · simp [keep, is]
  · simp [keep, is] at same

theorem readBody_of_fits (work : x.work = .upload s.id []) (found : v.session? s.id = some s)
    (mem : x ∈ v.exchanges) (fits : body.read.length ≤ s.config.maxPayload.toNat) :
    ∃ exchanges y, y.id = x.id ∧ v.readBody x body =
      ({ v with exchanges }.put (body.deliver s v.now).2).respond y (body.deliver s v.now).1 := by
  obtain ⟨exchanges, y, kept, there, same, work'⟩ := extendBody_of_fits work found mem fits
  have found' : { v with exchanges }.session? s.id = some s := found
  refine ⟨exchanges, y, same, ?_⟩
  cases failure : body.failure with
  | some reason => simp only [readBody, Body.deliver, kept, there, failure, breakBody, work', found']
  | none =>
    simp only [readBody, Body.deliver, kept, there, failure, endBody, work', found']
    split <;> simp_all

theorem readBody_of_large (work : x.work = .upload s.id []) (found : v.session? s.id = some s)
    (large : s.config.maxPayload.toNat < body.read.length) :
    v.readBody x body = (v.put s.refuseBody.2).respond x (.ofFault s.refuseBody.1) := by
  have refused : v.extendBody x body.read =
      (v.put s.refuseBody.2).respond x (.ofFault s.refuseBody.1) := by
    simp only [extendBody, work, found, List.nil_append, large, ↓reduceIte]
  simp only [readBody, refused, exchange?_respond]

theorem id_deliver (body : Body) (s : Session) (now : Nat) : (body.deliver s now).2.id = s.id := by
  have taken := (Session.stable_id s.id).takeBatch rfl body.read now
  simp only [Body.deliver]
  split
  · exact (Session.stable_id s.id).breakBody rfl _
  · next eq =>
    rw [eq] at taken
    exact taken
  · next eq =>
    rw [eq] at taken
    exact taken

theorem blame_of_large (large : s.config.maxPayload.toNat < body.read.length) :
    body.blame s = s := by
  simp only [Body.blame, large, ↓reduceIte]

-- What a session makes of a body and answers with an error is no more than what it is to blame for.
theorem quiet_deliver (fits : body.read.length ≤ s.config.maxPayload.toNat) {now : Nat}
    (bad : 400 ≤ (body.deliver s now).1.status) :
    (body.deliver s now).2.quiet = (body.blame s).quiet := by
  simp only [Body.blame, Nat.not_lt.mpr fits, ↓reduceIte]
  cases failure : body.failure with
  | some reason =>
    simp only [Body.deliver, failure]
    exact Session.quiet_close .transportError rfl
  | none =>
    cases decoded : Batch.decodeBytes body.read s.revision with
    | ok packets =>
      simp [Body.deliver, failure, Session.takeBatch, decoded, Http.Response.batch,
        Http.Response.typed] at bad
    | error e =>
      simp only [Body.deliver, failure, Session.takeBatch, decoded]
      exact Session.quiet_recordDecodeError s e

-- The session that a body was posted to, and the response.
theorem readBody_spec (work : x.work = .upload s.id []) (found : v.session? s.id = some s)
    (mem : x ∈ v.exchanges) (body : Body) :
    ∃ response t, (v.readBody x body).responses = v.responses ++ [(x.id, response)] ∧
      (v.readBody x body).engine = v.engine.put t ∧ t.id = s.id ∧
      (s.config.maxPayload.toNat < body.read.length → 400 ≤ response.status) ∧
      (400 ≤ response.status → t.quiet = (body.blame s).quiet) := by
  by_cases large : s.config.maxPayload.toNat < body.read.length
  · have bad : 400 ≤ (v.dress x.extra (.ofFault s.refuseBody.1)).status := by
      rw [status_dress]
      exact le_status_ofFault _
    rw [readBody_of_large work found large, blame_of_large large]
    exact ⟨_, s.refuseBody.2, rfl, rfl, rfl, fun _ => bad, fun _ => rfl⟩
  · have fits := Nat.not_lt.mp large
    obtain ⟨exchanges, y, same, done⟩ := readBody_of_fits work found mem fits
    rw [done]
    refine ⟨v.dress y.extra (body.deliver s v.now).1, (body.deliver s v.now).2, ?_, rfl,
      id_deliver body s v.now, fun l => absurd l large, fun bad => ?_⟩
    · rw [← same]
      rfl
    · rw [status_dress] at bad
      exact quiet_deliver fits bad

end

section

variable {v : Server} {P : Session → Prop}

theorem openWebsocket_spec (h : v.Holds P) (revision : Revision) :
    (v.openWebsocket revision).responses = v.responses ∧
      ∃ s, (v.openWebsocket revision).engine.sessions = v.engine.sessions ++ [s] := by
  let e : Engine := { v.engine with transports := v.engine.transports + 1 }
  have counted : e.Holds P := Engine.Holds.of_eq h rfl rfl
  have ⟨registry, bus, metrics, eq⟩ :=
    counted.openSession_eq revision v.engine.transports (some .present) v.now
  let transport : Transport := .websocket { id := v.engine.transports, revision }
  obtain ⟨watches, sockets, adopted⟩ := adopt_eq
    { v with engine := (e.openSession revision transport v.now).2 }
    (e.openSession revision transport v.now).1
  have opened : v.openWebsocket revision =
      ({ v with engine := (e.openSession revision transport v.now).2, watches, sockets }).connect
        (e.openSession revision transport v.now).1 v.engine.transports .carrying := by
    rw [← adopted]
    rfl
  rw [opened]
  exact ⟨rfl, _, congrArg (·.sessions) eq⟩

theorem joinWebsocket_spec (v : Server) (revision : Revision) (sid : SessionId) :
    (v.joinWebsocket revision sid).responses = v.responses ∧
      Session.OnlyAt sid v.engine.sessions (v.joinWebsocket revision sid).engine.sessions := by
  simp only [joinWebsocket, Engine.newTransport]
  split
  · exact ⟨rfl, .refl⟩
  · next s found =>
    have is : s.id = sid := Engine.id_of_session? (Engine.session?_of_lookup found)
    have changes := Session.perform_changes s (.beginUpgrade v.engine.transports revision .present)
    have same := (congrArg (·.1) changes.identity).trans is
    simp only [Session.perform] at same
    split
    all_goals
      next t eq =>
        rw [eq] at same
        exact ⟨rfl, same ▸ Engine.put_onlyAt _ t⟩

-- How a request is served: with which response, and what becomes of the engine.
inductive Served (v : Server) (r : Http.Request) (body : Body) (response : Http.Response) :
    Engine → Prop
  | answered (unposted : ∀ s, ¬v.Posts r s) : Served v r body response v.engine
  | opens {e : Engine} {s : Session} (unnamed : r.asked.session = none)
    (unposted : ∀ s, ¬v.Posts r s) (fine : response.status < 400)
    (opened : e.sessions = v.engine.sessions ++ [s]) : Served v r body response e
  | uses {e : Engine} {sid : SessionId} (named : r.asked.session = some sid)
    (unposted : ∀ s, ¬v.Posts r s) (fine : response.status < 400)
    (only : Session.OnlyAt sid v.engine.sessions e.sessions) : Served v r body response e
  | posted {s t : Session} (posts : v.Posts r s) (same : t.id = s.id)
    (large : s.config.maxPayload.toNat < body.read.length → 400 ≤ response.status)
    (blamed : 400 ≤ response.status → t.quiet = (body.blame s).quiet) :
    Served v r body response (v.engine.put t)

theorem serve_spec {requests : List (SessionId × Revision)} (h : v.Holds (Grown requests))
    (r : Http.Request) (upgradable : Bool) (body : Body) :
    ∃ response, (v.serve r upgradable body).responses = v.responses ++ [(v.requests + 1, response)] ∧
      Served v r body response (v.serve r upgradable body).engine := by
  let c : Server := { v with requests := v.requests + 1 }
  have counted : c.Holds (Grown requests) := h
  by_cases posted : ∃ s, v.Posts r s
  · obtain ⟨s, posts⟩ := posted
    obtain ⟨extra, served⟩ := posts.serve upgradable body
    let x : Exchange := { id := v.requests + 1, extra, work := .upload s.id [] }
    have found : (c.startExchange x).session? s.id = some s := Engine.session?_of_lookup posts.found
    have mem : x ∈ (c.startExchange x).exchanges := List.mem_concat_self
    obtain ⟨response, t, answered, engine, same, large, blamed⟩ := readBody_spec rfl found mem body
    rw [served, answered, engine]
    exact ⟨response, rfl, .posted posts same large blamed⟩
  · have unposted : ∀ s, ¬v.Posts r s := fun s posts => posted ⟨s, posts⟩
    have handled := Handled.handle counted r upgradable
    have grown := Holds.handle Grown.stable Grown.session counted r upgradable
    obtain ⟨verdict, extra, v', eq⟩ :
        ∃ verdict extra v', c.handle r upgradable = (verdict, extra, v') := ⟨_, _, _, rfl⟩
    have eq' : { v with requests := v.requests + 1 }.handle r upgradable = (verdict, extra, v') := eq
    rw [eq] at handled grown
    dsimp only at handled grown
    simp only [serve, eq']
    cases handled with
    | answered response => exact ⟨response, rfl, .answered unposted⟩
    | @opens engine watches sockets s poll deadline _ unnamed opened fresh =>
      let x : Exchange := { id := v.requests + 1, extra, work := .poll s.id poll deadline }
      let w := { c with engine, watches, sockets }.startExchange x
      have held : w.Holds (Grown requests) := grown
      have there : ∃ t ∈ w.engine.sessions, t.id = s.id :=
        ⟨s, opened ▸ List.mem_concat_self, rfl⟩
      obtain ⟨response, answered, fine, only⟩ :=
        awaitPoll_spec held (x := x) rfl there List.mem_concat_self
      have only : Session.OnlyAt s.id (v.engine.sessions ++ [s])
        (w.awaitPoll x deadline).engine.sessions := opened ▸ only
      obtain ⟨t, _, sessions⟩ := only.eq_append fresh
      exact ⟨response, answered, .opens unnamed unposted fine sessions⟩
    | @polls s s' poll deadline _ named found registered =>
      let x : Exchange := { id := v.requests + 1, extra, work := .poll s.id poll deadline }
      let w := (c.put s').startExchange x
      have held : w.Holds (Grown requests) := grown
      have found := Engine.session?_of_lookup found
      have same : s'.id = s.id := (Session.stable_id s.id).registerPoll registered rfl
      have put : Session.OnlyAt s.id v.engine.sessions w.engine.sessions :=
        same ▸ c.engine.put_onlyAt s'
      have there : ∃ t ∈ w.engine.sessions, t.id = s.id :=
        put.exists_mem ⟨s, Engine.mem_of_session? found, rfl⟩
      obtain ⟨response, answered, fine, only⟩ :=
        awaitPoll_spec held (x := x) rfl there List.mem_concat_self
      exact ⟨response, answered, .uses named unposted fine (put.trans only)⟩
    | uploads posts => exact absurd ((posts_requests_iff _).mp posts) (unposted _)
    | switches asks =>
      have fine : (c.dress extra .switching).status < 400 := by
        rw [status_dress]
        decide
      cases named : r.asked.session with
      | none =>
        obtain ⟨kept, s, opened⟩ := openWebsocket_spec counted _
        exact ⟨_, congrArg (· ++ _) kept, .opens named unposted fine opened⟩
      | some sid =>
        obtain ⟨kept, only⟩ := joinWebsocket_spec c _ sid
        exact ⟨_, congrArg (· ++ _) kept, .uses named unposted fine only⟩

namespace Served

variable {r : Http.Request} {body : Body} {response : Http.Response} {e : Engine}

theorem onlyAt (h : Served v r body response e) {sid : SessionId}
    (named : r.asked.session = some sid) : Session.OnlyAt sid v.engine.sessions e.sessions := by
  cases h with
  | answered => exact .refl
  | opens unnamed => simp [unnamed] at named
  | uses named' _ _ only =>
    obtain rfl := Option.some.inj (named'.symm.trans named)
    exact only
  | @posted s t posts same =>
    obtain rfl := Option.some.inj (posts.named.symm.trans named)
    exact same ▸ v.engine.put_onlyAt t

theorem exists_opened (h : Served v r body response e) (unnamed : r.asked.session = none) :
    ∃ opened, e.sessions = v.engine.sessions ++ opened ∧ opened.length ≤ 1 := by
  cases h with
  | answered => exact ⟨[], (List.append_nil _).symm, Nat.zero_le 1⟩
  | @opens e s _ _ _ opened => exact ⟨[s], opened, Nat.le_refl 1⟩
  | uses named => simp [unnamed] at named
  | posted posts => exact absurd (posts.named.symm.trans unnamed) nofun

-- A request that is rejected before its body is read changes nothing.
theorem eq_engine (h : Served v r body response e) (bad : 400 ≤ response.status)
    (unposted : ∀ s, ¬v.Posts r s) : e = v.engine := by
  cases h with
  | answered => rfl
  | opens _ _ fine | uses _ _ fine => exact absurd bad (Nat.not_le.mpr fine)
  | posted posts => exact absurd posts (unposted _)

theorem of_posts (h : Served v r body response e) {s : Session} (posts : v.Posts r s) :
    (s.config.maxPayload.toNat < body.read.length → 400 ≤ response.status) ∧
      (400 ≤ response.status → e.registry = v.engine.registry ∧
        e.sessions.map Session.quiet =
          v.engine.sessions.map fun old =>
            (if old.id = s.id then body.blame s else old).quiet) := by
  cases h with
  | answered unposted | opens _ unposted | uses _ unposted => exact absurd posts (unposted s)
  | @posted s' t posts' same large blamed =>
    obtain rfl := posts'.unique posts
    refine ⟨large, fun bad => ⟨v.engine.registry_put t, ?_⟩⟩
    rw [v.engine.quiet_put t, same]
    refine List.map_congr_left fun old _ => ?_
    split
    · exact blamed bad
    · rfl

end Served

theorem serve_of_refused {r : Http.Request} {upgradable : Bool} {body : Body}
    (refused : (Http.Hook.runAll v.hooks { request := r, query := r.asked }).2 ≠ .ok ()) :
    (v.serve r upgradable body).engine = v.engine := by
  obtain ⟨response, handled⟩ :=
    handle_of_refused (v := { v with requests := v.requests + 1 }) refused upgradable
  simp only [serve, handled]
  rfl

end

-- Whatever a request is answered, while nothing else runs, it changes no session but the one that
-- it names, or opens one. If the answer is an error, it changes none at all, unless a body was read.
theorem serve_rejected_intact (start : Server) (new : start.engine.sessions = [])
    (distinct : ∀ m n, start.engine.idOf m = start.engine.idOf n → m = n) (moves : List Move)
    (r : Http.Request) (upgradable : Bool) (body : Body) :
    let v := start.run moves
    let v' := v.serve r upgradable body
    (∃ response, v'.responses = v.responses ++ [(v.requests + 1, response)] ∧
      (400 ≤ response.status →
        v'.engine.registry = v.engine.registry ∧
        ((∀ s, ¬v.Posts r s) → v'.engine = v.engine) ∧
        ∀ s, v.Posts r s →
          v'.engine.sessions.map Session.quiet =
            v.engine.sessions.map fun old => (if old.id = s.id then body.blame s else old).quiet)) ∧
      ((Http.Hook.runAll v.hooks { request := r, query := r.asked }).2 ≠ .ok () →
        v'.engine = v.engine) ∧
      (∀ s, v.Posts r s → s.config.maxPayload.toNat < body.read.length →
        v'.engine.registry = v.engine.registry ∧
          v'.engine.sessions.map Session.quiet = v.engine.sessions.map Session.quiet) ∧
      (∀ sid, r.asked.session = some sid →
        Session.OnlyAt sid v.engine.sessions v'.engine.sessions) ∧
      (r.asked.session = none →
        ∃ opened, v'.engine.sessions = v.engine.sessions ++ opened ∧ opened.length ≤ 1) := by
  intro v v'
  have grown : v.Holds (Grown ([] ++ start.joins moves)) :=
    grown_run (Engine.Holds.of_sessions_nil new distinct) moves
  obtain ⟨response, answered, served⟩ := serve_spec grown r upgradable body
  refine ⟨⟨response, answered, fun bad => ⟨?_, served.eq_engine bad, fun s posts =>
    ((served.of_posts posts).2 bad).2⟩⟩, serve_of_refused, fun s posts large => ?_,
    fun sid named => served.onlyAt named, served.exists_opened⟩
  · by_cases posted : ∃ s, v.Posts r s
    · obtain ⟨s, posts⟩ := posted
      exact ((served.of_posts posts).2 bad).1
    · rw [served.eq_engine bad fun s posts => posted ⟨s, posts⟩]
  · obtain ⟨rejected, left⟩ := served.of_posts posts
    obtain ⟨registry, sessions⟩ := left (rejected large)
    refine ⟨registry, sessions.trans (List.map_congr_left fun old mem => ?_)⟩
    rw [blame_of_large large]
    split
    · next same =>
      have there : s ∈ v.engine.sessions :=
        Engine.mem_of_session? (Engine.session?_of_lookup posts.found)
      rw [grown.eq_of_id mem there same]
    · rfl

-- A client that opens a session on polling and then posts to it what is no batch.

def pollingMoves : List Move :=
  [.request
      { method := "GET", target := "/engine.io/?EIO=3&transport=polling", headers := .ofList [] }
      (some [])]

def strayPost : Http.Request where
  method := "POST"
  target := "/engine.io/?EIO=3&transport=polling&sid=a"
  headers := .ofList []

def strayBody : Body where
  read := [120]

theorem asked_strayPost : strayPost.asked =
    { revision := some "3", transport := some "polling", session := some "a" } := by
  cbv

set_option maxRecDepth 20000 in
theorem exists_posts_strayPost :
    ∃ s, (mixedStart.run pollingMoves).Posts strayPost s ∧
      strayBody.blame s = { s with decodeErrors := 1 } := by
  have facts : (fun v : Server =>
      ((v.engine.lookup "a").toOption.any fun s =>
        s.id = "a" ∧ s.admitUpload = .ok () ∧
          strayBody.blame s = { s with decodeErrors := 1 }) ∧
        Http.Route.find? v.listener.path v.withMetrics strayPost = some .engine ∧
        v.hooks = [] ∧ v.config = {}) (mixedStart.run pollingMoves) := by
    cbv
  obtain ⟨found, route, hooks, config⟩ := facts
  cases looked : (mixedStart.run pollingMoves).engine.lookup "a" with
  | error f => simp [looked, Except.toOption] at found
  | ok s =>
    simp only [looked, Except.toOption, Option.any_some, decide_eq_true_eq] at found
    obtain ⟨is, takes, blamed⟩ := found
    have posts : (mixedStart.run pollingMoves).Posts strayPost s :=
      { route
        admitted := by rw [hooks]; rfl
        method := rfl
        polling := by rw [asked_strayPost, config]; rfl
        revision := ⟨.v3, by rw [asked_strayPost]; rfl⟩
        named := by rw [asked_strayPost, is]
        found := is ▸ looked
        takes }
    exact ⟨s, posts, blamed⟩

set_option maxRecDepth 20000 in
theorem status_strayPost :
    ((mixedStart.run pollingMoves).serve strayPost false strayBody).responses.getLast?.map
      (·.2.status) = some 400 := by
  cbv

theorem serve_rejected_intact_strayPost :
    let v := mixedStart.run pollingMoves
    let v' := v.serve strayPost false strayBody
    ∃ s, v.Posts strayPost s ∧ v'.engine.registry = v.engine.registry ∧
      v'.engine.sessions.map Session.quiet =
        v.engine.sessions.map fun old =>
          (if old.id = s.id then { s with decodeErrors := 1 } else old).quiet := by
  obtain ⟨s, posts, blamed⟩ := exists_posts_strayPost
  obtain ⟨⟨response, answered, rejected⟩, _⟩ :=
    serve_rejected_intact mixedStart rfl distinct_mixedStart pollingMoves strayPost false strayBody
  have last := status_strayPost
  rw [answered, List.getLast?_concat] at last
  have bad : response.status = 400 := Option.some.inj last
  obtain ⟨registry, _, sessions⟩ := rejected (Nat.le_of_eq bad.symm)
  exact ⟨s, posts, registry, blamed ▸ sessions s posts⟩

end Server

end Duplex
