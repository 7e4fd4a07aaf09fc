import Duplex.Proofs.Server.Run

-- A request from its arrival to its answer, while nothing else runs. What becomes of it falls into
-- a few cases, and each of them says which session it is about.

namespace Duplex

-- What a request asks for.
def Http.Request.asked (r : Http.Request) : Http.Query :=
  (Http.Query.ofChars? r.query).getD {}

namespace Session

-- All of a session but what it still has to say.
def quiet (s : Session) : Session :=
  { s with signals := [] }

-- Between two lists of sessions only the one with an id may differ.
def OnlyAt (sid : SessionId) (before after : List Session) : Prop :=
  ∃ f : Session → Session, after = before.map f ∧
    ∀ s, (f s).id = s.id ∧ (s.id ≠ sid → f s = s)

namespace OnlyAt

variable {sid : SessionId} {ss ss' ss'' : List Session}

theorem refl : OnlyAt sid ss ss :=
  ⟨_, (List.map_id ss).symm, fun _ => ⟨rfl, fun _ => rfl⟩⟩

theorem trans (h : OnlyAt sid ss ss') (h' : OnlyAt sid ss' ss'') : OnlyAt sid ss ss'' := by
  obtain ⟨f, rfl, keeps⟩ := h
  obtain ⟨g, rfl, keeps'⟩ := h'
  refine ⟨g ∘ f, List.map_map, fun s => ⟨(keeps' (f s)).1.trans (keeps s).1, fun other => ?_⟩⟩
  rw [Function.comp, (keeps s).2 other, (keeps' s).2 other]

theorem exists_mem (h : OnlyAt sid ss ss') {id : SessionId} (there : ∃ s ∈ ss, s.id = id) :
    ∃ s ∈ ss', s.id = id := by
  obtain ⟨f, rfl, keeps⟩ := h
  obtain ⟨s, mem, same⟩ := there
  exact ⟨f s, List.mem_map_of_mem mem, (keeps s).1.trans same⟩

-- A session that has just come last is the only one that can differ.
theorem eq_append {s : Session} (h : OnlyAt s.id (ss ++ [s]) ss')
    (fresh : ∀ old ∈ ss, old.id ≠ s.id) : ∃ t, t.id = s.id ∧ ss' = ss ++ [t] := by
  obtain ⟨f, rfl, keeps⟩ := h
  have kept : ss.map f = ss :=
    (List.map_congr_left fun old mem => (keeps old).2 (fresh old mem)).trans (List.map_id ss)
  exact ⟨f s, (keeps s).1, by rw [List.map_append, kept]; rfl⟩

end OnlyAt

-- A poll is let in by a session that lives on polling and has none.
theorem registerPoll_of_free {s : Session} {t : Polling} (live : s.isLive)
    (polling : s.transport = .polling t) (free : t.hasLivePoll = false) :
    ∃ s', s.registerPoll = .ok (s.polls, s') := by
  simp [registerPoll, live, polling, Polling.register?, free]

-- A session that has just opened on polling has no poll yet.
theorem Origin.registerPoll_session (o : Origin) (polls : o.writer? = none) :
    ∃ s, o.session.quiet.registerPoll = .ok (o.session.polls, s) := by
  have opens : o.transport = .polling { id := o.tid } := by simp [Origin.transport, polls]
  have transport : o.session.transport = .polling { id := o.tid } := by
    rw [session, start, flush_of_not_writable, transport_enter]
    · exact opens
    · rw [transport_enter]
      exact congrArg Transport.writable opens
  have live : o.session.isLive = true := isLive_of_established (by simp [session, start])
  exact registerPoll_of_free (s := o.session.quiet) live transport rfl

end Session

namespace Engine

theorem put_onlyAt (e : Engine) (s : Session) :
    Session.OnlyAt s.id e.sessions (e.put s).sessions := by
  have ⟨_, _, eq⟩ := e.put_eq s
  rw [eq]
  refine ⟨_, rfl, fun old => ⟨?_, fun other => if_neg other⟩⟩
  split
  · next same => exact same.symm
  · rfl

theorem quiet_put (e : Engine) (s : Session) :
    (e.put s).sessions.map Session.quiet =
      e.sessions.map fun old => (if old.id = s.id then s else old).quiet := by
  have ⟨_, _, eq⟩ := e.put_eq s
  rw [eq, List.map_map]
  refine List.map_congr_left fun old _ => ?_
  simp only [Function.comp]
  split <;> rfl

end Engine

namespace Server

-- What comes of the body of a request, and why the rest of it does not come.
structure Body where
  read : Bytes := []
  failure : Option String := none
  deriving DecidableEq, Repr

-- A body is read as far as it comes.
def readBody (v : Server) (x : Exchange) (body : Body) : Server :=
  let v := v.extendBody x body.read
  match v.exchange? x.id, body.failure with
  | none, _ => v
  | some x, none => v.endBody x
  | some x, some reason => v.breakBody x reason

-- A poll that is not answered at once waits until its time is up.
def awaitPoll (v : Server) (x : Exchange) (deadline : Nat) : Server :=
  let asked := v.runExchange x
  if (asked.exchange? x.id).isNone then asked
  else { asked with now := max asked.now deadline }.runExchange x

def finish (v : Server) (x : Exchange) (body : Body) : Server :=
  match x.work with
  | .poll _ _ deadline => v.awaitPoll x deadline
  | .upload _ _ => v.readBody x body

-- The connection of a request becomes a websocket.
def switchTo (v : Server) (revision : Revision) : Option SessionId → Server
  | none => v.openWebsocket revision
  | some sid => v.joinWebsocket revision sid

-- A request is served to its end before anything else happens.
def serve (v : Server) (r : Http.Request) (upgradable : Bool) (body : Body) : Server :=
  let id := v.requests + 1
  match { v with requests := id }.handle r upgradable with
  | (.answered response, _, v) => v.answer id response
  | (.waiting work, extra, v) =>
    let x : Exchange := { id, extra, work }
    (v.startExchange x).finish x body
  | (.switching revision sid, extra, v) =>
    (v.switchTo revision sid).answer id (v.dress extra .switching)

-- A request that posts to a session, with nothing wrong up to its body.
structure Posts (v : Server) (r : Http.Request) (s : Session) : Prop where
  route : Http.Route.find? v.listener.path v.withMetrics r = some .engine
  admitted : (Http.Hook.runAll v.hooks { request := r, query := r.asked }).2 = .ok ()
  method : r.method = "POST"
  polling : r.asked.askedTransport v.config = .ok .polling
  revision : ∃ revision, r.asked.askedRevision = .ok revision
  named : r.asked.session = some s.id
  found : v.engine.lookup s.id = .ok s
  takes : s.admitUpload = .ok ()

-- What is refused is answered at once.
def Verdict.ofResult : Except Fault Verdict → Verdict
  | .ok verdict => verdict
  | .error f => .answered (.ofFault f)

-- What can become of a request before its answer. Whatever cannot be served leaves the server as it
-- is, and what can says of which session.
inductive Handled (v : Server) (r : Http.Request) (upgradable : Bool) :
    Verdict → Http.Headers → Server → Prop
  | answered (response : Http.Response) (extra : Http.Headers) :
    Handled v r upgradable (.answered response) extra v
  | opens {engine : Engine} {watches : List Watch} {sockets : List Socket} {s : Session}
    {poll : PollId} {deadline : Nat} {extra : Http.Headers} (unnamed : r.asked.session = none)
    (opened : engine.sessions = v.engine.sessions ++ [s])
    (fresh : ∀ old ∈ v.engine.sessions, old.id ≠ s.id) :
    Handled v r upgradable (.waiting (.poll s.id poll deadline)) extra
      { v with engine, watches, sockets }
  | polls {s s' : Session} {poll : PollId} {deadline : Nat} {extra : Http.Headers}
    (named : r.asked.session = some s.id) (found : v.engine.lookup s.id = .ok s)
    (registered : s.registerPoll = .ok (poll, s')) :
    Handled v r upgradable (.waiting (.poll s.id poll deadline)) extra (v.put s')
  | uploads {s : Session} {extra : Http.Headers} (posts : v.Posts r s) :
    Handled v r upgradable (.waiting (.upload s.id [])) extra v
  | switches {revision : Revision} {extra : Http.Headers} (asks : upgradable) :
    Handled v r upgradable (.switching revision r.asked.session) extra v

section

variable {v : Server} {r : Http.Request} {upgradable : Bool} {P : Session → Prop}

theorem adopt_eq (v : Server) (sid : SessionId) :
    ∃ watches sockets, v.adopt sid = { v with watches, sockets } := by
  simp only [adopt]
  split <;> exact ⟨_, _, rfl⟩

theorem poll_of_registered {s s' : Session} {poll : PollId}
    (h : s.registerPoll = .ok (poll, s')) :
    v.poll s =
      (.ok (.waiting (.poll s.id poll (v.now + v.config.pollTimeout.toNat))), v.put s') := by
  have same : s'.id = s.id := (Session.stable_id s.id).registerPoll h rfl
  simp only [Server.poll, h, same]

-- A session opens for a poll, and the poll waits in it.
theorem openPolling_eq (h : v.Holds P) (revision : Revision) :
    ∃ (engine : Engine) (watches : List Watch) (sockets : List Socket) (s : Session)
      (poll : PollId) (deadline : Nat),
      v.openPolling revision =
          (.ok (.waiting (.poll s.id poll deadline)), { v with engine, watches, sockets }) ∧
        engine.sessions = v.engine.sessions ++ [s] ∧ ∀ old ∈ v.engine.sessions, old.id ≠ s.id := by
  let e : Engine := { v.engine with transports := v.engine.transports + 1 }
  have counted : e.Holds P := Engine.Holds.of_eq h rfl rfl
  let o := e.origin revision v.engine.transports none v.now
  have ⟨registry, bus, metrics, eq⟩ := counted.openSession_eq revision v.engine.transports none v.now
  let opened : Engine :=
    { e with sessions := v.engine.sessions ++ [o.session.quiet], registry, bus, metrics }
  have opens : v.engine.openPolling revision v.now = (o.sid, opened) := Prod.ext rfl eq
  have id : o.session.quiet.id = o.sid := congrArg (·.1) o.identity_session
  have fresh : ∀ old ∈ v.engine.sessions, old.id ≠ o.session.quiet.id := fun old mem =>
    id ▸ counted.id_ne_next mem
  have found : opened.session? o.sid = some o.session.quiet := by
    have absent : v.engine.sessions.find? (·.id = o.sid) = none :=
      List.find?_eq_none.mpr fun old mem same => fresh old mem (id ▸ of_decide_eq_true same)
    simp only [opened, Engine.session?, List.find?_append, absent, Option.none_or]
    simp [id]
  obtain ⟨s, registered⟩ := o.registerPoll_session rfl
  have same : s.id = o.session.quiet.id := (Session.stable_id _).registerPoll registered rfl
  have only : Session.OnlyAt o.session.quiet.id opened.sessions (opened.put s).sessions :=
    same ▸ opened.put_onlyAt s
  obtain ⟨t, is, sessions⟩ := only.eq_append fresh
  obtain ⟨watches, sockets, adopted⟩ := adopt_eq { v with engine := opened } o.sid
  have found' : { v with engine := opened, watches, sockets }.session? o.sid =
      some o.session.quiet := found
  refine ⟨opened.put s, watches, sockets, t, o.session.polls,
    v.now + opened.config.pollTimeout.toNat, ?_, sessions, is ▸ fresh⟩
  simp only [openPolling, opens, adopted, found', poll_of_registered registered, is]
  rfl

theorem switch_eq_ok {revision : Revision} {sid : Option SessionId} {verdict : Verdict}
    (h : v.switch revision upgradable sid = .ok verdict) :
    upgradable ∧ verdict = .switching revision sid := by
  cases sid with
  | none =>
    simp only [switch] at h
    split at h
    · next asks => exact ⟨asks, (Except.ok.inj h).symm⟩
    · simp at h
  | some sid =>
    simp only [switch] at h
    split at h
    · simp at h
    · split at h
      · simp at h
      · split at h
        · next asks => exact ⟨asks, (Except.ok.inj h).symm⟩
        · simp at h

namespace Handled

variable {extra : Http.Headers}

theorem switch (revision : Revision) :
    Handled v r upgradable (.ofResult (v.switch revision upgradable r.asked.session)) extra v := by
  cases eq : v.switch revision upgradable r.asked.session with
  | error f => exact .answered _ _
  | ok verdict =>
    obtain ⟨asks, rfl⟩ := switch_eq_ok eq
    exact .switches asks

theorem poll {s : Session} (named : r.asked.session = some s.id)
    (found : v.engine.lookup s.id = .ok s) :
    Handled v r upgradable (.ofResult (v.poll s).1) extra (v.poll s).2 := by
  cases registered : s.registerPoll with
  | error f =>
    simp only [Server.poll, registered]
    exact .answered _ _
  | ok result =>
    rw [poll_of_registered registered]
    exact .polls named found registered

theorem dispatch (h : v.Holds P)
    (route : Http.Route.find? v.listener.path v.withMetrics r = some .engine)
    (admitted : (Http.Hook.runAll v.hooks { request := r, query := r.asked }).2 = .ok ()) :
    Handled v r upgradable (.ofResult (v.dispatch r.asked r.method upgradable).1) extra
      (v.dispatch r.asked r.method upgradable).2 := by
  simp only [Server.dispatch]
  split
  · exact .answered _ _
  · exact .answered _ _
  · next kind revision polling asked =>
    split
    · exact switch revision
    · next unnamed =>
      obtain ⟨_, _, _, _, _, _, eq, opened, fresh⟩ := openPolling_eq h revision
      rw [eq]
      exact .opens unnamed opened fresh
    · next sid _ named =>
      split
      · next s found =>
        have is : s.id = sid := Engine.id_of_session? (Engine.session?_of_lookup found)
        subst is
        exact poll named found
      · exact .answered _ _
    · next sid method named =>
      split
      · next s found =>
        have is : s.id = sid := Engine.id_of_session? (Engine.session?_of_lookup found)
        subst is
        cases takes : s.admitUpload with
        | error f =>
          simp only [upload, takes]
          exact .answered _ _
        | ok =>
          simp only [upload, takes]
          exact .uploads
            { route, admitted, method, polling, revision := ⟨_, asked⟩, named, found, takes }
      · exact .answered _ _
    · exact .answered _ _

theorem askEngine (h : v.Holds P)
    (route : Http.Route.find? v.listener.path v.withMetrics r = some .engine) :
    Handled v r upgradable (v.askEngine r upgradable).1 (v.askEngine r upgradable).2.1
      (v.askEngine r upgradable).2.2 := by
  simp only [Server.askEngine]
  split
  · exact .answered _ _
  · next extra admitted =>
    have dispatched : Handled v r upgradable
        (.ofResult (v.dispatch r.asked r.method upgradable).1) extra
        (v.dispatch r.asked r.method upgradable).2 := dispatch h route (congrArg (·.2) admitted)
    split
    · next eq =>
      simp only [Http.Request.asked, eq] at dispatched
      exact dispatched
    · next eq =>
      simp only [Http.Request.asked, eq] at dispatched
      exact dispatched

theorem route (h : v.Holds P) (r : Http.Request) (upgradable : Bool) :
    Handled v r upgradable (v.route r upgradable).1 (v.route r upgradable).2.1
      (v.route r upgradable).2.2 := by
  simp only [Server.route]
  split
  · exact .answered _ _
  · next found eq =>
    split
    · exact .answered _ _
    · split
      · exact askEngine h eq
      · exact .answered _ _
      · exact .answered _ _

theorem handle (h : v.Holds P) (r : Http.Request) (upgradable : Bool) :
    Handled v r upgradable (v.handle r upgradable).1 (v.handle r upgradable).2.1
      (v.handle r upgradable).2.2 := by
  have routed := route h r upgradable
  simp only [Server.handle]
  split
  · exact .answered _ _
  · split
    · next eq =>
      simp only [eq] at routed
      cases routed
      exact .answered _ _
    · exact routed

end Handled

theorem posts_requests_iff {s : Session} (n : Nat) :
    { v with requests := n }.Posts r s ↔ v.Posts r s :=
  ⟨fun h => ⟨h.1, h.2, h.3, h.4, h.5, h.6, h.7, h.8⟩,
    fun h => ⟨h.1, h.2, h.3, h.4, h.5, h.6, h.7, h.8⟩⟩

theorem Posts.unique {s t : Session} (h : v.Posts r s) (h' : v.Posts r t) : s = t := by
  have same : s.id = t.id := Option.some.inj (h.named.symm.trans h'.named)
  exact Except.ok.inj (h.found.symm.trans (same ▸ h'.found))

-- Nothing stands in the way of a body up to which nothing is wrong.
theorem Posts.handle {s : Session} (h : v.Posts r s) (upgradable : Bool) :
    ∃ extra, v.handle r upgradable = (.waiting (.upload s.id []), extra, v) := by
  obtain ⟨revision, asked⟩ := h.revision
  have dispatched : v.dispatch r.asked r.method upgradable =
      (.ok (.waiting (.upload s.id [])), v) := by
    simp only [dispatch, h.polling, asked, h.method, h.named, h.found, upload, h.takes]
  obtain ⟨extra, hooks⟩ : ∃ extra, Http.Hook.runAll v.hooks { request := r, query := r.asked } =
      (extra, .ok ()) := ⟨_, Prod.ext rfl h.admitted⟩
  have engine : v.askEngine r upgradable = (.waiting (.upload s.id []), extra, v) := by
    rw [Http.Request.asked] at dispatched hooks
    simp only [askEngine, hooks, dispatched]
  refine ⟨extra, ?_⟩
  simp [Server.handle, Server.route, h.route, engine, Http.Response.isPreflight, h.method,
    Http.Route.serves]

theorem Posts.serve {s : Session} (h : v.Posts r s) (upgradable : Bool) (body : Body) :
    ∃ extra, v.serve r upgradable body =
      ({ v with requests := v.requests + 1 }.startExchange
        ⟨v.requests + 1, extra, .upload s.id []⟩).readBody
          ⟨v.requests + 1, extra, .upload s.id []⟩ body := by
  obtain ⟨extra, handled⟩ :=
    ((posts_requests_iff (v.requests + 1)).mpr h).handle upgradable
  exact ⟨extra, by simp only [Server.serve, handled, finish]⟩

-- A request that hooks refuse is answered whatever it asks for.
theorem handle_of_refused
    (refused : (Http.Hook.runAll v.hooks { request := r, query := r.asked }).2 ≠ .ok ())
    (upgradable : Bool) : ∃ response, v.handle r upgradable = (.answered response, [], v) := by
  have engine : ∃ response extra, v.askEngine r upgradable = (.answered response, extra, v) := by
    rw [Http.Request.asked] at refused
    simp only [askEngine]
    split
    · exact ⟨_, _, rfl⟩
    · next eq => exact absurd (congrArg (·.2) eq) refused
  have routed : ∃ response extra, v.route r upgradable = (.answered response, extra, v) := by
    simp only [Server.route]
    split
    · exact ⟨_, _, rfl⟩
    · split
      · exact ⟨_, _, rfl⟩
      · split
        · exact engine
        · exact ⟨_, _, rfl⟩
        · exact ⟨_, _, rfl⟩
  obtain ⟨response, extra, eq⟩ := routed
  simp only [Server.handle, eq]
  split <;> exact ⟨_, rfl⟩

theorem postBody_eq (v : Server) (x : Exchange) (bytes : Bytes) :
    v.postBody x bytes = v.readBody x { read := bytes } := by
  simp only [postBody, readBody]
  split <;> simp_all

-- A request that comes with its whole body is served at once, unless it is a poll. Then everything
-- runs to rest.
theorem request_eq_settle_serve (h : v.Holds P) (bytes : Bytes)
    (unpolled : ∀ sid poll deadline,
      ({ v with requests := v.requests + 1 }.handle r false).1 ≠
        .waiting (.poll sid poll deadline)) :
    (v.request r (some bytes)).2 = (v.serve r false { read := bytes }).settle := by
  have counted : Holds P { v with requests := v.requests + 1 } := h
  have handled := Handled.handle counted r false
  simp only [request, serve, Option.isNone_some, Bool.false_eq_true, ↓reduceIte]
  refine congrArg settle ?_
  obtain ⟨⟨verdict, extra, v'⟩, eq⟩ :
      ∃ h, { v with requests := v.requests + 1 }.handle r false = h := ⟨_, rfl⟩
  rw [eq] at unpolled handled ⊢
  cases verdict with
  | answered response => rfl
  | waiting work =>
    cases work with
    | poll sid poll deadline => exact absurd rfl (unpolled sid poll deadline)
    | upload sid body => simp only [postBody_eq, finish]
  | switching revision sid =>
    cases handled with
    | switches asks => simp at asks

theorem openSocket_of_switching {v' : Server} {revision : Revision} {sid : Option SessionId}
    {extra : Http.Headers} (h : v.handle r true = (.switching revision sid, extra, v')) :
    (v.openSocket r).2 = (v'.switchTo revision sid).settle := by
  cases sid <;> simp only [openSocket, h, switchTo]

end

end Server

end Duplex
