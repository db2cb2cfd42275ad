import McpGateway.Core.Handler
import McpGateway.Session.Lifecycle

/-!
# The gateway over whole runs

A running gateway's store moves by the HTTP requests `handleMCP` serves, under whichever tables
the last reload put in force, and by `Send`s, payloads other replicas publish, iterations of the
subscriber and receives from queues (`Move`). A request moves the store by at most one of the
store's own operations (`handleMCP_state`), so every run of the gateway is a run of the store.
Over every run, whatever Redis command fails: a deleted session stays gone
(`deleted_session_stays_gone`), a session keeps the meta it was registered with
(`posts_keep_registered_meta`), the subscriber never panics while every `Send` carries a message
(`subscriber_never_panics`), and a connection goes only by a request served here
(`connection_survives_other_moves`).
-/

namespace McpGateway.Core

open Session

/-- The session id a request registers: an `initialize` `POST` registers its
`Mcp-Session-Id`, or the fresh uuid when the header is empty. -/
def HttpRequest.registers (req : HttpRequest) (freshID : String) : Option String :=
  match req.method, req.body with
  | "POST", some rpc =>
    if rpc.method = "initialize" then some (if req.sessionID = "" then freshID else req.sessionID) else none
  | _, _ => none

def HttpRequest.deletes (req : HttpRequest) : Option String :=
  if req.method = "DELETE" ∧ req.sessionID ≠ "" then some req.sessionID else none

-- ---------------------------------------------------------------------------
-- What a request does to the store
-- ---------------------------------------------------------------------------

theorem handleGet_state (net : Net) (req : HttpRequest) (st : RedisStore) :
    (handleGet net req st).2 =
      if strContains req.accept "text/event-stream" then (RedisStore.get net req.sessionID st).2 else st := by
  unfold handleGet
  cases strContains req.accept "text/event-stream"
  · rfl
  · rcases hg : RedisStore.get net req.sessionID st with ⟨_ | _, _⟩
    · rfl
    · simp only [drain_get_ok hg]; rfl

namespace Server

variable (s : Server) (executeTool : ToolCall → Except String String)

theorem handlePost_state (net : Net) (sessionID path now : String) (rpc : JSONRPCRequest) (st : RedisStore) :
    (s.handlePost executeTool net sessionID path now rpc st).2 =
      if rpc.method = "initialize" then
        (RedisStore.register net ⟨sessionID, now, prefixOfPath path, "streamable"⟩ st).2
      else (RedisStore.get net sessionID st).2 := by
  unfold handlePost
  split_ifs
  · rcases RedisStore.register net ⟨sessionID, now, prefixOfPath path, "streamable"⟩ st with ⟨_ | _, _⟩ <;> rfl
  · rcases RedisStore.get net sessionID st with ⟨_ | _, _⟩ <;> rfl

/-- What a request does to the store: nothing, or one `Get`, one `Unregister`, or one
`Register` of the session id the request registers. -/
theorem handleMCP_state (net : Net) (freshID now : String) (req : HttpRequest)
    (st : RedisStore) :
    (s.handleMCP executeTool net freshID now req st).2 = st ∨
      (∃ id, (s.handleMCP executeTool net freshID now req st).2 = (RedisStore.get net id st).2) ∨
      (∃ id, (s.handleMCP executeTool net freshID now req st).2 = (RedisStore.unregister net id st).2) ∨
      ∃ meta : Meta, req.registers freshID = some meta.id ∧
        (s.handleMCP executeTool net freshID now req st).2 = (RedisStore.register net meta st).2 := by
  unfold handleMCP
  split
  · exact .inl rfl
  · rw [handleGet_state]
    split_ifs
    · exact .inr (.inl ⟨_, rfl⟩)
    · exact .inl rfl
  · rename_i hm
    split
    · exact .inl rfl
    · rename_i rpc hb
      dsimp only
      rw [handlePost_state]
      by_cases hi : rpc.method = "initialize"
      · rw [if_pos hi]
        exact .inr (.inr (.inr ⟨_, by simp [HttpRequest.registers, hm, hb, hi], rfl⟩))
      · rw [if_neg hi]
        exact .inr (.inl ⟨_, rfl⟩)
  · split
    · exact .inl rfl
    · exact .inr (.inr (.inl ⟨req.sessionID, by
        rcases RedisStore.unregister net req.sessionID st with ⟨_ | _, _⟩ <;> rfl⟩))
  · exact .inl rfl

theorem handleMCP_connections {x : String} (net : Net) (freshID now : String)
    (req : HttpRequest) (st : RedisStore)
    (hr : req.registers freshID ≠ some x) (hd : req.deletes ≠ some x) :
    (s.handleMCP executeTool net freshID now req st).2.connections x = st.connections x := by
  unfold handleMCP
  split
  · rfl
  · rw [handleGet_state]
    split_ifs
    · rw [connections_get]
    · rfl
  · rename_i hm
    split
    · rfl
    · rename_i rpc hb
      dsimp only
      rw [handlePost_state]
      by_cases hi : rpc.method = "initialize"
      · rw [if_pos hi]
        exact connections_register_of_ne net _ fun he => hr (by simp [HttpRequest.registers, hm, hb, hi, he])
      · rw [if_neg hi, connections_get]
  · rename_i hm
    split
    · rfl
    · rename_i he
      have hx : x ≠ req.sessionID := fun hx => hd (by simp [HttpRequest.deletes, hm, he, hx])
      have hc := connections_unregister_of_ne (s := st) net hx
      rcases hu : RedisStore.unregister net req.sessionID st with ⟨_ | _, st₁⟩ <;> rw [hu] at hc <;> exact hc
  · rfl

end Server

-- ---------------------------------------------------------------------------
-- Runs of the gateway
-- ---------------------------------------------------------------------------

/-- What moves the store of a running gateway. -/
inductive Move where
  | request (srv : Server) (executeTool : ToolCall → Except String String) (net : Net)
      (freshID now : String) (req : HttpRequest)
  | send (net : Net) (c : RedisConnection) (msg : Option Message)
  | publish (p : Option Json)
  | consume
  | receive (q : Nat)

namespace Move

/-- The store after the move: `none` when the move cannot happen (the topic or the queue
is empty) or ends the process (the subscriber panics). -/
def run : Move → RedisStore → Option RedisStore
  | .request srv executeTool net freshID now req, st =>
    some (srv.handleMCP executeTool net freshID now req st).2
  | .send net c msg, st => some (RedisStore.send net c msg st).2
  | .publish p, st => some { st with topic := st.topic ++ [p] }
  | .consume, st =>
    match st.consume with
    | some (.next st') => some st'
    | _ => none
  | .receive q, st => (st.receive q).map Prod.snd

def runAll : List Move → RedisStore → Option RedisStore
  | [], st => some st
  | m :: ms, st => (m.run st).bind (runAll ms)

def registers : Move → Option String
  | .request _ _ _ freshID _ req => req.registers freshID
  | _ => none

def deletes : Move → Option String
  | .request _ _ _ _ _ req => req.deletes
  | _ => none

def Own : Move → Bool
  | .send _ _ msg => msg.isSome
  | .publish p => !payloadPanics p
  | _ => true

variable {m : Move} {ms : List Move} {st st' : RedisStore}

theorem runAll_cons : runAll (m :: ms) st = some st' ↔ ∃ st₁, m.run st = some st₁ ∧ runAll ms st₁ = some st' :=
  Option.bind_eq_some

theorem run_reach (h : m.run st = some st') : Relation.ReflTransGen Transition st st' := by
  cases m with
  | request srv executeTool net freshID now req =>
    cases h
    rcases srv.handleMCP_state executeTool net freshID now req st with
      h | ⟨x, h⟩ | ⟨x, h⟩ | ⟨meta, -, h⟩
    · rw [h]
    · exact h ▸ .single (.get net x)
    · exact h ▸ .single (.unregister net x)
    · exact h ▸ .single (.register net meta)
  | send net c msg => cases h; exact .single (.send net c msg)
  | publish p => cases h; exact .single (.publish p)
  | consume =>
    simp only [run] at h
    split at h
    · cases h; exact .single (.consume ‹_›)
    · cases h
  | receive q =>
    obtain ⟨⟨_, _⟩, hr, rfl⟩ := Option.map_eq_some'.mp h
    exact .single (.receive hr)

theorem run_keys (h : m.run st = some st') :
    st'.keys = st.keys ∨ (∃ net id, st'.keys = (RedisStore.unregister net id st).2.keys) ∨
      ∃ net, ∃ meta : Meta, m.registers = some meta.id ∧ st'.keys = (RedisStore.register net meta st).2.keys := by
  cases m with
  | request srv executeTool net freshID now req =>
    cases h
    rcases srv.handleMCP_state executeTool net freshID now req st with
      h | ⟨x, h⟩ | ⟨x, h⟩ | ⟨meta, hm, h⟩ <;> rw [h]
    · exact .inl rfl
    · exact .inl (keys_get net x st)
    · exact .inr (.inl ⟨net, x, rfl⟩)
    · exact .inr (.inr ⟨net, meta, hm, rfl⟩)
  | send net c msg => cases h; exact .inl (keys_send net c msg st)
  | publish p => cases h; exact .inl rfl
  | consume =>
    simp only [run] at h
    split at h
    · cases h; exact .inl (keys_consume ‹_›)
    · cases h
  | receive q =>
    obtain ⟨⟨_, _⟩, hr, rfl⟩ := Option.map_eq_some'.mp h
    exact .inl (keys_receive hr)

theorem run_keeps {id : String} (hm : m.registers ≠ some id) (h : m.run st = some st') : Keeps id st st' := by
  rcases run_keys h with hk | ⟨net, x, hk⟩ | ⟨net, meta, hr, hk⟩
  · exact .of_keys hk
  · exact (unregister_keeps id net x st).keys_eq hk
  · exact (register_keeps net (fun he => hm (by rw [hr, he])) st).keys_eq hk

theorem run_nodup (h : m.run st = some st') (hn : (idsOf st).Nodup) : (idsOf st').Nodup := by
  rcases run_keys h with hk | ⟨net, x, hk⟩ | ⟨net, meta, -, hk⟩ <;> rw [idsOf_of_keys hk]
  · exact hn
  · exact nodup_unregister net x hn
  · exact nodup_register net meta hn

theorem run_topicSafe (h : m.run st = some st') (hm : m.Own) (hs : TopicSafe st) : TopicSafe st' := by
  cases m with
  | request srv executeTool net freshID now req =>
    cases h
    rcases srv.handleMCP_state executeTool net freshID now req st with
      h | ⟨x, h⟩ | ⟨x, h⟩ | ⟨meta, -, h⟩ <;> rw [h]
    · exact hs
    · exact hs.get net x
    · exact hs.unregister net x
    · exact hs.register net meta
  | send net c msg => cases h; exact hs.send net c hm
  | publish p => cases h; exact hs.publish (by simpa [Own] using hm)
  | consume =>
    simp only [run] at h
    split at h
    · cases h; exact hs.consume ‹_›
    · cases h
  | receive q =>
    obtain ⟨⟨_, _⟩, hr, rfl⟩ := Option.map_eq_some'.mp h
    exact hs.receive hr

theorem runAll_reach (h : runAll ms st = some st') : Relation.ReflTransGen Transition st st' := by
  induction ms generalizing st with
  | nil => cases h; exact .refl
  | cons m ms ih =>
    obtain ⟨st₁, h₁, h₂⟩ := runAll_cons.mp h
    exact (run_reach h₁).trans (ih h₂)

theorem runAll_keeps {id : String} (hms : ∀ m ∈ ms, m.registers ≠ some id) (h : runAll ms st = some st') :
    Keeps id st st' := by
  induction ms generalizing st with
  | nil => cases h; exact .refl id _
  | cons m ms ih =>
    obtain ⟨st₁, h₁, h₂⟩ := runAll_cons.mp h
    exact (run_keeps (hms m (.head _)) h₁).trans (ih (fun m' hm' => hms m' (.tail _ hm')) h₂)

theorem run_connections {x : String} (h : m.run st = some st') (hr : m.registers ≠ some x)
    (hd : m.deletes ≠ some x) : st'.connections x = st.connections x := by
  cases m with
  | request srv executeTool net freshID now req =>
    cases h; exact srv.handleMCP_connections executeTool net freshID now req st hr hd
  | send net c msg => cases h; rw [connections_send]
  | publish p => cases h; rfl
  | consume =>
    simp only [run] at h
    split at h
    · cases h; rw [connections_consume ‹_›]
    · cases h
  | receive q =>
    obtain ⟨⟨_, _⟩, hr, rfl⟩ := Option.map_eq_some'.mp h
    rw [connections_receive hr]

theorem runAll_topicSafe (h : runAll ms st = some st') (hms : ∀ m ∈ ms, m.Own) (hs : TopicSafe st) :
    TopicSafe st' := by
  induction ms generalizing st with
  | nil => cases h; exact hs
  | cons m ms ih =>
    obtain ⟨st₁, h₁, h₂⟩ := runAll_cons.mp h
    exact ih h₂ (fun m' hm' => hms m' (.tail _ hm')) (run_topicSafe h₁ (hms m (.head _)) hs)

end Move

-- ---------------------------------------------------------------------------
-- A deleted session stays gone
-- ---------------------------------------------------------------------------

namespace Server

variable (s : Server) (executeTool : ToolCall → Except String String)

theorem handleMCP_delete_ok {net : Net} {freshID now path accept id : String}
    {body : Option JSONRPCRequest} {st st' : RedisStore}
    (h : s.handleMCP executeTool net freshID now ⟨"DELETE", path, accept, id, body⟩ st =
      ([.string 200 "Session terminated"], st')) :
    id ≠ "" ∧ RedisStore.unregister net id st = (.ok (), st') := by
  unfold handleMCP at h
  dsimp only at h
  split_ifs at h with hid
  · simp at h
  · refine ⟨hid, ?_⟩
    rcases hu : RedisStore.unregister net id st with ⟨_ | _, _⟩ <;> rw [hu] at h <;> simp_all

end Server

/-- After a `DELETE` of session `id` is answered `Session terminated`, in every state a run
reaches that registers no session under `id`, whatever fails on the way: a `GET` for `id`
that accepts the event stream answers `Session not found`, a `POST` other than
`initialize` answers `Invalid or expired session`, and so does a second `DELETE`, under
any tables. -/
theorem deleted_session_stays_gone {srv : Server} {executeTool : ToolCall → Except String String}
    {net : Net} {freshID now path accept id : String} {body : Option JSONRPCRequest}
    {st st₁ st' : RedisStore} (hn : (idsOf st).Nodup)
    (hdel : srv.handleMCP executeTool net freshID now ⟨"DELETE", path, accept, id, body⟩ st =
      ([.string 200 "Session terminated"], st₁))
    {ms : List Move} (hms : ∀ m ∈ ms, m.registers ≠ some id) (hrun : Move.runAll ms st₁ = some st') :
    (∀ (srv' : Server) executeTool' net' freshID' now' path' accept' body',
      strContains accept' "text/event-stream" = true →
      (srv'.handleMCP executeTool' net' freshID' now' ⟨"GET", path', accept', id, body'⟩ st').1 =
        [.reply (.protocolError .requestTimeout "Session not found" 404)]) ∧
    (∀ (srv' : Server) executeTool' net' freshID' now' path' accept' (rpc : JSONRPCRequest),
      rpc.method ≠ "initialize" →
      (srv'.handleMCP executeTool' net' freshID' now' ⟨"POST", path', accept', id, some rpc⟩ st').1 =
        [.reply (.protocolError .invalidRequest "Invalid or expired session" 400)]) ∧
    (∀ (srv' : Server) executeTool' net' freshID' now' path' accept' body',
      (srv'.handleMCP executeTool' net' freshID' now' ⟨"DELETE", path', accept', id, body'⟩ st').1 =
        [.reply (.protocolError .invalidRequest "Invalid or expired session" 400)]) := by
  obtain ⟨hid, hu⟩ := srv.handleMCP_delete_ok executeTool hdel
  have hgone : id ∉ idsOf st' := fun h => unregister_ok_not_mem hu hn ((Move.runAll_keeps hms hrun).member h)
  refine ⟨fun srv' executeTool' net' freshID' now' path' accept' body' hacc => ?_,
    fun srv' executeTool' net' freshID' now' path' accept' rpc hrpc => ?_,
    fun srv' executeTool' net' freshID' now' path' accept' body' => ?_⟩
  · obtain ⟨e, he⟩ := get_error_of_not_mem net' hgone
    simp [Server.handleMCP, handleGet, hacc, hid, he]
  · obtain ⟨e, he⟩ := get_error_of_not_mem net' hgone
    simp [Server.handleMCP, Server.handlePost, hid, hrpc, he]
  · obtain ⟨e, he⟩ := unregister_error_of_not_mem net' hgone
    rcases hu' : RedisStore.unregister net' id st' with ⟨_ | _, _⟩
    · simp [Server.handleMCP, hid, hu']
    · simp [hu'] at he

theorem deleted_session_stays_gone_sample :
    let srv := Server.registerRoutes ⟨[], [], []⟩
    let exec : ToolCall → Except String String := fun _ => .ok ""
    let st := (RedisStore.register Net.up ⟨"s", "2025-01-01T00:00:00Z", "/", "streamable"⟩
      (RedisStore.new fun _ => none)).2
    let run := [Move.request srv exec Net.up "t" "2025-01-01T00:00:01Z"
        ⟨"POST", "/mcp", "", "", some ⟨"initialize", some (.obj [])⟩⟩, .publish none, .consume]
    ∃ st₁ st', (idsOf st).Nodup ∧
      srv.handleMCP exec Net.up "u" "2025-01-01T00:00:01Z" ⟨"DELETE", "/mcp", "", "s", none⟩ st =
        ([.string 200 "Session terminated"], st₁) ∧
      (∀ m ∈ run, m.registers ≠ some "s") ∧ Move.runAll run st₁ = some st' ∧
      (srv.handleMCP exec Net.up "v" "2025-01-01T00:00:02Z" ⟨"GET", "/mcp", "text/event-stream", "s", none⟩
        st').1 = [.reply (.protocolError .requestTimeout "Session not found" 404)] := by
  intro srv exec st run
  let st₁ := (srv.handleMCP exec Net.up "u" "2025-01-01T00:00:01Z" ⟨"DELETE", "/mcp", "", "s", none⟩ st).2
  have hdel : srv.handleMCP exec Net.up "u" "2025-01-01T00:00:01Z" ⟨"DELETE", "/mcp", "", "s", none⟩ st =
      ([.string 200 "Session terminated"], st₁) := rfl
  obtain ⟨st', hrun⟩ : ∃ st', Move.runAll run st₁ = some st' := ⟨_, rfl⟩
  have hn : (idsOf st).Nodup := by decide
  have hms : ∀ m ∈ run, m.registers ≠ some "s" := by decide
  exact ⟨st₁, st', hn, hdel, hms, hrun,
    (deleted_session_stays_gone hn hdel hms hrun).1 srv exec Net.up "v" "2025-01-01T00:00:02Z" "/mcp"
      "text/event-stream" none (by decide)⟩

-- ---------------------------------------------------------------------------
-- A session keeps its meta
-- ---------------------------------------------------------------------------

/-- After a `Register` of `meta` succeeds, in every state a run reaches that registers no
session under `meta.id`, whatever fails on the way: a `POST` on the session that is not an
`initialize`, under any tables and sent to any path, is refused as `Invalid or expired
session` or dispatched by `handleMCPRequest` on a connection whose meta is `meta`, so for
the prefix `meta.pathPrefix` the session was initialized at. -/
theorem posts_keep_registered_meta {net : Net} {meta : Meta} {conn : RedisConnection}
    {st st₁ st' : RedisStore} (hreg : RedisStore.register net meta st = (.ok conn, st₁))
    {ms : List Move} (hms : ∀ m ∈ ms, m.registers ≠ some meta.id) (hrun : Move.runAll ms st₁ = some st') :
    ∀ (srv' : Server) executeTool' net' path' now' (rpc : JSONRPCRequest), rpc.method ≠ "initialize" →
      (srv'.handlePost executeTool' net' meta.id path' now' rpc st').1 =
          (none, .protocolError .invalidRequest "Invalid or expired session" 400) ∨
        ∃ c : RedisConnection, c.meta = meta ∧
          (srv'.handlePost executeTool' net' meta.id path' now' rpc st').1 = srv'.handleMCPRequest executeTool' rpc c := by
  obtain ⟨hid, hkey⟩ := register_ok_key hreg
  have hkey' : st'.keys (keyPrefix ++ meta.id) = some (.str meta.toJson) ∨ st'.keys (keyPrefix ++ meta.id) = none := by
    rcases (Move.runAll_keeps hms hrun).key hid with h | h
    · exact .inl (h.trans hkey)
    · exact .inr h
  intro srv' executeTool' net' path' now' rpc hrpc
  simp only [Server.handlePost, hrpc, if_false]
  rcases hg : RedisStore.get net' meta.id st' with ⟨_ | c, st''⟩
  · exact .inl rfl
  · obtain ⟨doc, hdoc, hdec⟩ := get_ok_key hg
    refine .inr ⟨c, ?_, rfl⟩
    rcases hkey' with h | h <;> rw [h] at hdoc
    · obtain rfl : meta.toJson = doc := by simpa using hdoc
      rw [Meta.decode_toJson] at hdec
      exact (Except.ok.inj hdec).symm
    · cases hdoc

theorem posts_keep_registered_meta_sample :
    let srv := Server.registerRoutes ⟨[], [], []⟩
    let exec : ToolCall → Except String String := fun _ => .ok ""
    let meta : Meta := ⟨"s", "2025-01-01T00:00:00Z", Server.prefixOfPath "/a/mcp", "streamable"⟩
    let run := [Move.request srv exec Net.up "t" "2025-01-01T00:00:01Z"
        ⟨"POST", "/b/mcp", "", "", some ⟨"initialize", some (.obj [])⟩⟩,
      .request srv exec Net.up "v" "2025-01-01T00:00:01Z" ⟨"DELETE", "/mcp", "", "u", none⟩]
    ∃ conn st₁ st', RedisStore.register Net.up meta (RedisStore.new fun _ => none) = (.ok conn, st₁) ∧
      (∀ m ∈ run, m.registers ≠ some meta.id) ∧ Move.runAll run st₁ = some st' ∧
      ((srv.handlePost exec Net.up "s" "/b/mcp" "2025-01-01T00:00:02Z" ⟨"tools/list", none⟩ st').1 =
          (none, .protocolError .invalidRequest "Invalid or expired session" 400) ∨
        ∃ c : RedisConnection, c.meta = meta ∧
          (srv.handlePost exec Net.up "s" "/b/mcp" "2025-01-01T00:00:02Z" ⟨"tools/list", none⟩ st').1 =
            srv.handleMCPRequest exec ⟨"tools/list", none⟩ c) := by
  intro srv exec meta run
  let st₁ := (RedisStore.register Net.up meta (RedisStore.new fun _ => none)).2
  have hreg : RedisStore.register Net.up meta (RedisStore.new fun _ => none) = (.ok ⟨meta, 0⟩, st₁) := rfl
  obtain ⟨st', hrun⟩ : ∃ st', Move.runAll run st₁ = some st' := ⟨_, rfl⟩
  have hms : ∀ m ∈ run, m.registers ≠ some meta.id := by decide
  exact ⟨_, st₁, st', hreg, hms, hrun,
    posts_keep_registered_meta hreg hms hrun srv exec Net.up "/b/mcp" "2025-01-01T00:00:02Z" _ (by decide)⟩

-- ---------------------------------------------------------------------------
-- The subscriber over whole runs
-- ---------------------------------------------------------------------------

/-- In a run where every `Send` carries a message and no other replica publishes a payload
that panics the subscriber, the subscriber never panics: from a topic of such payloads,
after any run every payload waiting is one it goes on from, and its next iteration goes on
or waits for a payload. -/
theorem subscriber_never_panics {ms : List Move} {st st' : RedisStore} (hms : ∀ m ∈ ms, m.Own)
    (hs : TopicSafe st) (h : Move.runAll ms st = some st') :
    TopicSafe st' ∧ (st'.topic = [] ∨ ∃ st'', st'.consume = some (.next st'')) :=
  have hs' := Move.runAll_topicSafe h hms hs
  ⟨hs', hs'.consume_next⟩

theorem subscriber_never_panics_sample :
    let srv := Server.registerRoutes ⟨[], [], []⟩
    let meta : Meta := ⟨"s", "2025-01-01T00:00:00Z", "/", "streamable"⟩
    let run := [Move.request srv (fun _ => .ok "") Net.up "s" "2025-01-01T00:00:00Z"
        ⟨"POST", "/mcp", "", "", some ⟨"initialize", some (.obj [])⟩⟩,
      .send Net.up ⟨meta, 0⟩ (some ⟨"message", "hello"⟩),
      .publish (some (Update.toJson ⟨"create", some meta, none⟩)), .consume]
    ∃ st, Move.runAll run (RedisStore.new fun _ => none) = some st ∧
      TopicSafe st ∧ (st.topic = [] ∨ ∃ st', st.consume = some (.next st')) := by
  intro _ _ run
  obtain ⟨st, h⟩ : ∃ st, Move.runAll run (RedisStore.new fun _ => none) = some st := ⟨_, rfl⟩
  exact ⟨st, h, subscriber_never_panics (by decide) (fun _ hp => absurd hp (List.not_mem_nil _)) h⟩

-- ---------------------------------------------------------------------------
-- This replica's connections over whole runs
-- ---------------------------------------------------------------------------

/-- This replica's connection for a session changes only by a request served here that
registers the session or ends it. The subscriber reads the `delete` update another replica
publishes and only logs it, whatever its comment `Remove from local cache` says, so a session
ended through another replica keeps its connection and queue here through every run. -/
theorem connection_survives_other_moves {ms : List Move} {st st' : RedisStore} {x : String}
    (hms : ∀ m ∈ ms, m.registers ≠ some x ∧ m.deletes ≠ some x) (h : Move.runAll ms st = some st') :
    st'.connections x = st.connections x := by
  induction ms generalizing st with
  | nil => cases h; rfl
  | cons m ms ih =>
    obtain ⟨st₁, h₁, h₂⟩ := Move.runAll_cons.mp h
    have hm := hms m (.head _)
    rw [ih (fun m' hm' => hms m' (.tail _ hm')) h₂, Move.run_connections h₁ hm.1 hm.2]

theorem connection_survives_other_moves_sample :
    let st := (RedisStore.register Net.up ⟨"x", "2025-01-01T00:00:00Z", "/", "streamable"⟩
      (RedisStore.new fun _ => none)).2
    let run := [Move.consume,
      .publish (some (Update.toJson ⟨"delete", some { Meta.zero with id := "x" }, none⟩)), .consume]
    (st.connections "x").isSome ∧ (∀ m ∈ run, m.registers ≠ some "x" ∧ m.deletes ≠ some "x") ∧
      ∃ st', Move.runAll run st = some st' ∧ st'.connections "x" = st.connections "x" := by
  intro st run
  have hms : ∀ m ∈ run, m.registers ≠ some "x" ∧ m.deletes ≠ some "x" := by decide
  obtain ⟨st', h⟩ : ∃ st', Move.runAll run st = some st' := ⟨_, rfl⟩
  exact ⟨rfl, hms, st', h, connection_survives_other_moves hms h⟩

end McpGateway.Core
