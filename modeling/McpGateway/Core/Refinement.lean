import McpGateway.Core.Gateway

/-!
# The gateway refines a map of sessions

With no Redis command failing, two stores that represent the same map of sessions answer every
request alike, and afterwards both represent the map `HttpRequest.apply` gives
(`handleMCP_sim`); over sequences of requests this is `requests_refine_sessions`. The order of
the index, the queue counter, this replica's connections and the topic never show in an answer.
-/

namespace McpGateway.Core

open Session

/-- The sessions after a request, as the HTTP interface keeps them: an `initialize`
enters the session it registers, on the prefix of its path, and a `DELETE` that names a
session ends it. -/
def HttpRequest.apply (req : HttpRequest) (freshID now : String) (a : Sessions) : Sessions :=
  match req.registers freshID with
  | some id => Function.update a id (some ⟨id, now, Server.prefixOfPath req.path, "streamable"⟩)
  | none => if req.method = "DELETE" ∧ req.sessionID ≠ "" then Function.update a req.sessionID none else a

namespace HttpRequest

variable {req : HttpRequest} {freshID now : String} {a : Sessions}

theorem registers_of_ne_post (h : req.method ≠ "POST") : req.registers freshID = none := by
  unfold registers; split <;> simp_all

theorem apply_of_registers_none (h : req.registers freshID = none)
    (hd : req.method = "DELETE" → req.sessionID = "") : req.apply freshID now a = a := by
  simp only [apply, h, ite_eq_right_iff, and_imp]
  exact fun hm he => absurd (hd hm) he

theorem apply_of_ne (hp : req.method ≠ "POST") (hd : req.method ≠ "DELETE") :
    req.apply freshID now a = a :=
  apply_of_registers_none (registers_of_ne_post hp) fun h => absurd h hd

end HttpRequest

namespace Server

variable (srv : Server) (executeTool : ToolCall → Except String String)

theorem handleMCPRequest_queue (req : JSONRPCRequest) (meta : Meta) (q q' : Nat) :
    srv.handleMCPRequest executeTool req ⟨meta, q⟩ = srv.handleMCPRequest executeTool req ⟨meta, q'⟩ := by
  simp only [handleMCPRequest, toolsCall]

section

variable {s t : RedisStore} {a : Sessions}

theorem handleGet_sim (hs : Represents s a) (ht : Represents t a) (req : HttpRequest) :
    (handleGet Net.up req s).1 = (handleGet Net.up req t).1 ∧
      Represents (handleGet Net.up req s).2 a := by
  unfold handleGet
  cases strContains req.accept "text/event-stream"
  · exact ⟨rfl, hs⟩
  · dsimp only
    rw [get_sim hs, get_sim ht]
    cases a req.sessionID
    · exact ⟨rfl, hs⟩
    · simp only [RedisStore.drain_makeQueue]
      exact ⟨rfl, hs.makeQueue⟩

theorem handlePost_sim (hs : Represents s a) (ht : Represents t a) (sessionID path now : String)
    (rpc : JSONRPCRequest) (hid : rpc.method = "initialize" → sessionID ≠ "ids") :
    (srv.handlePost executeTool Net.up sessionID path now rpc s).1 =
        (srv.handlePost executeTool Net.up sessionID path now rpc t).1 ∧
      Represents (srv.handlePost executeTool Net.up sessionID path now rpc s).2
        (if rpc.method = "initialize" then
          Function.update a sessionID (some ⟨sessionID, now, prefixOfPath path, "streamable"⟩)
        else a) := by
  unfold handlePost
  split_ifs with hi
  · obtain ⟨hs₁, hs₂⟩ := register_sim hs ⟨sessionID, now, prefixOfPath path, "streamable"⟩ (hid hi)
    obtain ⟨ht₁, -⟩ := register_sim ht ⟨sessionID, now, prefixOfPath path, "streamable"⟩ (hid hi)
    rcases hrs : RedisStore.register Net.up ⟨sessionID, now, prefixOfPath path, "streamable"⟩ s with ⟨rs, s'⟩
    rcases hrt : RedisStore.register Net.up ⟨sessionID, now, prefixOfPath path, "streamable"⟩ t with ⟨rt, t'⟩
    rw [hrs] at hs₁ hs₂
    rw [hrt] at ht₁
    cases hs₁
    cases ht₁
    exact ⟨handleMCPRequest_queue srv executeTool rpc _ _ _, hs₂⟩
  · rw [get_sim hs, get_sim ht]
    cases a sessionID
    · exact ⟨rfl, hs⟩
    · exact ⟨handleMCPRequest_queue srv executeTool rpc _ _ _, hs.makeQueue⟩

theorem handleMCP_sim (hs : Represents s a) (ht : Represents t a) (freshID now : String)
    (req : HttpRequest) (hid : req.registers freshID ≠ some "ids") :
    (srv.handleMCP executeTool Net.up freshID now req s).1 =
        (srv.handleMCP executeTool Net.up freshID now req t).1 ∧
      Represents (srv.handleMCP executeTool Net.up freshID now req s).2 (req.apply freshID now a) := by
  unfold handleMCP
  split
  · rename_i hm
    rw [HttpRequest.apply_of_ne (by simp [hm]) (by simp [hm])]
    exact ⟨rfl, hs⟩
  · rename_i hm
    rw [HttpRequest.apply_of_ne (by simp [hm]) (by simp [hm])]
    exact handleGet_sim hs ht req
  · rename_i hm
    split
    · rename_i hb
      rw [HttpRequest.apply_of_registers_none (by simp [HttpRequest.registers, hm, hb]) (by simp [hm])]
      exact ⟨rfl, hs⟩
    · rename_i rpc hb
      dsimp only
      have hid' : rpc.method = "initialize" →
          (if req.sessionID = "" then freshID else req.sessionID) ≠ "ids" :=
        fun hi he => hid (by simp [HttpRequest.registers, hm, hb, hi, he])
      obtain ⟨h1, h2⟩ := handlePost_sim srv executeTool hs ht _ req.path now rpc hid'
      refine ⟨by rw [h1], ?_⟩
      by_cases hi : rpc.method = "initialize"
      · simpa [HttpRequest.apply, HttpRequest.registers, hm, hb, hi] using h2
      · rw [HttpRequest.apply_of_registers_none (by simp [HttpRequest.registers, hm, hb, hi]) (by simp [hm])]
        simpa [hi] using h2
  · rename_i hm
    split
    · rename_i he
      rw [HttpRequest.apply_of_registers_none (HttpRequest.registers_of_ne_post (by simp [hm]))
        (fun _ => he)]
      exact ⟨rfl, hs⟩
    · rename_i he
      have hr : req.registers freshID = none := HttpRequest.registers_of_ne_post (by simp [hm])
      have happly : req.apply freshID now a = Function.update a req.sessionID none := by
        simp [HttpRequest.apply, hr, hm, he]
      obtain ⟨hs₁, hs₂⟩ := unregister_sim hs req.sessionID
      obtain ⟨ht₁, -⟩ := unregister_sim ht req.sessionID
      rw [happly]
      rcases hus : RedisStore.unregister Net.up req.sessionID s with ⟨us, s'⟩
      rcases hut : RedisStore.unregister Net.up req.sessionID t with ⟨ut, t'⟩
      rw [hus] at hs₁ hs₂
      rw [hut] at ht₁
      dsimp only at hs₁ ht₁
      subst hs₁ ht₁
      cases (a req.sessionID).isSome <;> exact ⟨rfl, hs₂⟩
  · rename_i hp hd
    rw [HttpRequest.apply_of_ne hp hd]
    exact ⟨rfl, hs⟩

end

end Server

-- ---------------------------------------------------------------------------
-- Sequences of requests
-- ---------------------------------------------------------------------------

/-- A request the gateway serves with no Redis command failing, under the tables `srv`. -/
structure Request where
  srv : Server
  executeTool : ToolCall → Except String String
  freshID : String
  now : String
  req : HttpRequest

namespace Request

def serve (r : Request) (st : RedisStore) : List Write × RedisStore :=
  r.srv.handleMCP r.executeTool Net.up r.freshID r.now r.req st

def apply (r : Request) (a : Sessions) : Sessions := r.req.apply r.freshID r.now a

end Request

def serveAll : List Request → RedisStore → List (List Write) × RedisStore
  | [], st => ([], st)
  | r :: rs, st => ((r.serve st).1 :: (serveAll rs (r.serve st).2).1, (serveAll rs (r.serve st).2).2)

/-- Two stores that represent the same sessions give the same answers to every sequence of
requests served with no Redis command failing and registering no session named `ids`, and
after it both represent the sessions those requests leave. -/
theorem requests_refine_sessions {s t : RedisStore} {a : Sessions} (rs : List Request)
    (hrs : ∀ r ∈ rs, r.req.registers r.freshID ≠ some "ids") (hs : Represents s a) (ht : Represents t a) :
    (serveAll rs s).1 = (serveAll rs t).1 ∧
      Represents (serveAll rs s).2 (rs.foldl (fun a r => r.apply a) a) ∧
      Represents (serveAll rs t).2 (rs.foldl (fun a r => r.apply a) a) := by
  induction rs generalizing s t a with
  | nil => exact ⟨rfl, hs, ht⟩
  | cons r rs ih =>
    have hr := hrs r (.head _)
    obtain ⟨hw, hs₁⟩ := r.srv.handleMCP_sim r.executeTool hs ht r.freshID r.now r.req hr
    obtain ⟨-, ht₁⟩ := r.srv.handleMCP_sim r.executeTool ht hs r.freshID r.now r.req hr
    obtain ⟨hw', hs', ht'⟩ := ih (fun r' h' => hrs r' (.tail _ h')) hs₁ ht₁
    exact ⟨by simp only [serveAll, Request.serve] at hw' ⊢; rw [hw, hw'], hs', ht'⟩

theorem requests_refine_sessions_sample :
    let ma : Meta := ⟨"a", "2025-01-01T00:00:00Z", "/", "streamable"⟩
    let mb : Meta := ⟨"b", "2025-01-01T00:00:00Z", "/", "streamable"⟩
    let a : Sessions := Function.update (Function.update (fun _ => none) "a" (some ma)) "b" (some mb)
    let s := (RedisStore.register Net.up mb (RedisStore.register Net.up ma (RedisStore.new fun _ => none)).2).2
    let t := (RedisStore.register Net.up ma (RedisStore.register Net.up mb (RedisStore.new fun _ => none)).2).2
    let srv := Server.registerRoutes ⟨[], [], []⟩
    let rs : List Request :=
      [⟨srv, fun _ => .ok "", "c", "2025-01-01T00:00:00Z", ⟨"DELETE", "/mcp", "", "a", none⟩⟩,
        ⟨srv, fun _ => .ok "", "c", "2025-01-01T00:00:00Z",
          ⟨"POST", "/mcp", "", "a", some ⟨"tools/list", none⟩⟩⟩]
    idsOf s ≠ idsOf t ∧ (∀ r ∈ rs, r.req.registers r.freshID ≠ some "ids") ∧
      Represents s a ∧ Represents t a ∧
      ((serveAll rs s).1 = (serveAll rs t).1 ∧
        Represents (serveAll rs s).2 (rs.foldl (fun a r => r.apply a) a) ∧
        Represents (serveAll rs t).2 (rs.foldl (fun a r => r.apply a) a)) := by
  intro ma mb a s t srv rs
  have hs : Represents s a := (register_sim (register_sim represents_new ma (by decide)).2 mb (by decide)).2
  have ht : Represents t a := by
    have h := (register_sim (register_sim represents_new mb (by decide)).2 ma (by decide)).2
    rwa [Function.update_comm (show "b" ≠ "a" by decide)] at h
  have hrs : ∀ r ∈ rs, r.req.registers r.freshID ≠ some "ids" := by decide
  exact ⟨by decide, hrs, hs, ht, requests_refine_sessions rs hrs hs ht⟩

end McpGateway.Core
