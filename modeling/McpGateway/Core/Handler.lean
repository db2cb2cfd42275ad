import Mathlib.Data.List.Infix
import McpGateway.Core.Dispatch
import McpGateway.Core.EventStream

/-!
# One response per request

`Write` records what a handler does to the response, in order, and `OneResponse` says exactly
one of the writes produces a response. Every request to the MCP path gets exactly one
(`handleMCP_one_response`), except a `GET` that accepts `text/event-stream` and carries no
`Mcp-Session-Id`: `handleGet` writes its 400 and, with no `return` after it, goes on to
`Get("")` (`get_without_session_answers_twice`).
-/

namespace McpGateway.Core

open Session

/-- What a handler does to the response. -/
inductive Write
  | header (key value : String)
  | status (code : Nat)
  | string (status : Nat) (body : String)
  | reply (r : Reply)
  | flush
  | event (text : String)
  deriving DecidableEq, Repr

/-- The writes that produce a response; headers and the stream's events do not. -/
def Write.opens : Write → Bool
  | .header .. | .event _ => false
  | _ => true

def OneResponse (ws : List Write) : Prop := ws.countP Write.opens = 1

instance (ws : List Write) : Decidable (OneResponse ws) := inferInstanceAs (Decidable (_ = 1))

def strContains (str substr : String) : Bool := decide (substr.data <:+: str.data)

/-- What `handleMCP` reads of a request. -/
structure HttpRequest where
  method : String
  path : String
  accept : String
  sessionID : String
  body : Option JSONRPCRequest

def streamHeaders (sessionID : String) : List Write :=
  [.header "Content-Type" "text/event-stream", .header "Cache-Control" "no-cache, no-transform",
    .header "Connection" "keep-alive", .header "Mcp-Session-Id" sessionID]

/-- `Get` hands out a fresh queue, so the drain loop of a `GET` takes nothing from it. -/
theorem drain_get_ok {net : Net} {id : String} {st st' : RedisStore} {c : RedisConnection}
    (h : RedisStore.get net id st = (.ok c, st')) : st'.drain c.queue = ([], st') := by
  unfold RedisStore.get at h
  repeat' split at h
  all_goals cases h <;> exact RedisStore.drain_makeQueue _

/-- `handleGet`. The check of the session id has no `return`. The drain loop reads the queue of
the connection `Get` returned, which `Get` made and nothing else can reach. -/
def handleGet (net : Net) (req : HttpRequest) (st : RedisStore) : List Write × RedisStore :=
  if !strContains req.accept "text/event-stream" then
    ([.reply (.protocolError .invalidRequest "Not Acceptable: Client must accept text/event-stream" 406)], st)
  else
    let missing : List Write :=
      if req.sessionID = "" then
        [.reply (.protocolError .connectionClosed "Bad Request: Mcp-Session-Id header is required" 400)]
      else []
    match RedisStore.get net req.sessionID st with
    | (.error _, st) => (missing ++ [.reply (.protocolError .requestTimeout "Session not found" 404)], st)
    | (.ok conn, st) =>
      let r := st.drain conn.queue
      (missing ++ streamHeaders req.sessionID ++ .flush :: r.1.map fun m => .event (drainWrite m), r.2)

-- ---------------------------------------------------------------------------
-- handleGet
-- ---------------------------------------------------------------------------

@[simp] theorem countP_streamHeaders (sessionID : String) :
    (streamHeaders sessionID).countP Write.opens = 0 := rfl

@[simp] theorem countP_events (ms : List Message) :
    (ms.map fun m => Write.event (drainWrite m)).countP Write.opens = 0 := by
  simp [List.countP_map, Function.comp_def, Write.opens]

theorem handleGet_one_response {net : Net} {req : HttpRequest} (st : RedisStore) (h : strContains req.accept "text/event-stream" = true → req.sessionID ≠ "") :
    OneResponse (handleGet net req st).1 := by
  unfold handleGet
  split
  · rfl
  · rename_i hc
    simp only [Bool.not_eq_true', Bool.not_eq_false] at hc
    rcases hg : RedisStore.get net req.sessionID st with ⟨_ | _, st'⟩ <;>
      simp [OneResponse, h hc, List.countP_append, Write.opens]

namespace Server

variable (s : Server) (executeTool : ToolCall → Except String String)

/-- `handleMCP`. `freshID` is the uuid a `POST` without a session id gets, `now` the time
of `time.Now()`. `handleMCPRequest` returns `nil` on every path, so the error branch after
it never runs. -/
def handleMCP (net : Net) (freshID now : String) (req : HttpRequest)
    (st : RedisStore) : List Write × RedisStore :=
  match req.method with
  | "OPTIONS" => ([.status 200], st)
  | "GET" => handleGet net req st
  | "POST" =>
    match req.body with
    | none => ([.reply (.protocolError .parseError "Invalid JSON-RPC request" 400)], st)
    | some rpc =>
      let assigned : List Write := if req.sessionID = "" then [.header "Mcp-Session-Id" freshID] else []
      let sessionID := if req.sessionID = "" then freshID else req.sessionID
      let r := s.handlePost executeTool net sessionID req.path now rpc st
      (assigned ++ [.reply r.1.2], r.2)
  | "DELETE" =>
    if req.sessionID = "" then ([.reply (.protocolError .invalidRequest "Missing session ID" 400)], st)
    else
      match RedisStore.unregister net req.sessionID st with
      | (.error _, st) => ([.reply (.protocolError .invalidRequest "Invalid or expired session" 400)], st)
      | (.ok (), st) => ([.string 200 "Session terminated"], st)
  | _ =>
    ([.header "Allow" "GET, POST, DELETE", .reply (.protocolError .connectionClosed "Method not allowed" 405)], st)

/-- Every request gets exactly one response, but a `GET` that accepts the event stream
and names no session. -/
theorem handleMCP_one_response (net : Net) (freshID now : String) {req : HttpRequest} (st : RedisStore)
    (h : ¬ (req.method = "GET" ∧ strContains req.accept "text/event-stream" = true ∧ req.sessionID = "")) :
    OneResponse (s.handleMCP executeTool net freshID now req st).1 := by
  unfold handleMCP
  split
  · rfl
  · rename_i hm
    exact handleGet_one_response st fun hc hs => h ⟨hm, hc, hs⟩
  · split
    · rfl
    · by_cases he : req.sessionID = "" <;> simp [OneResponse, he, Write.opens]
  · split
    · rfl
    · split <;> rfl
  · rfl

theorem handleMCP_one_response_sample :
    let srv := registerRoutes ⟨[], [], []⟩
    let st := (RedisStore.register Net.up ⟨"s", "2025-01-01T00:00:00Z", "/", "streamable"⟩
      (RedisStore.new fun _ => none)).2
    let req : HttpRequest := ⟨"GET", "/mcp", "text/event-stream", "s", none⟩
    ¬ (req.method = "GET" ∧ strContains req.accept "text/event-stream" = true ∧ req.sessionID = "") ∧
      OneResponse (srv.handleMCP (fun _ => .ok "") Net.up "t" "2025-01-01T00:00:01Z" req st).1 := by
  intro srv st req
  have h : ¬ (req.method = "GET" ∧ strContains req.accept "text/event-stream" = true ∧ req.sessionID = "") := by
    decide
  exact ⟨h, handleMCP_one_response srv _ Net.up "t" "2025-01-01T00:00:01Z" st h⟩

/-- A `GET` that accepts the event stream and carries no `Mcp-Session-Id`: the 400 is
written, and then a second response, whatever the store holds. -/
theorem get_without_session_answers_twice (net : Net) (freshID now path : String)
    (body : Option JSONRPCRequest) (st : RedisStore) :
    let ws := (s.handleMCP executeTool net freshID now ⟨"GET", path, "text/event-stream", "", body⟩ st).1
    ws.head? = some (.reply (.protocolError .connectionClosed "Bad Request: Mcp-Session-Id header is required" 400)) ∧
      ws.countP Write.opens = 2 := by
  have hc : strContains "text/event-stream" "text/event-stream" = true := by decide
  simp only [handleMCP, handleGet, hc]
  rcases RedisStore.get net "" st with ⟨_ | _, st'⟩ <;> simp [List.countP_append, Write.opens]

end Server

end McpGateway.Core
