import Mathlib.Data.List.Nodup
import McpGateway.Core.Dispatch

/-!
# The Streamable HTTP proxy

`InvokeStreamableTool` runs one tool call on a backend MCP server, and `FetchStreamableToolList`
lists a backend's tools. What the libraries do (the template package, the `mcp-go` client and
transport) is a parameter, `Backend`. The transport gets every request header that has a value,
with its first value, whatever order Go's map iteration takes (`transportHeaders_eq_some`); the
backend is contacted only once the arguments decode and the templates render, and then with
exactly the arguments decoded first (`invokeStreamableTool_contacts`); and the rendered
environment is never used (`rendered_env_unused`).
-/

namespace McpGateway.Core

open Json

namespace McpProxy

-- ---------------------------------------------------------------------------
-- Request headers
-- ---------------------------------------------------------------------------

/-- `c.Request.Header`: each header name once, as Go's server canonicalizes it, with its
values in order. The list's order stands for the order of one iteration over the map. -/
structure Header where
  entries : List (String × List String)
  nodup : (entries.map Prod.fst).Nodup

/-- `mcp.HeaderMcpSessionID`. Modelled from the spec: the constant is not among the
sources. -/
def headerMcpSessionID : String := "Mcp-Session-Id"

def Header.get (h : Header) (key : String) : String := ((h.entries.lookup key).bind List.head?).getD ""

def copyFirst (headers : String → Option String) : String × List String → String → Option String
  | (k, v :: _) => Function.update headers k (some v)
  | (_, []) => headers

def transportHeaders (h : Header) : String → Option String :=
  let headers := h.entries.foldl copyFirst fun _ => none
  let sessionID := h.get headerMcpSessionID
  if sessionID ≠ "" then Function.update headers headerMcpSessionID (some sessionID) else headers

namespace Header

variable (h : Header) {k : String} {vs ws : List String}

theorem mem_inj (hv : (k, vs) ∈ h.entries) (hw : (k, ws) ∈ h.entries) : vs = ws :=
  congrArg Prod.snd (List.inj_on_of_nodup_map h.nodup hv hw rfl)

end Header

theorem foldl_copyFirst_of_not_mem {l : List (String × List String)} {k : String}
    (hk : k ∉ l.map Prod.fst) (m : String → Option String) : (l.foldl copyFirst m) k = m k := by
  induction l generalizing m with
  | nil => rfl
  | cons e l ih =>
    obtain ⟨k', vs⟩ := e
    simp only [List.map_cons, List.mem_cons, not_or] at hk
    rw [List.foldl_cons, ih hk.2]
    cases vs <;> simp [copyFirst, Function.update_noteq hk.1]

theorem foldl_copyFirst_of_mem {l : List (String × List String)} (hn : (l.map Prod.fst).Nodup)
    {k : String} {vs : List String} (hk : (k, vs) ∈ l) (m : String → Option String) :
    (l.foldl copyFirst m) k = vs.head?.or (m k) := by
  induction l generalizing m with
  | nil => cases hk
  | cons e l ih =>
    obtain ⟨k', ws⟩ := e
    rw [List.map_cons, List.nodup_cons] at hn
    rw [List.foldl_cons]
    rcases List.mem_cons.mp hk with he | hk
    · cases he
      rw [foldl_copyFirst_of_not_mem hn.1]
      cases vs <;> simp [copyFirst]
    · have hne : k ≠ k' := fun he => hn.1 (List.mem_map.mpr ⟨_, hk, he⟩)
      rw [ih hn.2 hk]
      cases ws <;> simp [copyFirst, Function.update_noteq hne]

theorem foldl_copyFirst_eq_some (h : Header) (k v : String) :
    (h.entries.foldl copyFirst fun _ => none) k = some v ↔ ∃ vs, (k, v :: vs) ∈ h.entries := by
  by_cases hk : k ∈ h.entries.map Prod.fst
  · obtain ⟨⟨_, ws⟩, hw, rfl⟩ := List.mem_map.mp hk
    rw [foldl_copyFirst_of_mem h.nodup hw, Option.or_none]
    constructor
    · intro hv
      cases ws with
      | nil => cases hv
      | cons w ws => cases hv; exact ⟨ws, hw⟩
    · rintro ⟨vs, hv⟩
      rw [h.mem_inj hw hv]; rfl
  · rw [foldl_copyFirst_of_not_mem hk]
    exact ⟨nofun, fun ⟨vs, hv⟩ => absurd (List.mem_map_of_mem Prod.fst hv) hk⟩

theorem transportHeaders_eq_loop (h : Header) :
    transportHeaders h = h.entries.foldl copyFirst fun _ => none := by
  unfold transportHeaders
  dsimp only
  split_ifs with hs
  · refine (Function.update_eq_self_iff.mpr ?_)
    cases hl : h.entries.lookup headerMcpSessionID with
    | none => simp [Header.get, hl] at hs
    | some ws =>
      obtain ⟨l₁, l₂, he, -⟩ := List.lookup_eq_some_iff.mp hl
      have hw : (headerMcpSessionID, ws) ∈ h.entries := by rw [he]; simp
      rw [foldl_copyFirst_of_mem h.nodup hw, Option.or_none]
      cases ws with
      | nil => simp [Header.get, hl] at hs
      | cons w ws => simp [Header.get, hl]
  · rfl

/-- The transport gets every request header that has a value, with its first value, and no
other, whatever the order of the iteration over the header map. -/
theorem transportHeaders_eq_some (h : Header) (k v : String) :
    transportHeaders h k = some v ↔ ∃ vs, (k, v :: vs) ∈ h.entries := by
  rw [transportHeaders_eq_loop]
  exact foldl_copyFirst_eq_some h k v

-- ---------------------------------------------------------------------------
-- InvokeStreamableTool
-- ---------------------------------------------------------------------------

/-- `config.MCPServerConfig`: the fields the proxy reads. Modelled from the spec: the type
is not among the sources. `env` lists the `Env` map in the order of one iteration over it. -/
structure MCPServerConfig where
  url : String
  env : List (String × String)

/-- A tool of the backend's `tools/list`: its name, description, and the document
`json.Marshal` makes of its input schema (`none` when that fails). -/
structure BackendTool where
  name : String
  description : String
  inputSchema : Option Json

inductive Contact where
  | start
  | initClient
  | callTool (name : String) (arguments : Option (List (String × Json)))
  | listTools
  | close

/-- What the proxy calls outside its package: the template package with its context type
`Ctx`, and the `mcp-go` transport and client, `Res` being the converted `CallToolResult`. -/
structure Backend (Ctx Res : Type) where
  prepareTemplateContext : Option (List (String × Json)) → Except String Ctx
  renderTemplate : String → Ctx → Except String String
  newStreamableHTTP : String → (String → Option String) → Except String Unit
  start : Except String Unit
  initClient : Except String Unit
  callTool : String → Option (List (String × Json)) → Except String Res
  listTools : Except String (List BackendTool)

def renderEnv (render : String → Except String String) :
    List (String × String) → Except String (List (String × String))
  | [] => .ok []
  | (k, v) :: rest =>
    match render v with
    | .error e => .error e
    | .ok r => (renderEnv render rest).map ((k, r) :: ·)

variable {Ctx Res : Type}

def invokeStreamableTool (b : Backend Ctx Res) (cfg : MCPServerConfig) (h : Header)
    (params : CallToolParams) : Except String Res × List Contact :=
  match decodeArguments params.arguments with
  | .error e => (.error ("invalid tool arguments: " ++ e), [])
  | .ok args =>
    match b.prepareTemplateContext args with
    | .error e => (.error ("failed to prepare template context: " ++ e), [])
    | .ok ctx =>
      match renderEnv (b.renderTemplate · ctx) cfg.env with
      | .error e => (.error ("failed to render env template: " ++ e), [])
      | .ok _ =>
        match b.newStreamableHTTP cfg.url (transportHeaders h) with
        | .error e => (.error ("failed to create Streamable HTTP transport: " ++ e), [])
        | .ok () =>
          match b.start with
          | .error e => (.error ("failed to start Streamable HTTP transport: " ++ e), [.start])
          | .ok () =>
            match b.initClient with
            | .error e =>
              (.error ("failed to initialize Streamable HTTP client: " ++ e), [.start, .initClient, .close])
            | .ok () =>
              match decodeArguments params.arguments with
              | .error e => (.error ("failed to unmarshal arguments: " ++ e), [.start, .initClient, .close])
              | .ok toolCallRequestParams =>
                let called := [.start, .initClient, .callTool params.name toolCallRequestParams, .close]
                match b.callTool params.name toolCallRequestParams with
                | .error e => (.error ("failed to call tool: " ++ e), called)
                | .ok r => (.ok r, called)

theorem renderEnv_ok_iff (render : String → Except String String) (env : List (String × String)) :
    (∃ r, renderEnv render env = .ok r) ↔ ∀ kv ∈ env, ∃ x, render kv.2 = .ok x := by
  induction env with
  | nil => simp [renderEnv]
  | cons kv env ih =>
    obtain ⟨k, v⟩ := kv
    simp only [renderEnv, List.mem_cons, forall_eq_or_imp]
    cases render v with
    | error e => simp
    | ok x =>
      rw [← ih]
      constructor
      · rintro ⟨r, hr⟩
        cases he : renderEnv render env with
        | error e => rw [he] at hr; cases hr
        | ok r' => exact ⟨⟨x, rfl⟩, r', rfl⟩
      · rintro ⟨-, r', hr'⟩
        exact ⟨(k, x) :: r', by rw [hr']; rfl⟩

/-- The rendered environment never reaches the backend: a renderer that also succeeds on
every template of the server at the context the call prepares gives the same outcome and the
same calls on the backend, whatever text it renders. -/
theorem rendered_env_unused (b : Backend Ctx Res) (render : String → Ctx → Except String String)
    (cfg : MCPServerConfig) (h : Header) (params : CallToolParams)
    (hb : ∀ args ctx, decodeArguments params.arguments = .ok args → b.prepareTemplateContext args = .ok ctx →
      ∀ kv ∈ cfg.env, ∃ x, b.renderTemplate kv.2 ctx = .ok x)
    (hr : ∀ args ctx, decodeArguments params.arguments = .ok args → b.prepareTemplateContext args = .ok ctx →
      ∀ kv ∈ cfg.env, ∃ x, render kv.2 ctx = .ok x) :
    invokeStreamableTool { b with renderTemplate := render } cfg h params =
      invokeStreamableTool b cfg h params := by
  unfold invokeStreamableTool
  dsimp only
  rcases ha : decodeArguments params.arguments with e | args
  · rfl
  dsimp only
  rcases hc : b.prepareTemplateContext args with e | ctx
  · rfl
  dsimp only
  obtain ⟨r₁, h₁⟩ := (renderEnv_ok_iff (render · ctx) cfg.env).mpr (hr args ctx ha hc)
  obtain ⟨r₂, h₂⟩ := (renderEnv_ok_iff (b.renderTemplate · ctx) cfg.env).mpr (hb args ctx ha hc)
  rw [h₁, h₂]

theorem rendered_env_unused_sample :
    let b : Backend Unit String :=
      ⟨fun _ => .ok (), fun v _ => .ok ("rendered " ++ v), fun _ _ => .ok (), .ok (), .ok (),
        fun name _ => .ok name, .ok []⟩
    let render : String → Unit → Except String String := fun v _ => .ok v
    let cfg : MCPServerConfig := ⟨"http://backend/mcp", [("TOKEN", "secret")]⟩
    let h : Header := ⟨[("Mcp-Session-Id", ["s"])], by decide⟩
    let params : CallToolParams := ⟨"echo", some (.obj [])⟩
    (∀ args ctx, decodeArguments params.arguments = .ok args → b.prepareTemplateContext args = .ok ctx →
        ∀ kv ∈ cfg.env, ∃ x, b.renderTemplate kv.2 ctx = .ok x) ∧
      (∀ args ctx, decodeArguments params.arguments = .ok args → b.prepareTemplateContext args = .ok ctx →
        ∀ kv ∈ cfg.env, ∃ x, render kv.2 ctx = .ok x) ∧
      invokeStreamableTool { b with renderTemplate := render } cfg h params =
        invokeStreamableTool b cfg h params := by
  intro b render cfg h params
  have hb : ∀ args ctx, decodeArguments params.arguments = .ok args → b.prepareTemplateContext args = .ok ctx →
      ∀ kv ∈ cfg.env, ∃ x, b.renderTemplate kv.2 ctx = .ok x := fun _ _ _ _ _ _ => ⟨_, rfl⟩
  have hr : ∀ args ctx, decodeArguments params.arguments = .ok args → b.prepareTemplateContext args = .ok ctx →
      ∀ kv ∈ cfg.env, ∃ x, render kv.2 ctx = .ok x := fun _ _ _ _ _ _ => ⟨_, rfl⟩
  exact ⟨hb, hr, rendered_env_unused b render cfg h params hb hr⟩

-- ---------------------------------------------------------------------------
-- FetchStreamableToolList
-- ---------------------------------------------------------------------------

structure ToolInputSchema where
  type : String
  properties : List (String × Json)
  required : Option (List String)

def member (members : List (String × Json)) (key : String) : Option Json :=
  members.foldl (fun acc kv => if kv.1 = key then some kv.2 else acc) none

def requiredName : Json → String
  | .str s => s
  | _ => ""

/-- The conversion of one tool's input schema. `json.Unmarshal` into a map gives the members
of an object, a `nil` map for `null`, and an error otherwise; a lookup in a `nil` map finds
nothing, and every failed step keeps the defaults. -/
def convertInputSchema (raw : Option Json) : ToolInputSchema :=
  let schemaMap := match raw with
    | some (.obj members) => members
    | _ => []
  { type := match member schemaMap "type" with
      | some (.str typ) => typ
      | _ => "object"
    properties := match member schemaMap "properties" with
      | some (.obj properties) => properties
      | _ => []
    required := match member schemaMap "required" with
      | some (.arr required) => some (required.map requiredName)
      | _ => none }

def fetchStreamableToolList (b : Backend Ctx Res) (cfg : MCPServerConfig) :
    Except String (List (ToolSchema × ToolInputSchema)) × List Contact :=
  match b.newStreamableHTTP cfg.url fun _ => none with
  | .error e => (.error ("failed to create Streamable HTTP transport: " ++ e), [])
  | .ok () =>
    match b.start with
    | .error e => (.error ("failed to start Streamable HTTP transport: " ++ e), [.start])
    | .ok () =>
      match b.initClient with
      | .error e =>
        (.error ("failed to initialize Streamable HTTP client: " ++ e), [.start, .initClient, .close])
      | .ok () =>
        match b.listTools with
        | .error e => (.error ("failed to list tools: " ++ e), [.start, .initClient, .listTools, .close])
        | .ok tools =>
          (.ok (tools.map fun t => (⟨t.name, t.description⟩, convertInputSchema t.inputSchema)),
            [.start, .initClient, .listTools, .close])

end McpProxy

end McpGateway.Core
