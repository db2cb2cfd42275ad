import McpGateway.Json

/-!
# Session metadata, messages and topic updates

The records the Redis session store writes: `Meta` under `session:<id>`, and the update that
`publishUpdate` sends on the topic and `handleUpdates` reads back. The declarations of `Meta`
and `Message` are not among the sources; their fields are the ones the code reads, keyed in
JSON by the Go field names. Go strings are Lean `String`s here, so the model covers strings
that are valid UTF-8: `json.Marshal` replaces an invalid byte with U+FFFD, and then what the
store decodes differs from what it was given. `CreatedAt` is kept as its RFC 3339 text, which
`time.Time` reads back as the same instant; the text is not checked. For these, the round
trips `Meta.decode_toJson` and `Update.decode_toJson` give back what was encoded.
-/

namespace McpGateway.Session

open Json

structure Meta where
  id : String
  createdAt : String
  pathPrefix : String
  type : String
  deriving DecidableEq, Repr

structure Message where
  event : String
  data : String
  deriving DecidableEq, Repr

/-- The update struct shared by `publishUpdate` and `handleUpdates`; `meta` and
`message` are pointers and may be `nil`. -/
structure Update where
  action : String
  meta : Option Meta
  message : Option Message
  deriving DecidableEq, Repr

namespace Meta

def zero : Meta := ⟨"", "0001-01-01T00:00:00Z", "", ""⟩

def toJson (m : Meta) : Json :=
  .obj [("ID", .str m.id), ("CreatedAt", .str m.createdAt), ("Prefix", .str m.pathPrefix),
    ("Type", .str m.type)]

def set (m : Meta) (key : String) (value : Json) : Except String Meta :=
  if keyIs "ID" key then (decodeString m.id value).map fun s => { m with id := s }
  else if keyIs "CreatedAt" key then (decodeString m.createdAt value).map fun s => { m with createdAt := s }
  else if keyIs "Prefix" key then (decodeString m.pathPrefix value).map fun s => { m with pathPrefix := s }
  else if keyIs "Type" key then (decodeString m.type value).map fun s => { m with type := s }
  else .ok m

def decode : Json → Except String Meta := decodeStruct set zero

theorem decode_toJson (m : Meta) : decode m.toJson = .ok m := by
  cases m; rfl

end Meta

namespace Message

def zero : Message := ⟨"", ""⟩

def toJson (m : Message) : Json := .obj [("Event", .str m.event), ("Data", .str m.data)]

def set (m : Message) (key : String) (value : Json) : Except String Message :=
  if keyIs "Event" key then (decodeString m.event value).map fun s => { m with event := s }
  else if keyIs "Data" key then (decodeString m.data value).map fun s => { m with data := s }
  else .ok m

end Message

namespace Update

def zero : Update := ⟨"", none, none⟩

/-- `json.Marshal(update)`: `message` carries `omitempty`, so a `nil` message is left out. -/
def toJson (u : Update) : Json :=
  .obj ([("action", .str u.action), ("meta", (u.meta.map Meta.toJson).getD .null)] ++
    (u.message.map fun m => [("message", m.toJson)]).getD [])

def set (u : Update) (key : String) (value : Json) : Except String Update :=
  if keyIs "action" key then (decodeString u.action value).map fun s => { u with action := s }
  else if keyIs "meta" key then
    (decodePointer Meta.set (u.meta.getD Meta.zero) value).map fun m => { u with meta := m }
  else if keyIs "message" key then
    (decodePointer Message.set (u.message.getD Message.zero) value).map fun m => { u with message := m }
  else .ok u

/-- The topic carries text; `none` stands for a payload that is not a JSON document,
which `json.Unmarshal` rejects with a syntax error. -/
def decode : Option Json → Except String Update
  | none => .error "invalid character looking for beginning of value"
  | some doc => decodeStruct set zero doc

theorem decode_toJson (u : Update) : decode (some u.toJson) = .ok u := by
  obtain ⟨action, meta, message⟩ := u
  cases meta <;> cases message <;> rfl

end Update

end McpGateway.Session
