import McpGateway.Session.Redis

/-!
# The topic subscriber

One iteration of `handleUpdates` decodes a payload and either logs and goes on, or acts on the
decoded update; `handleUpdate_eq` says once what it does. It panics exactly on the payloads
`payloadPanics` names: the decoder accepts documents that leave `meta` or `message` out, and
the iteration reads both without a `nil` check (`handleUpdate_delete_without_meta`). The
payloads the store publishes itself are not among them (`payloadPanics_published`).
-/

namespace McpGateway.Session

namespace Update

/-- The updates on which an iteration of `handleUpdates` dereferences `nil`. -/
def panics (u : Update) : Bool :=
  match u.action with
  | "create" | "update" | "delete" => u.meta.isNone
  | "event" => u.meta.isNone || u.message.isNone
  | _ => false

def target (u : Update) : Option (String × Message) :=
  if u.action = "event" then
    match u.meta, u.message with
    | some m, some msg => some (m.id, msg)
    | _, _ => none
  else none

end Update

def payloadPanics (p : Option Json) : Bool :=
  match Update.decode p with
  | .ok u => u.panics
  | .error _ => false

def payloadTarget (p : Option Json) : Option (String × Message) :=
  match Update.decode p with
  | .ok u => u.target
  | .error _ => none

namespace RedisStore

def deliver (s : RedisStore) : Option (String × Message) → RedisStore
  | some (id, msg) =>
    match s.connections id with
    | some c => s.trySend c.queue msg
    | none => s
  | none => s

theorem handleUpdate_eq (p : Option Json) (s : RedisStore) :
    handleUpdate p s = if payloadPanics p then .panic else .next (s.deliver (payloadTarget p)) := by
  unfold handleUpdate payloadPanics payloadTarget
  rcases Update.decode p with _ | ⟨action, meta, message⟩
  · rfl
  · simp only [Update.panics, Update.target]
    split <;> cases meta <;> cases message <;> simp_all [deliver]; split <;> simp_all

theorem handleUpdate_eq_panic {p : Option Json} {s : RedisStore} :
    handleUpdate p s = .panic ↔ payloadPanics p = true := by
  rw [handleUpdate_eq]; split <;> simp_all

theorem handleUpdate_eq_next {p : Option Json} {s s' : RedisStore} :
    handleUpdate p s = .next s' ↔ payloadPanics p = false ∧ s' = s.deliver (payloadTarget p) := by
  rw [handleUpdate_eq]; cases payloadPanics p <;> simp [eq_comm]

/-- A `delete` that omits `meta` decodes without error and then panics the subscriber. -/
theorem handleUpdate_delete_without_meta (s : RedisStore) :
    handleUpdate (some (.obj [("action", .str "delete")])) s = .panic :=
  handleUpdate_eq_panic.mpr rfl

end RedisStore

theorem payloadPanics_published (action : String) (meta : Meta) (msg : Option Message)
    (h : action = "event" → msg.isSome) :
    payloadPanics (some (Update.toJson ⟨action, some meta, msg⟩)) = false := by
  simp only [payloadPanics, Update.decode_toJson, Update.panics]
  split <;> simp_all

end McpGateway.Session
