import Mathlib.Logic.Function.Basic
import McpGateway.Session.Meta

/-!
# The Redis session store

`RedisStore` of `internal/mcp/session/redis.go`, over a model of the Redis commands it issues.
Redis holds one key space, where a key holds a string (the JSON document the code marshalled)
or a set, and a command on a key of the other kind fails with `WRONGTYPE`; `PUBLISH` appends to
the topic this replica's subscriber reads, as other replicas may. Any command may fail on the
network: `Net` says which, counted from zero in the order the code issues them, and an
operation returns Go's `(result, err)` with the store as the commands before the failure left
it. Go channels are references: a `RedisConnection` holds the number of its queue, and the
queues, of capacity 100, live in the store.
-/

namespace McpGateway.Session

inductive Value where
  | str (doc : Json)
  | set (members : List String)

inductive RedisError where
  | nil
  | wrongType
  | network
  deriving DecidableEq, Repr

inductive Cause where
  | redis (e : RedisError)
  | json (msg : String)
  deriving DecidableEq, Repr

inductive StoreError where
  | sessionNotFound
  | wrapped (context : String) (cause : Cause)
  | raw (cause : RedisError)
  deriving DecidableEq, Repr

/-- Which commands of one call fail on the network. -/
abbrev Net := Nat → Bool

def Net.up : Net := fun _ => false

def Net.failAt (k : Nat) : Net := fun i => i == k

def Net.run (net : Net) (i : Nat) (r : Except RedisError α) : Except RedisError α :=
  if net i then .error .network else r

@[simp] theorem Net.run_up (i : Nat) (r : Except RedisError α) : Net.up.run i r = r := rfl

structure RedisConnection where
  meta : Meta
  queue : Nat
  deriving DecidableEq, Repr

structure RedisStore where
  keys : String → Option Value
  topic : List (Option Json)
  connections : String → Option RedisConnection
  queues : Nat → List Message
  nextQueue : Nat

def keyPrefix : String := "session:"

def idsKey : String := keyPrefix ++ "ids"

def queueCapacity : Nat := 100

namespace RedisStore

def new (keys : String → Option Value) : RedisStore :=
  ⟨keys, [], fun _ => none, fun _ => [], 0⟩

-- ---------------------------------------------------------------------------
-- Redis commands
-- ---------------------------------------------------------------------------

def put (s : RedisStore) (key : String) (v : Option Value) : RedisStore :=
  { s with keys := Function.update s.keys key v }

def cmdSet (s : RedisStore) (key : String) (doc : Json) : RedisStore := s.put key (some (.str doc))

def cmdGet (s : RedisStore) (key : String) : Except RedisError Json :=
  match s.keys key with
  | none => .error .nil
  | some (.str doc) => .ok doc
  | some (.set _) => .error .wrongType

def cmdDel (s : RedisStore) (key : String) : RedisStore := s.put key none

def cmdSAdd (s : RedisStore) (key member : String) : Except RedisError RedisStore :=
  match s.keys key with
  | none => .ok (s.put key (some (.set [member])))
  | some (.set ms) => .ok (s.put key (some (.set (if member ∈ ms then ms else ms ++ [member]))))
  | some (.str _) => .error .wrongType

def cmdSRem (s : RedisStore) (key member : String) : Except RedisError RedisStore :=
  match s.keys key with
  | none => .ok s
  | some (.set ms) => .ok (s.put key (if ms.erase member = [] then none else some (.set (ms.erase member))))
  | some (.str _) => .error .wrongType

def cmdSIsMember (s : RedisStore) (key member : String) : Except RedisError Bool :=
  match s.keys key with
  | none => .ok false
  | some (.set ms) => .ok (member ∈ ms)
  | some (.str _) => .error .wrongType

def cmdSMembers (s : RedisStore) (key : String) : Except RedisError (List String) :=
  match s.keys key with
  | none => .ok []
  | some (.set ms) => .ok ms
  | some (.str _) => .error .wrongType

def cmdPublish (s : RedisStore) (payload : Json) : RedisStore := { s with topic := s.topic ++ [some payload] }

-- ---------------------------------------------------------------------------
-- Connections and queues
-- ---------------------------------------------------------------------------

def makeQueue (s : RedisStore) : RedisStore :=
  { s with queues := Function.update s.queues s.nextQueue [], nextQueue := s.nextQueue + 1 }

def setConnection (s : RedisStore) (id : String) (c : Option RedisConnection) : RedisStore :=
  { s with connections := Function.update s.connections id c }

/-- A send inside a `select` with a `default` case: it never waits, and a full queue
drops the message. -/
def trySend (s : RedisStore) (q : Nat) (msg : Message) : RedisStore :=
  if (s.queues q).length < queueCapacity then
    { s with queues := Function.update s.queues q (s.queues q ++ [msg]) }
  else s

def receive (s : RedisStore) (q : Nat) : Option (Message × RedisStore) :=
  match s.queues q with
  | [] => none
  | m :: rest => some (m, { s with queues := Function.update s.queues q rest })

/-- The drain loop of `handleGet`: it receives from queue `q` for as long as the request
lasts, here every message the queue holds. -/
def drain (s : RedisStore) (q : Nat) : List Message × RedisStore :=
  (s.queues q, { s with queues := Function.update s.queues q [] })

theorem drain_of_nil {s : RedisStore} (h : s.queues q = []) : s.drain q = ([], s) := by
  have hu : Function.update s.queues q [] = s.queues := Function.update_eq_self_iff.mpr h.symm
  simp only [drain, h, hu]

@[simp] theorem drain_makeQueue (s : RedisStore) : s.makeQueue.drain s.nextQueue = ([], s.makeQueue) :=
  drain_of_nil (by simp [makeQueue])

-- ---------------------------------------------------------------------------
-- What the commands leave alone
-- ---------------------------------------------------------------------------

def replica (s : RedisStore) : (String → Option RedisConnection) × (Nat → List Message) × Nat :=
  (s.connections, s.queues, s.nextQueue)

theorem replica_eq_iff {s t : RedisStore} :
    s.replica = t.replica ↔ s.connections = t.connections ∧ s.queues = t.queues ∧ s.nextQueue = t.nextQueue := by
  simp [replica]

@[simp] theorem replica_put (s : RedisStore) (key : String) (v : Option Value) :
    (s.put key v).replica = s.replica := rfl

@[simp] theorem replica_cmdPublish (s : RedisStore) (payload : Json) :
    (s.cmdPublish payload).replica = s.replica := rfl

theorem Net.run_ok {net : Net} {r : Except RedisError α} (h : net.run i r = .ok a) : r = .ok a := by
  unfold Net.run at h; split at h <;> simp_all

theorem cmdSAdd_replica {s s' : RedisStore} (h : s.cmdSAdd key member = .ok s') : s'.replica = s.replica := by
  unfold cmdSAdd at h; split at h <;> cases h <;> rfl

theorem cmdSAdd_ok {s s' : RedisStore} (h : s.cmdSAdd key member = .ok s') :
    ∃ ms, member ∈ ms ∧ s' = s.put key (some (.set ms)) := by
  unfold cmdSAdd at h
  split at h <;> cases h
  · exact ⟨_, List.mem_singleton_self _, rfl⟩
  · exact ⟨_, by split <;> simp_all, rfl⟩

theorem cmdSRem_ok {s s' : RedisStore} (h : s.cmdSRem key member = .ok s') :
    ∃ v, s' = s.put key v := by
  unfold cmdSRem at h
  split at h <;> cases h
  · rename_i hk
    have hu : Function.update s.keys key none = s.keys := Function.update_eq_self_iff.mpr hk.symm
    exact ⟨none, by simp only [put, hu]⟩
  · exact ⟨_, rfl⟩

theorem cmdSRem_replica {s s' : RedisStore} (h : s.cmdSRem key member = .ok s') : s'.replica = s.replica := by
  unfold cmdSRem at h; split at h <;> cases h <;> rfl

@[simp] theorem keys_cmdPublish (s : RedisStore) (payload : Json) : (s.cmdPublish payload).keys = s.keys := rfl

@[simp] theorem connections_cmdPublish (s : RedisStore) (payload : Json) :
    (s.cmdPublish payload).connections = s.connections := rfl

@[simp] theorem queues_cmdPublish (s : RedisStore) (payload : Json) :
    (s.cmdPublish payload).queues = s.queues := rfl

@[simp] theorem nextQueue_cmdPublish (s : RedisStore) (payload : Json) :
    (s.cmdPublish payload).nextQueue = s.nextQueue := rfl

@[simp] theorem queues_put (s : RedisStore) (key : String) (v : Option Value) :
    (s.put key v).queues = s.queues := rfl

@[simp] theorem nextQueue_put (s : RedisStore) (key : String) (v : Option Value) :
    (s.put key v).nextQueue = s.nextQueue := rfl

@[simp] theorem queues_makeQueue (s : RedisStore) :
    s.makeQueue.queues = Function.update s.queues s.nextQueue [] := rfl

@[simp] theorem keys_makeQueue (s : RedisStore) : s.makeQueue.keys = s.keys := rfl

@[simp] theorem keys_setConnection (s : RedisStore) (id : String) (c : Option RedisConnection) :
    (s.setConnection id c).keys = s.keys := rfl

@[simp] theorem connections_put (s : RedisStore) (key : String) (v : Option Value) :
    (s.put key v).connections = s.connections := rfl

@[simp] theorem connections_makeQueue (s : RedisStore) : s.makeQueue.connections = s.connections := rfl

@[simp] theorem nextQueue_makeQueue (s : RedisStore) : s.makeQueue.nextQueue = s.nextQueue + 1 := rfl

@[simp] theorem connections_setConnection (s : RedisStore) (id : String) (c : Option RedisConnection) :
    (s.setConnection id c).connections = Function.update s.connections id c := rfl

@[simp] theorem queues_setConnection (s : RedisStore) (id : String) (c : Option RedisConnection) :
    (s.setConnection id c).queues = s.queues := rfl

@[simp] theorem nextQueue_setConnection (s : RedisStore) (id : String) (c : Option RedisConnection) :
    (s.setConnection id c).nextQueue = s.nextQueue := rfl

@[simp] theorem connections_trySend (s : RedisStore) (q : Nat) (msg : Message) :
    (s.trySend q msg).connections = s.connections := by
  unfold trySend; split <;> rfl

@[simp] theorem nextQueue_trySend (s : RedisStore) (q : Nat) (msg : Message) :
    (s.trySend q msg).nextQueue = s.nextQueue := by
  unfold trySend; split <;> rfl

theorem receive_eq_some {s s' : RedisStore} :
    s.receive q = some (m, s') ↔
      ∃ rest, s.queues q = m :: rest ∧ s' = { s with queues := Function.update s.queues q rest } := by
  unfold receive
  split <;> rename_i h
  · simp [h]
  · simp only [Option.some.injEq, Prod.mk.injEq, h, List.cons.injEq]
    constructor
    · rintro ⟨rfl, rfl⟩; exact ⟨_, ⟨rfl, rfl⟩, rfl⟩
    · rintro ⟨rest, ⟨rfl, rfl⟩, rfl⟩; exact ⟨rfl, rfl⟩

theorem queues_trySend_self (s : RedisStore) (q : Nat) (msg : Message) :
    (s.trySend q msg).queues q =
      if (s.queues q).length < queueCapacity then s.queues q ++ [msg] else s.queues q := by
  unfold trySend; split <;> simp_all

theorem trySend_queues_of_ne (s : RedisStore) (msg : Message) (h : q' ≠ q) :
    (s.trySend q' msg).queues q = s.queues q := by
  unfold trySend; split <;> simp [Function.update_apply, Ne.symm h]

-- ---------------------------------------------------------------------------
-- Store operations
-- ---------------------------------------------------------------------------

/-- `publishUpdate`, as the `i`-th command of its caller. -/
def publishUpdate (s : RedisStore) (net : Net) (i : Nat) (action : String) (meta : Meta)
    (msg : Option Message) : Except RedisError RedisStore :=
  net.run i (.ok (s.cmdPublish (Update.toJson ⟨action, some meta, msg⟩)))

theorem publishUpdate_replica {s s' : RedisStore} (h : s.publishUpdate net i action meta msg = .ok s') :
    s'.replica = s.replica := by
  cases Net.run_ok h; rfl

def register (net : Net) (meta : Meta) (s : RedisStore) : Except StoreError RedisConnection × RedisStore :=
  if net 0 then (.error (.wrapped "failed to store session metadata in Redis" (.redis .network)), s) else
  let s := s.cmdSet (keyPrefix ++ meta.id) meta.toJson
  match net.run 1 (s.cmdSAdd idsKey meta.id) with
  | .error e => (.error (.wrapped "failed to add session ID to list" (.redis e)), s)
  | .ok s =>
    let conn : RedisConnection := ⟨meta, s.nextQueue⟩
    let s := s.makeQueue.setConnection meta.id (some conn)
    match s.publishUpdate net 2 "create" meta none with
    | .error e => (.error (.wrapped "failed to publish session creation" (.redis e)), s)
    | .ok s => (.ok conn, s)

def get (net : Net) (id : String) (s : RedisStore) : Except StoreError RedisConnection × RedisStore :=
  match net.run 0 (s.cmdSIsMember idsKey id) with
  | .error e => (.error (.wrapped "failed to check session ID" (.redis e)), s)
  | .ok false => (.error .sessionNotFound, s)
  | .ok true =>
    match net.run 1 (s.cmdGet (keyPrefix ++ id)) with
    | .error .nil => (.error .sessionNotFound, s)
    | .error e => (.error (.wrapped "failed to get session metadata from Redis" (.redis e)), s)
    | .ok doc =>
      match Meta.decode doc with
      | .error e => (.error (.wrapped "failed to unmarshal session metadata" (.json e)), s)
      | .ok meta => (.ok ⟨meta, s.nextQueue⟩, s.makeQueue)

def unregister (net : Net) (id : String) (s : RedisStore) : Except StoreError Unit × RedisStore :=
  let s := s.setConnection id none
  match net.run 0 (s.cmdSIsMember idsKey id) with
  | .error e => (.error (.wrapped "failed to check session ID" (.redis e)), s)
  | .ok false => (.error .sessionNotFound, s)
  | .ok true =>
    if net 1 then (.error (.wrapped "failed to delete session metadata from Redis" (.redis .network)), s) else
    let s := s.cmdDel (keyPrefix ++ id)
    match net.run 2 (s.cmdSRem idsKey id) with
    | .error e => (.error (.wrapped "failed to remove session ID from list" (.redis e)), s)
    | .ok s =>
      match s.publishUpdate net 3 "delete" { Meta.zero with id := id } none with
      | .error e => (.error (.raw e), s)
      | .ok s => (.ok (), s)

/-- The loop of `List` over the members, the `i`-th command reading the `i`-th key. A key
that cannot be read or decoded is logged and skipped. -/
def listLoop (net : Net) (i : Nat) : List String → RedisStore → List RedisConnection × RedisStore
  | [], s => ([], s)
  | id :: rest, s =>
    match net.run i (s.cmdGet (keyPrefix ++ id)) with
    | .error _ => listLoop net (i + 1) rest s
    | .ok doc =>
      match Meta.decode doc with
      | .error _ => listLoop net (i + 1) rest s
      | .ok meta =>
        let r := listLoop net (i + 1) rest s.makeQueue
        (⟨meta, s.nextQueue⟩ :: r.1, r.2)

def list (net : Net) (s : RedisStore) : Except StoreError (List RedisConnection) × RedisStore :=
  match net.run 0 (s.cmdSMembers idsKey) with
  | .error e => (.error (.wrapped "failed to get session IDs" (.redis e)), s)
  | .ok ids =>
    let (conns, s) := listLoop net 1 ids s
    (.ok conns, s)

def send (net : Net) (c : RedisConnection) (msg : Option Message) (s : RedisStore) :
    Except StoreError Unit × RedisStore :=
  match s.publishUpdate net 0 "event" c.meta msg with
  | .error e => (.error (.raw e), s)
  | .ok s => (.ok (), s)

-- ---------------------------------------------------------------------------
-- The subscriber
-- ---------------------------------------------------------------------------

/-- How one iteration of the subscriber ends. A `nil` dereference panics the goroutine,
and an unrecovered panic ends the process. -/
inductive Iteration where
  | next (s : RedisStore)
  | panic

/-- One iteration of `handleUpdates`'s loop on payload `p`. Logging arguments are
evaluated before the call, so a log line that reads `update.Meta.ID` or
`update.Message.Event` dereferences the pointer whatever the log level. -/
def handleUpdate (p : Option Json) (s : RedisStore) : Iteration :=
  match Update.decode p with
  | .error _ => .next s
  | .ok u =>
    match u.action with
    | "create" | "update" | "delete" =>
      match u.meta with
      | none => .panic
      | some _ => .next s
    | "event" =>
      match u.meta, u.message with
      | none, _ => .panic
      | some _, none => .panic
      | some m, some msg =>
        match s.connections m.id with
        | some c => .next (s.trySend c.queue msg)
        | none => .next s
    | _ => .next s

def consume (s : RedisStore) : Option Iteration :=
  match s.topic with
  | [] => none
  | p :: rest => some (handleUpdate p { s with topic := rest })

def handleUpdatesOn : List (Option Json) → RedisStore → Option RedisStore
  | [], s => some s
  | p :: ps, s =>
    match handleUpdate p s with
    | .panic => none
    | .next s => handleUpdatesOn ps s

def handleUpdates (s : RedisStore) : Option RedisStore :=
  handleUpdatesOn s.topic { s with topic := [] }

end RedisStore

end McpGateway.Session
