import McpGateway.Session.Refinement

/-!
# What the store does not do atomically

`Register` and `Unregister` are sequences of Redis commands and map updates with no
transaction around them and no rollback. A failed call leaves exactly what the commands
before the failing one did (`failed_calls_keep_partial_effects`), and interleaved calls see
each other's halves: an `Unregister` run between `Register`'s `SADD` and its map insert
leaves a connection for an id the index no longer holds (`interleaving_orphans_connection`),
while calls made one at a time keep the index consistent (`serial_calls_keep_index`).
-/

namespace McpGateway.Session

open RedisStore

-- ---------------------------------------------------------------------------
-- Failed calls
-- ---------------------------------------------------------------------------

/-- How a failed `Register` of `meta` on `s` ends, one case per command that can fail: the
error it returns, and the store as the commands before it left `s`. -/
inductive RegisterFailure (s : RedisStore) (meta : Meta) : StoreError → RedisStore → Prop
  | set : RegisterFailure s meta (.wrapped "failed to store session metadata in Redis" (.redis .network)) s
  | sadd (c : RedisError) :
      RegisterFailure s meta (.wrapped "failed to add session ID to list" (.redis c))
        (s.cmdSet (keyPrefix ++ meta.id) meta.toJson)
  | publish {t : RedisStore} (ht : (s.cmdSet (keyPrefix ++ meta.id) meta.toJson).cmdSAdd idsKey meta.id = .ok t) :
      RegisterFailure s meta (.wrapped "failed to publish session creation" (.redis .network))
        (t.makeQueue.setConnection meta.id (some ⟨meta, t.nextQueue⟩))

inductive UnregisterFailure (s : RedisStore) (id : String) : StoreError → RedisStore → Prop
  | check (c : RedisError) :
      UnregisterFailure s id (.wrapped "failed to check session ID" (.redis c)) (s.setConnection id none)
  | notFound : UnregisterFailure s id .sessionNotFound (s.setConnection id none)
  | del :
      UnregisterFailure s id (.wrapped "failed to delete session metadata from Redis" (.redis .network))
        (s.setConnection id none)
  | srem (c : RedisError) :
      UnregisterFailure s id (.wrapped "failed to remove session ID from list" (.redis c))
        ((s.setConnection id none).cmdDel (keyPrefix ++ id))
  | publish {t : RedisStore} (ht : ((s.setConnection id none).cmdDel (keyPrefix ++ id)).cmdSRem idsKey id = .ok t) :
      UnregisterFailure s id (.raw .network) t

section

variable {s s' : RedisStore} {net : Net} {e : StoreError}

theorem publishUpdate_error {c : RedisError} {action : String} {meta : Meta} {msg : Option Message}
    (h : s.publishUpdate net i action meta msg = .error c) : c = .network := by
  unfold publishUpdate Net.run at h
  split at h <;> cases h
  rfl

theorem register_error {meta : Meta} (h : register net meta s = (.error e, s')) :
    RegisterFailure s meta e s' := by
  unfold RedisStore.register at h
  split at h
  · cases h; exact .set
  · dsimp only at h
    split at h
    · cases h; exact .sadd _
    · rename_i t ht
      split at h
      · rename_i c hc
        cases h; cases publishUpdate_error hc
        exact .publish (Net.run_ok ht)
      · cases h

theorem unregister_error {id : String} (h : unregister net id s = (.error e, s')) :
    UnregisterFailure s id e s' := by
  unfold RedisStore.unregister at h
  dsimp only at h
  split at h
  · cases h; exact .check _
  · cases h; exact .notFound
  · split at h
    · cases h; exact .del
    · split at h
      · cases h; exact .srem _
      · rename_i t ht
        split at h
        · rename_i c hc
          cases h; cases publishUpdate_error hc
          exact .publish (Net.run_ok ht)
        · cases h

end

/-- Neither call undoes the commands that ran before the one that failed. -/
theorem failed_calls_keep_partial_effects :
    (∀ net meta s s' e, register net meta s = (.error e, s') → RegisterFailure s meta e s') ∧
      (∀ net id s s' e, unregister net id s = (.error e, s') → UnregisterFailure s id e s') :=
  ⟨fun _ _ _ _ _ h => register_error h, fun _ _ _ _ _ h => unregister_error h⟩

theorem failed_calls_keep_partial_effects_sample :
    let m : Meta := ⟨"s", "2025-01-01T00:00:00Z", "/", "streamable"⟩
    let s := RedisStore.new fun _ => none
    let e : StoreError := .wrapped "failed to add session ID to list" (.redis .network)
    register (Net.failAt 1) m s = (.error e, s.cmdSet (keyPrefix ++ "s") m.toJson) ∧
      RegisterFailure s m e (s.cmdSet (keyPrefix ++ "s") m.toJson) :=
  have h : register (Net.failAt 1) ⟨"s", "2025-01-01T00:00:00Z", "/", "streamable"⟩ (RedisStore.new fun _ => none) =
      (.error (.wrapped "failed to add session ID to list" (.redis .network)),
        (RedisStore.new fun _ => none).cmdSet (keyPrefix ++ "s")
          (Meta.toJson ⟨"s", "2025-01-01T00:00:00Z", "/", "streamable"⟩)) := rfl
  ⟨h, failed_calls_keep_partial_effects.1 _ _ _ _ _ h⟩

theorem register_sadd_failure :
    let m : Meta := ⟨"s", "2025-01-01T00:00:00Z", "/", "streamable"⟩
    let s := RedisStore.new fun _ => none
    (register (Net.failAt 1) m s).1 = .error (.wrapped "failed to add session ID to list" (.redis .network)) ∧
      s.keys (keyPrefix ++ "s") = none ∧
      (register (Net.failAt 1) m s).2.keys (keyPrefix ++ "s") = some (.str m.toJson) :=
  ⟨rfl, rfl, rfl⟩

-- ---------------------------------------------------------------------------
-- Interleaved calls
-- ---------------------------------------------------------------------------

/-- A `Register` or `Unregister` call in progress, at the command it runs next. Each Redis
command runs atomically on the server, and each map update under the store's mutex. -/
inductive Thread where
  | register (meta : Meta) (pc : Nat)
  | unregister (id : String) (pc : Nat)
  | done
  deriving DecidableEq, Repr

namespace Thread

def step (s : RedisStore) : Thread → Thread × RedisStore
  | .register m 0 => (.register m 1, s.cmdSet (keyPrefix ++ m.id) m.toJson)
  | .register m 1 =>
    match s.cmdSAdd idsKey m.id with
    | .ok s' => (.register m 2, s')
    | .error _ => (.done, s)
  | .register m 2 => (.register m 3, s.makeQueue.setConnection m.id (some ⟨m, s.nextQueue⟩))
  | .register m _ => (.done, s.cmdPublish (Update.toJson ⟨"create", some m, none⟩))
  | .unregister id 0 => (.unregister id 1, s.setConnection id none)
  | .unregister id 1 =>
    match s.cmdSIsMember idsKey id with
    | .ok true => (.unregister id 2, s)
    | _ => (.done, s)
  | .unregister id 2 => (.unregister id 3, s.cmdDel (keyPrefix ++ id))
  | .unregister id 3 =>
    match s.cmdSRem idsKey id with
    | .ok s' => (.unregister id 4, s')
    | .error _ => (.done, s)
  | .unregister id _ => (.done, s.cmdPublish (Update.toJson ⟨"delete", some { Meta.zero with id := id }, none⟩))
  | .done => (.done, s)

end Thread

structure Calls where
  store : RedisStore
  threads : List Thread

inductive Schedule where
  | start (t : Thread)
  | run (i : Nat)

def Calls.step (c : Calls) : Schedule → Calls
  | .start t => { c with threads := c.threads ++ [t] }
  | .run i =>
    match c.threads[i]? with
    | some t => let r := t.step c.store; ⟨r.2, c.threads.set i r.1⟩
    | none => c

def Calls.runAll (c : Calls) (sched : List Schedule) : Calls := sched.foldl Calls.step c

/-- The index invariant: an id is in `session:ids` exactly when its metadata key holds a
meta for it, and a connection exists only for an id in `session:ids`. -/
def IndexConsistent (s : RedisStore) : Prop :=
  ∀ id, id ≠ "ids" →
    (id ∈ idsOf s ↔ ∃ m : Meta, m.id = id ∧ s.keys (keyPrefix ++ id) = some (.str m.toJson)) ∧
    ((s.connections id).isSome → id ∈ idsOf s)

theorem Represents.indexConsistent {s : RedisStore} {a : Sessions} (h : Represents s a) :
    IndexConsistent s := by
  refine fun id hid => ⟨?_, fun hc => (h.mem id).mpr (h.connected id hc)⟩
  rw [h.mem id, h.key id hid]
  constructor
  · intro hs
    obtain ⟨m, hm⟩ := Option.isSome_iff_exists.mp hs
    exact ⟨m, h.meta_id id m hm, by simp [hm]⟩
  · rintro ⟨m, -, hk⟩
    cases ha : a id <;> simp_all

/-- Calls made one at a time, with every command succeeding and no `Register` of the id
`ids`, keep the index consistent between calls. -/
theorem serial_calls_keep_index (calls : List Call) (hcalls : ∀ c ∈ calls, c.Fits) :
    IndexConsistent (runSerial (RedisStore.new fun _ => none) calls).2 :=
  (runSerial_represents calls hcalls represents_new).indexConsistent

/-- `Register("s")` runs `SET` and `SADD`; an `Unregister("s")` then runs to the end;
then `Register` makes its map insert and publishes. Both calls have returned, and the
replica holds a connection for an id that `session:ids` no longer holds. -/
theorem interleaving_orphans_connection :
    let m : Meta := ⟨"s", "2025-01-01T00:00:00Z", "/", "streamable"⟩
    let c := Calls.runAll ⟨RedisStore.new fun _ => none, []⟩
      [.start (.register m 0), .run 0, .run 0, .start (.unregister "s" 0),
        .run 1, .run 1, .run 1, .run 1, .run 1, .run 0, .run 0]
    c.threads = [.done, .done] ∧ (c.store.connections "s").isSome ∧ "s" ∉ idsOf c.store ∧
      ¬ IndexConsistent c.store := by
  refine ⟨rfl, rfl, by decide, fun h => ?_⟩
  exact absurd ((h "s" (by decide)).2 rfl) (by decide)

theorem serial_calls_keep_index_sample :
    let calls := [Call.register ⟨"a", "2025-01-01T00:00:00Z", "/", "streamable"⟩,
      .register ⟨"b", "2025-01-01T00:00:00Z", "/b", "streamable"⟩, .unregister "a"]
    (∀ c ∈ calls, c.Fits) ∧ IndexConsistent (runSerial (RedisStore.new fun _ => none) calls).2 :=
  have h : ∀ c ∈ [Call.register ⟨"a", "2025-01-01T00:00:00Z", "/", "streamable"⟩,
      .register ⟨"b", "2025-01-01T00:00:00Z", "/b", "streamable"⟩, .unregister "a"], c.Fits := by
    simp [Call.Fits]
  ⟨h, serial_calls_keep_index _ h⟩

end McpGateway.Session
