import McpGateway.Session.Lifecycle

/-!
# What replicas share

Replicas of the gateway each run a `RedisStore` against one Redis: the key space and the topic
are shared, the connections map and the queues are each replica's own. What an operation
answers and writes to the key space depends on the key space alone (`get_keys_congr`,
`register_keys_congr`, `unregister_keys_congr`); an operation only adds payloads at the end of
the topic, and the subscriber alone takes one from the front; and no operation touches a queue
made before it, except the subscriber feeding the queue of the one connection its event is for.
-/

namespace McpGateway.Session

open RedisStore

section

variable {s s' t : RedisStore} {net : Net}

-- ---------------------------------------------------------------------------
-- The topic only grows at its end
-- ---------------------------------------------------------------------------

theorem topic_register (net : Net) (meta : Meta) (s : RedisStore) :
    s.topic <+: (register net meta s).2.topic := by
  rcases register_cases net meta s with h | h | ⟨t, ht, h | h⟩ <;> simp only [h]
  · exact List.prefix_refl _
  · exact List.prefix_refl _
  all_goals obtain ⟨ms, -, rfl⟩ := cmdSAdd_ok ht
  · exact List.prefix_refl _
  · exact List.prefix_append _ _

theorem topic_unregister (net : Net) (x : String) (s : RedisStore) :
    s.topic <+: (unregister net x s).2.topic := by
  rcases unregister_cases net x s with h | h | ⟨t, ht, h | h⟩ <;> simp only [h]
  · exact List.prefix_refl _
  · exact List.prefix_refl _
  all_goals obtain ⟨v, rfl⟩ := cmdSRem_ok ht
  · exact List.prefix_refl _
  · exact List.prefix_append _ _

theorem topic_get (net : Net) (id : String) (s : RedisStore) : (RedisStore.get net id s).2.topic = s.topic := by
  unfold RedisStore.get
  repeat' split
  all_goals rfl

theorem topic_send (net : Net) (c : RedisConnection) (msg : Option Message) (s : RedisStore) :
    s.topic <+: (send net c msg s).2.topic := by
  unfold send
  split
  · exact List.prefix_refl _
  · rename_i u hu; cases Net.run_ok hu; exact List.prefix_append _ _

theorem topic_deliver (s : RedisStore) (t : Option (String × Message)) : (s.deliver t).topic = s.topic := by
  unfold deliver trySend
  repeat' split
  all_goals rfl

theorem topic_consume (h : s.consume = some (.next s')) : ∃ p, s.topic = p :: s'.topic := by
  unfold consume at h
  split at h
  · cases h
  · rename_i p rest hs
    obtain ⟨-, rfl⟩ := handleUpdate_eq_next.mp (Option.some.inj h)
    exact ⟨p, by rw [hs, topic_deliver]⟩

theorem topic_receive (h : s.receive q = some (m, s')) : s'.topic = s.topic := by
  obtain ⟨_, _, rfl⟩ := receive_eq_some.mp h
  rfl

-- ---------------------------------------------------------------------------
-- Answers and writes depend on the key space alone
-- ---------------------------------------------------------------------------

theorem get_keys_congr (net : Net) (id : String) (h : s.keys = t.keys) :
    (RedisStore.get net id s).1.map RedisConnection.meta = (RedisStore.get net id t).1.map RedisConnection.meta := by
  simp only [RedisStore.get, cmdSIsMember, cmdGet, h]
  repeat' split
  all_goals rfl

theorem register_keys_congr (net : Net) (meta : Meta) (h : s.keys = t.keys) :
    (register net meta s).1.map RedisConnection.meta = (register net meta t).1.map RedisConnection.meta ∧
      (register net meta s).2.keys = (register net meta t).2.keys := by
  simp only [register, cmdSet, cmdSAdd, put, publishUpdate, Net.run, h]
  by_cases h0 : net 0
  · simp [h0, h]
  simp only [h0]
  rcases Function.update t.keys (keyPrefix ++ meta.id) (some (Value.str meta.toJson)) idsKey with _ | ⟨_ | _⟩ <;>
    by_cases h1 : net 1 <;> by_cases h2 : net 2 <;> simp [h1, h2, Except.map]

theorem unregister_keys_congr (net : Net) (x : String) (h : s.keys = t.keys) :
    (unregister net x s).1 = (unregister net x t).1 ∧ (unregister net x s).2.keys = (unregister net x t).2.keys := by
  simp only [unregister, cmdSIsMember, cmdDel, cmdSRem, setConnection, put, publishUpdate, Net.run, h]
  by_cases h0 : net 0
  · simp [h0]
  simp only [h0]
  rcases t.keys idsKey with _ | ⟨_ | ms⟩
  · simp
  · simp
  by_cases hx : x ∈ ms
  · by_cases h1 : net 1
    · simp [hx, h1]
    rcases Function.update t.keys (keyPrefix ++ x) none idsKey with _ | ⟨_ | _⟩ <;>
      by_cases h2 : net 2 <;> by_cases h3 : net 3 <;> simp [hx, h1, h2, h3]
  · simp [hx]

-- ---------------------------------------------------------------------------
-- What reaches a queue made before
-- ---------------------------------------------------------------------------

theorem queues_get_of_lt (net : Net) (id : String) (hq : q < s.nextQueue) :
    (RedisStore.get net id s).2.queues q = s.queues q := by
  unfold RedisStore.get
  repeat' split
  all_goals simp [Function.update_noteq (Nat.ne_of_lt hq)]

theorem queues_register_of_lt (net : Net) (meta : Meta) (hq : q < s.nextQueue) :
    (register net meta s).2.queues q = s.queues q := by
  rcases register_cases net meta s with h | h | ⟨t, ht, h | h⟩ <;> rw [h]
  · rfl
  all_goals obtain ⟨ms, -, rfl⟩ := cmdSAdd_ok ht
  all_goals simp [cmdSet, Function.update_noteq (Nat.ne_of_lt hq)]

theorem queues_unregister (net : Net) (x : String) (s : RedisStore) : (unregister net x s).2.queues = s.queues := by
  rcases unregister_cases net x s with h | h | ⟨t, ht, h | h⟩ <;> rw [h]
  · rfl
  · rfl
  all_goals obtain ⟨v, rfl⟩ := cmdSRem_ok ht
  all_goals rfl

theorem queues_send (net : Net) (c : RedisConnection) (msg : Option Message) (s : RedisStore) :
    (send net c msg s).2.queues = s.queues := by
  unfold send
  split
  · rfl
  · rename_i u hu; exact (replica_eq_iff.mp (publishUpdate_replica hu)).2.1

theorem queues_deliver_self {x : String} {conn : RedisConnection} (hc : s.connections x = some conn)
    (msg : Message) : (s.deliver (some (x, msg))).queues conn.queue = (s.trySend conn.queue msg).queues conn.queue := by
  simp only [deliver, hc]

/-- Any other iteration leaves the queue of `x`'s connection alone: no two connections share a
queue. -/
theorem queues_deliver_of_ne (hs : WellQueued s) {x : String} {conn : RedisConnection}
    (hc : s.connections x = some conn) {t : Option (String × Message)} (ht : ∀ msg, t ≠ some (x, msg)) :
    (s.deliver t).queues conn.queue = s.queues conn.queue := by
  rcases t with _ | ⟨y, msg⟩
  · rfl
  · simp only [deliver]
    split
    · rename_i c' hc'
      exact trySend_queues_of_ne _ _ fun he => ht msg (by rw [hs.owned _ _ _ _ hc' hc he])
    · rfl

end

end McpGateway.Session
