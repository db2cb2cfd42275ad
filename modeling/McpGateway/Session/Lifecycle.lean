import McpGateway.Session.Refinement

/-!
# What the key space keeps of a session

A session lives in Redis as a member of the index `session:ids` and as its metadata key
`session:<id>`. `register_cases` and `unregister_cases` say once what the two calls can leave,
whatever command fails, and every fact about a session's lifetime is derived from them: what a
step that registers no session under `id` does to it (`Keeps`), that no id enters the index
twice, that `Get` reads exactly these two keys, and that the connections map changes only by
`Register` and `Unregister` of the entry's own id. `TopicSafe` says every payload waiting on
the topic is one the subscriber goes on from; every operation keeps it, `Send` as long as its
message is not `nil`.
-/

namespace McpGateway.Session

open RedisStore

section

variable {s s' t : RedisStore} {net : Net}

-- ---------------------------------------------------------------------------
-- The index and the metadata keys under each command
-- ---------------------------------------------------------------------------

theorem idsOf_of_keys (h : s'.keys = s.keys) : idsOf s' = idsOf s := by
  simp only [idsOf, h]

theorem idsOf_cmdSet_sublist (s : RedisStore) (x : String) (doc : Json) :
    (idsOf (s.cmdSet (keyPrefix ++ x) doc)).Sublist (idsOf s) := by
  unfold idsOf
  rw [cmdSet, keys_put]
  split_ifs <;> simp

theorem idsOf_cmdDel_sublist (s : RedisStore) (x : String) :
    (idsOf (s.cmdDel (keyPrefix ++ x))).Sublist (idsOf s) := by
  unfold idsOf
  rw [cmdDel, keys_put]
  split_ifs <;> simp

theorem cmdSAdd_idsKey {x : String} (h : s.cmdSAdd idsKey x = .ok s') :
    idsOf s' = addMember (idsOf s) x ∧ ∀ k, k ≠ idsKey → s'.keys k = s.keys k := by
  unfold cmdSAdd at h
  split at h <;> cases h
  · rename_i h0; exact ⟨by simp [idsOf, keys_put, h0, addMember], fun k hk => by simp [keys_put, hk]⟩
  · rename_i ms h0; exact ⟨by simp [idsOf, keys_put, h0, addMember], fun k hk => by simp [keys_put, hk]⟩

theorem cmdSRem_idsKey {x : String} (h : s.cmdSRem idsKey x = .ok s') :
    idsOf s' = (idsOf s).erase x ∧ ∀ k, k ≠ idsKey → s'.keys k = s.keys k := by
  unfold cmdSRem at h
  split at h <;> cases h
  · rename_i h0; simp [idsOf, h0]
  · rename_i ms h0
    refine ⟨?_, fun k hk => by simp [keys_put, hk]⟩
    rw [show idsOf s = ms by simp [idsOf, h0]]
    exact idsOf_put_setOrNone s (ms.erase x)

/-- What `Register` of `meta` leaves, by how far it gets: nothing; the metadata key; the
metadata key, the index with `meta.id` added and the connection entered; and then the
`create` update published. -/
theorem register_cases (net : Net) (meta : Meta) (s : RedisStore) :
    (register net meta s).2 = s ∨
      (register net meta s).2 = s.cmdSet (keyPrefix ++ meta.id) meta.toJson ∨
      ∃ t, (s.cmdSet (keyPrefix ++ meta.id) meta.toJson).cmdSAdd idsKey meta.id = .ok t ∧
        ((register net meta s).2 = t.makeQueue.setConnection meta.id (some ⟨meta, t.nextQueue⟩) ∨
          (register net meta s).2 = (t.makeQueue.setConnection meta.id (some ⟨meta, t.nextQueue⟩)).cmdPublish
            (Update.toJson ⟨"create", some meta, none⟩)) := by
  unfold register
  split
  · exact .inl rfl
  · dsimp only
    split
    · exact .inr (.inl rfl)
    · rename_i t ht
      refine .inr (.inr ⟨t, Net.run_ok ht, ?_⟩)
      split
      · exact .inl rfl
      · rename_i u hu; cases Net.run_ok hu; exact .inr rfl

/-- What `Unregister` of `x` leaves, by how far it gets: the connection removed; then the
metadata key deleted; then `x` removed from the index; and then the `delete` update
published. -/
theorem unregister_cases (net : Net) (x : String) (s : RedisStore) :
    (unregister net x s).2 = s.setConnection x none ∨
      (unregister net x s).2 = (s.setConnection x none).cmdDel (keyPrefix ++ x) ∨
      ∃ t, ((s.setConnection x none).cmdDel (keyPrefix ++ x)).cmdSRem idsKey x = .ok t ∧
        ((unregister net x s).2 = t ∨
          (unregister net x s).2 = t.cmdPublish (Update.toJson ⟨"delete", some { Meta.zero with id := x }, none⟩)) := by
  unfold unregister
  dsimp only
  split
  · exact .inl rfl
  · exact .inl rfl
  · split
    · exact .inl rfl
    · split
      · exact .inr (.inl rfl)
      · rename_i t ht
        refine .inr (.inr ⟨t, Net.run_ok ht, ?_⟩)
        split
        · exact .inl rfl
        · rename_i u hu; cases Net.run_ok hu; exact .inr rfl

theorem keys_register (net : Net) (meta : Meta) (s : RedisStore) :
    (register net meta s).2.keys = s.keys ∨
      (register net meta s).2.keys = (s.cmdSet (keyPrefix ++ meta.id) meta.toJson).keys ∨
      ∃ t, (s.cmdSet (keyPrefix ++ meta.id) meta.toJson).cmdSAdd idsKey meta.id = .ok t ∧
        (register net meta s).2.keys = t.keys := by
  rcases register_cases net meta s with h | h | ⟨t, ht, h | h⟩ <;> rw [h]
  · exact .inl rfl
  · exact .inr (.inl rfl)
  all_goals exact .inr (.inr ⟨t, ht, rfl⟩)

theorem keys_unregister (net : Net) (x : String) (s : RedisStore) :
    (unregister net x s).2.keys = s.keys ∨
      (unregister net x s).2.keys = (s.cmdDel (keyPrefix ++ x)).keys ∨
      ∃ t, ((s.setConnection x none).cmdDel (keyPrefix ++ x)).cmdSRem idsKey x = .ok t ∧
        (unregister net x s).2.keys = t.keys := by
  rcases unregister_cases net x s with h | h | ⟨t, ht, h | h⟩ <;> rw [h]
  · exact .inl rfl
  · exact .inr (.inl rfl)
  all_goals exact .inr (.inr ⟨t, ht, rfl⟩)

-- ---------------------------------------------------------------------------
-- Operations that write no key
-- ---------------------------------------------------------------------------

@[simp] theorem keys_trySend (s : RedisStore) (q : Nat) (msg : Message) : (s.trySend q msg).keys = s.keys := by
  unfold trySend; split <;> rfl

theorem keys_get (net : Net) (id : String) (s : RedisStore) : (RedisStore.get net id s).2.keys = s.keys := by
  unfold RedisStore.get
  repeat' split
  all_goals rfl

theorem keys_listLoop (net : Net) (i : Nat) (ids : List String) (s : RedisStore) :
    (listLoop net i ids s).2.keys = s.keys := by
  induction ids generalizing i s with
  | nil => rfl
  | cons id rest ih =>
    unfold listLoop
    repeat' split
    all_goals simp only [ih, keys_makeQueue]

theorem keys_list (net : Net) (s : RedisStore) : (list net s).2.keys = s.keys := by
  unfold list
  split
  · rfl
  · exact keys_listLoop net 1 _ s

theorem keys_send (net : Net) (c : RedisConnection) (msg : Option Message) (s : RedisStore) :
    (send net c msg s).2.keys = s.keys := by
  unfold send
  split
  · rfl
  · rename_i u hu; cases Net.run_ok hu; rfl

theorem keys_deliver (s : RedisStore) (t : Option (String × Message)) : (s.deliver t).keys = s.keys := by
  unfold deliver
  repeat' split
  all_goals simp

theorem keys_consume (h : s.consume = some (.next s')) : s'.keys = s.keys := by
  unfold consume at h
  split at h
  · cases h
  · obtain ⟨-, rfl⟩ := handleUpdate_eq_next.mp (Option.some.inj h)
    exact keys_deliver _ _

theorem keys_receive (h : s.receive q = some (m, s')) : s'.keys = s.keys := by
  obtain ⟨_, _, rfl⟩ := receive_eq_some.mp h
  rfl

-- ---------------------------------------------------------------------------
-- A step that registers no session under `id`
-- ---------------------------------------------------------------------------

/-- What a step that registers no session under `id` does to it in the key space: `id`
enters no index, and `session:<id>` is left as it was or deleted. -/
structure Keeps (id : String) (s s' : RedisStore) : Prop where
  member : id ∈ idsOf s' → id ∈ idsOf s
  key : id ≠ "ids" →
    s'.keys (keyPrefix ++ id) = s.keys (keyPrefix ++ id) ∨ s'.keys (keyPrefix ++ id) = none

namespace Keeps

variable {id : String} {s₁ s₂ s₃ : RedisStore}

theorem refl (id : String) (s : RedisStore) : Keeps id s s := ⟨fun h => h, fun _ => .inl rfl⟩

theorem trans (h₁ : Keeps id s₁ s₂) (h₂ : Keeps id s₂ s₃) : Keeps id s₁ s₃ where
  member h := h₁.member (h₂.member h)
  key hid := by
    rcases h₂.key hid with h | h
    · rw [h]; exact h₁.key hid
    · exact .inr h

theorem of_keys (h : s'.keys = s.keys) : Keeps id s s' :=
  ⟨fun hm => by rwa [idsOf_of_keys h] at hm, fun _ => .inl (by rw [h])⟩

theorem keys_eq (h : Keeps id s t) (ht : s'.keys = t.keys) : Keeps id s s' := h.trans (of_keys ht)

theorem cmdSet {x : String} (hx : x ≠ id) (doc : Json) : Keeps id s (s.cmdSet (keyPrefix ++ x) doc) where
  member h := (idsOf_cmdSet_sublist s x doc).subset h
  key _ := .inl (by simp [RedisStore.cmdSet, keys_put, sessionKey_inj, Ne.symm hx])

theorem cmdSAdd {x : String} (hx : x ≠ id) (h : s.cmdSAdd idsKey x = .ok s') : Keeps id s s' where
  member hm := by
    rw [(cmdSAdd_idsKey h).1, mem_addMember] at hm
    exact hm.resolve_left (Ne.symm hx)
  key hid := .inl ((cmdSAdd_idsKey h).2 _ fun he => hid (sessionKey_eq_idsKey.mp he))

theorem cmdDel (x : String) : Keeps id s (s.cmdDel (keyPrefix ++ x)) where
  member h := (idsOf_cmdDel_sublist s x).subset h
  key _ := by
    by_cases hx : x = id
    · exact .inr (by simp [RedisStore.cmdDel, keys_put, hx])
    · exact .inl (by simp [RedisStore.cmdDel, keys_put, sessionKey_inj, Ne.symm hx])

theorem cmdSRem {x : String} (h : s.cmdSRem idsKey x = .ok s') : Keeps id s s' where
  member hm := by
    rw [(cmdSRem_idsKey h).1] at hm
    exact List.mem_of_mem_erase hm
  key hid := .inl ((cmdSRem_idsKey h).2 _ fun he => hid (sessionKey_eq_idsKey.mp he))

end Keeps

theorem register_keeps {id : String} (net : Net) {meta : Meta} (hm : meta.id ≠ id) (s : RedisStore) :
    Keeps id s (register net meta s).2 := by
  rcases keys_register net meta s with h | h | ⟨t, ht, h⟩
  · exact .of_keys h
  · exact (Keeps.cmdSet hm _).keys_eq h
  · exact ((Keeps.cmdSet hm _).trans (Keeps.cmdSAdd hm ht)).keys_eq h

theorem unregister_keeps (id : String) (net : Net) (x : String) (s : RedisStore) :
    Keeps id s (unregister net x s).2 := by
  rcases keys_unregister net x s with h | h | ⟨t, ht, h⟩
  · exact .of_keys h
  · exact (Keeps.cmdDel x).keys_eq h
  · have hdel : Keeps id s ((s.setConnection x none).cmdDel (keyPrefix ++ x)) := (Keeps.cmdDel x).keys_eq rfl
    exact (hdel.trans (Keeps.cmdSRem ht)).keys_eq h

-- ---------------------------------------------------------------------------
-- No id twice in the index
-- ---------------------------------------------------------------------------

theorem nodup_register (net : Net) (meta : Meta) (h : (idsOf s).Nodup) :
    (idsOf (register net meta s).2).Nodup := by
  have hset := h.sublist (idsOf_cmdSet_sublist s meta.id meta.toJson)
  rcases keys_register net meta s with hk | hk | ⟨t, ht, hk⟩ <;> rw [idsOf_of_keys hk]
  · exact h
  · exact hset
  · rw [(cmdSAdd_idsKey ht).1]; exact nodup_addMember hset

theorem nodup_unregister (net : Net) (x : String) (h : (idsOf s).Nodup) :
    (idsOf (unregister net x s).2).Nodup := by
  have hdel := h.sublist (idsOf_cmdDel_sublist s x)
  rcases keys_unregister net x s with hk | hk | ⟨t, ht, hk⟩ <;> rw [idsOf_of_keys hk]
  · exact h
  · exact hdel
  · rw [(cmdSRem_idsKey ht).1]; exact hdel.erase x

-- ---------------------------------------------------------------------------
-- What `Get`, `Register` and `Unregister` read and leave
-- ---------------------------------------------------------------------------

theorem cmdSIsMember_of_not_mem {id : String} (h : id ∉ idsOf s) {b : Bool}
    (hb : s.cmdSIsMember idsKey id = .ok b) : b = false := by
  unfold cmdSIsMember at hb
  split at hb <;> cases hb
  · rfl
  · rename_i ms h0; simp_all [idsOf]

theorem get_error_of_not_mem (net : Net) {id : String} (h : id ∉ idsOf s) :
    ∃ e, RedisStore.get net id s = (.error e, s) := by
  unfold RedisStore.get
  rcases hn : net.run 0 (s.cmdSIsMember idsKey id) with e | b
  · exact ⟨_, rfl⟩
  · rw [cmdSIsMember_of_not_mem h (Net.run_ok hn)]; exact ⟨_, rfl⟩

theorem unregister_error_of_not_mem (net : Net) {id : String} (h : id ∉ idsOf s) :
    ∃ e, (unregister net id s).1 = .error e := by
  have h' : id ∉ idsOf (s.setConnection id none) := h
  unfold unregister
  dsimp only
  rcases hn : net.run 0 ((s.setConnection id none).cmdSIsMember idsKey id) with e | b
  · exact ⟨_, rfl⟩
  · rw [cmdSIsMember_of_not_mem h' (Net.run_ok hn)]; exact ⟨_, rfl⟩

theorem get_ok_key {id : String} {c : RedisConnection} (h : RedisStore.get net id s = (.ok c, s')) :
    ∃ doc, s.keys (keyPrefix ++ id) = some (.str doc) ∧ Meta.decode doc = .ok c.meta := by
  unfold RedisStore.get at h
  repeat' split at h
  all_goals simp only [Prod.mk.injEq, reduceCtorEq, false_and, Except.ok.injEq] at h
  rename_i doc hdoc _ meta hmeta
  obtain ⟨rfl, -⟩ := h
  refine ⟨doc, ?_, hmeta⟩
  have := Net.run_ok hdoc
  unfold cmdGet at this
  split at this <;> simp_all

theorem register_ok_key {meta : Meta} {c : RedisConnection} (h : register net meta s = (.ok c, s')) :
    meta.id ≠ "ids" ∧ s'.keys (keyPrefix ++ meta.id) = some (.str meta.toJson) := by
  unfold register at h
  split at h
  · cases h
  · dsimp only at h
    split at h
    · cases h
    · rename_i t ht
      have hadd := Net.run_ok ht
      have hid : meta.id ≠ "ids" := by
        rintro hi
        simp [cmdSAdd, cmdSet, keys_put, hi, idsKey] at hadd
      refine ⟨hid, ?_⟩
      have hk : keyPrefix ++ meta.id ≠ idsKey := fun he => hid (sessionKey_eq_idsKey.mp he)
      have hkey : t.keys (keyPrefix ++ meta.id) = some (.str meta.toJson) := by
        rw [(cmdSAdd_idsKey hadd).2 _ hk]; simp [cmdSet, keys_put]
      split at h
      · cases h
      · rename_i u hu; cases Net.run_ok hu; cases h; exact hkey

theorem unregister_ok_not_mem {id : String} (h : unregister net id s = (.ok (), s'))
    (hn : (idsOf s).Nodup) : id ∉ idsOf s' := by
  have hdel := hn.sublist (idsOf_cmdDel_sublist s id)
  unfold unregister at h
  dsimp only at h
  split at h
  · cases h
  · cases h
  · split at h
    · cases h
    · split at h
      · cases h
      · rename_i t ht
        split at h
        · cases h
        · rename_i u hu
          cases Net.run_ok hu
          cases h
          rw [idsOf_cmdPublish, (cmdSRem_idsKey (Net.run_ok ht)).1]
          exact hdel.not_mem_erase


-- ---------------------------------------------------------------------------
-- What the connections map keeps of a session
-- ---------------------------------------------------------------------------

theorem connections_register_of_ne {x : String} (net : Net) (meta : Meta) (hx : x ≠ meta.id) :
    (register net meta s).2.connections x = s.connections x := by
  rcases register_cases net meta s with h | h | ⟨t, ht, h⟩
  · rw [h]
  · rw [h]; rfl
  · have hc := (replica_eq_iff.mp (cmdSAdd_replica ht)).1
    rcases h with h | h <;> simp [h, hc, cmdSet, Function.update_noteq hx]

theorem connections_unregister_of_ne {x id : String} (net : Net) (hx : x ≠ id) :
    (unregister net id s).2.connections x = s.connections x := by
  have h0 : (s.setConnection id none).connections x = s.connections x := by
    simp [Function.update_noteq hx]
  rcases unregister_cases net id s with h | h | ⟨t, ht, h⟩
  · rw [h, h0]
  · rw [h]; exact h0
  · have hc := (replica_eq_iff.mp (cmdSRem_replica ht)).1
    rcases h with h | h <;> rw [h] <;> exact hc ▸ h0

def RedisConnection.close (net : Net) (c : RedisConnection) (s : RedisStore) :
    Except StoreError Unit × RedisStore :=
  unregister net c.meta.id s

theorem connections_get (net : Net) (id : String) (s : RedisStore) :
    (RedisStore.get net id s).2.connections = s.connections := by
  unfold RedisStore.get
  repeat' split
  all_goals rfl

theorem connections_send (net : Net) (c : RedisConnection) (msg : Option Message) (s : RedisStore) :
    (send net c msg s).2.connections = s.connections := by
  unfold send
  split
  · rfl
  · rename_i u hu; cases Net.run_ok hu; rfl

theorem connections_deliver (s : RedisStore) (t : Option (String × Message)) :
    (s.deliver t).connections = s.connections := by
  unfold deliver
  repeat' split
  all_goals simp

/-- An iteration of the subscriber leaves the connections map alone, whatever update it
reads: `create`, `update` and `delete` are only logged. -/
theorem connections_consume (h : s.consume = some (.next s')) : s'.connections = s.connections := by
  unfold consume at h
  split at h
  · cases h
  · obtain ⟨-, rfl⟩ := handleUpdate_eq_next.mp (Option.some.inj h)
    exact connections_deliver _ _

theorem connections_receive (h : s.receive q = some (m, s')) : s'.connections = s.connections := by
  obtain ⟨_, _, rfl⟩ := receive_eq_some.mp h
  rfl

-- ---------------------------------------------------------------------------
-- What the topic receives
-- ---------------------------------------------------------------------------

/-- Every payload waiting on the topic is one an iteration of `handleUpdates` goes on from. -/
def TopicSafe (s : RedisStore) : Prop := ∀ p ∈ s.topic, payloadPanics p = false

namespace TopicSafe

theorem publish (h : TopicSafe s) {p : Option Json} (hp : payloadPanics p = false) :
    TopicSafe { s with topic := s.topic ++ [p] } := by
  intro q hq
  rcases List.mem_append.mp hq with hq | hq
  · exact h q hq
  · rw [List.mem_singleton.mp hq]; exact hp

theorem publishUpdate {i : Nat} {action : String} {meta : Meta} {msg : Option Message}
    (hp : s.publishUpdate net i action meta msg = .ok s') (h : TopicSafe s)
    (ha : action = "event" → msg.isSome) : TopicSafe s' := by
  cases Net.run_ok hp
  exact h.publish (payloadPanics_published action meta msg ha)

theorem register (h : TopicSafe s) (net : Net) (meta : Meta) : TopicSafe (register net meta s).2 := by
  rcases register_cases net meta s with hr | hr | ⟨t, ht, hr | hr⟩ <;> rw [hr]
  · exact h
  · exact h
  all_goals obtain ⟨ms, -, rfl⟩ := cmdSAdd_ok ht
  · exact h
  · exact h.publish (payloadPanics_published "create" meta none (by decide))

theorem get (h : TopicSafe s) (net : Net) (id : String) : TopicSafe (RedisStore.get net id s).2 := by
  unfold RedisStore.get
  repeat' split
  all_goals exact h

theorem unregister (h : TopicSafe s) (net : Net) (id : String) : TopicSafe (unregister net id s).2 := by
  rcases unregister_cases net id s with hr | hr | ⟨t, ht, hr | hr⟩ <;> rw [hr]
  · exact h
  · exact h
  all_goals obtain ⟨v, rfl⟩ := cmdSRem_ok ht
  · exact h
  · exact h.publish (payloadPanics_published "delete" _ none (by decide))

theorem send (h : TopicSafe s) (net : Net) (c : RedisConnection) {msg : Option Message}
    (hm : msg.isSome) : TopicSafe (send net c msg s).2 := by
  unfold RedisStore.send
  split
  · exact h
  · rename_i u hu; exact publishUpdate hu h fun _ => hm

/- The message is needed: `Send` of `nil` publishes an `event` without one, and the subscriber
panics on it. -/
example : (RedisStore.send Net.up ⟨⟨"s", "2025-01-01T00:00:00Z", "/", "streamable"⟩, 0⟩ none
    (RedisStore.new fun _ => none)).2.consume = some .panic := rfl

theorem deliver (h : TopicSafe s) (t : Option (String × Message)) : TopicSafe (s.deliver t) := by
  unfold RedisStore.deliver
  repeat' split
  all_goals first | exact h | exact fun p hp => h p (by unfold trySend at hp; split at hp <;> exact hp)

theorem consume (h : TopicSafe s) (hc : s.consume = some (.next s')) : TopicSafe s' := by
  unfold RedisStore.consume at hc
  split at hc
  · cases hc
  · rename_i p rest hs
    obtain ⟨-, rfl⟩ := handleUpdate_eq_next.mp (Option.some.inj hc)
    exact deliver (fun q hq => h q (by rw [hs]; exact List.mem_cons_of_mem p hq)) _

theorem receive (h : TopicSafe s) (hr : s.receive q = some (m, s')) : TopicSafe s' := by
  obtain ⟨_, _, rfl⟩ := receive_eq_some.mp hr
  exact h

theorem consume_next (h : TopicSafe s) : s.topic = [] ∨ ∃ s', s.consume = some (.next s') := by
  unfold RedisStore.consume
  split
  · exact .inl ‹_›
  · rename_i p rest hs
    exact .inr ⟨_, congrArg some (handleUpdate_eq_next.mpr ⟨h p (by rw [hs]; exact List.mem_cons_self p rest), rfl⟩)⟩

end TopicSafe

end

end McpGateway.Session
