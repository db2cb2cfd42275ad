import Mathlib.Logic.Relation
import McpGateway.Session.Subscriber

/-!
# Session queues over whole runs

A store moves by its operations, by payloads other clients publish, by iterations of the
subscriber and by readers receiving from queues. In every reachable state each connection's
queue is allocated, no two ids share one, and none holds more than 100 messages
(`reachable_wellQueued`). `Get` hands out a queue made afresh and entered nowhere, which no
later iteration of the subscriber feeds (`get_queue_never_fed`): the SSE handler that drains
it sees none of the session's events.
-/

namespace McpGateway.Session

open RedisStore

/-- One move of a store. -/
inductive Transition : RedisStore → RedisStore → Prop where
  | register (net : Net) (meta : Meta) : Transition s (register net meta s).2
  | get (net : Net) (id : String) : Transition s (get net id s).2
  | unregister (net : Net) (id : String) : Transition s (unregister net id s).2
  | list (net : Net) : Transition s (list net s).2
  | send (net : Net) (c : RedisConnection) (msg : Option Message) : Transition s (send net c msg s).2
  | publish (p : Option Json) : Transition s { s with topic := s.topic ++ [p] }
  | consume : s.consume = some (.next s') → Transition s s'
  | receive : s.receive q = some (m, s') → Transition s s'

def Reachable (s : RedisStore) : Prop :=
  ∃ keys, Relation.ReflTransGen Transition (RedisStore.new keys) s

/-- The queue invariant. -/
structure WellQueued (s : RedisStore) : Prop where
  allocated : ∀ id c, s.connections id = some c → c.queue < s.nextQueue
  owned : ∀ id id' c c', s.connections id = some c → s.connections id' = some c' →
    c.queue = c'.queue → id = id'
  bounded : ∀ q, (s.queues q).length ≤ queueCapacity

namespace WellQueued

variable {s s' : RedisStore}

theorem of_replica (hs : WellQueued s) (h : s'.replica = s.replica) : WellQueued s' := by
  obtain ⟨hc, hq, hn⟩ := replica_eq_iff.mp h
  exact ⟨by simpa [hc, hn] using hs.allocated, by simpa [hc] using hs.owned, by simpa [hq] using hs.bounded⟩

theorem makeQueue (hs : WellQueued s) : WellQueued s.makeQueue where
  allocated id c h := Nat.lt_succ_of_lt (hs.allocated id c h)
  owned := hs.owned
  bounded q := by
    simp only [RedisStore.makeQueue, Function.update_apply]
    split
    · simp [queueCapacity]
    · exact hs.bounded q

theorem addConnection (hs : WellQueued s) (id : String) (meta : Meta) :
    WellQueued (s.makeQueue.setConnection id (some ⟨meta, s.nextQueue⟩)) where
  allocated i c h := by
    simp only [connections_setConnection, Function.update_apply, connections_makeQueue] at h
    split at h
    · cases h; simp
    · exact (hs.makeQueue).allocated i c h
  owned i i' c c' h h' hq := by
    simp only [connections_setConnection, Function.update_apply, connections_makeQueue] at h h'
    have lt := hs.allocated
    split at h <;> split at h'
    · simp_all
    · cases h; have := lt _ _ h'; simp_all
    · cases h'; have := lt _ _ h; simp_all
    · exact hs.owned i i' c c' h h' hq
  bounded := hs.makeQueue.bounded

theorem removeConnection (hs : WellQueued s) (id : String) : WellQueued (s.setConnection id none) where
  allocated i c h := by
    simp only [connections_setConnection, Function.update_apply] at h
    split at h
    · cases h
    · exact hs.allocated i c h
  owned i i' c c' h h' hq := by
    simp only [connections_setConnection, Function.update_apply] at h h'
    split at h
    · cases h
    · split at h'
      · cases h'
      · exact hs.owned i i' c c' h h' hq
  bounded := hs.bounded

theorem trySend (hs : WellQueued s) (q : Nat) (msg : Message) : WellQueued (s.trySend q msg) := by
  unfold RedisStore.trySend
  split
  · refine ⟨hs.allocated, hs.owned, fun q' => ?_⟩
    simp only [Function.update_apply]
    split
    · subst_vars; simp; omega
    · exact hs.bounded q'
  · exact hs

theorem receive (hs : WellQueued s) (h : s.receive q = some (m, s')) : WellQueued s' := by
  unfold RedisStore.receive at h
  split at h
  · cases h
  · rename_i rest hq
    cases h
    refine ⟨hs.allocated, hs.owned, fun q' => ?_⟩
    simp only [Function.update_apply]
    split
    · have := hs.bounded q; subst_vars; simp_all; omega
    · exact hs.bounded q'

theorem deliver (hs : WellQueued s) (t : Option (String × Message)) : WellQueued (s.deliver t) := by
  unfold RedisStore.deliver
  split
  · split
    · exact hs.trySend _ _
    · exact hs
  · exact hs

end WellQueued

-- ---------------------------------------------------------------------------
-- What a move does to the replica
-- ---------------------------------------------------------------------------

inductive Effect : RedisStore → RedisStore → Prop where
  | redis : s'.replica = s.replica → Effect s s'
  | makeQueue : Effect s s.makeQueue
  | enter (id : String) (meta : Meta) :
      Effect s (s.makeQueue.setConnection id (some ⟨meta, s.nextQueue⟩))
  | remove (id : String) : Effect s (s.setConnection id none)
  | push (q : Nat) (msg : Message) : Effect s (s.trySend q msg)
  | pop : s.receive q = some (m, s') → Effect s s'

abbrev Effects := Relation.ReflTransGen Effect

namespace Effects

variable {s s' : RedisStore}

theorem redis (h : s'.replica = s.replica) : Effects s s' := .single (.redis h)

theorem register (net : Net) (meta : Meta) : Effects s (RedisStore.register net meta s).2 := by
  unfold RedisStore.register
  split
  · exact .refl
  · dsimp only
    split
    · exact redis rfl
    · rename_i t ht
      have h1 : Effects s t := redis ((cmdSAdd_replica (Net.run_ok ht)).trans rfl)
      have h2 := h1.tail (.enter meta.id meta)
      split
      · exact h2
      · rename_i u hu; exact h2.tail (.redis (publishUpdate_replica hu))

theorem get (net : Net) (id : String) : Effects s (RedisStore.get net id s).2 := by
  unfold RedisStore.get
  repeat' split
  all_goals first | exact .refl | exact .single .makeQueue

theorem unregister (net : Net) (id : String) : Effects s (RedisStore.unregister net id s).2 := by
  have h0 : Effects s (s.setConnection id none) := .single (.remove id)
  unfold RedisStore.unregister
  dsimp only
  split
  · exact h0
  · exact h0
  · split
    · exact h0
    · split
      · exact h0.tail (.redis rfl)
      · rename_i t ht
        have h1 := h0.tail (.redis ((cmdSRem_replica (Net.run_ok ht)).trans rfl))
        split
        · exact h1
        · rename_i u hu; exact h1.tail (.redis (publishUpdate_replica hu))

theorem listLoop (net : Net) (i : Nat) (ids : List String) :
    Effects s (RedisStore.listLoop net i ids s).2 := by
  induction ids generalizing i s with
  | nil => exact .refl
  | cons id rest ih =>
    unfold RedisStore.listLoop
    repeat' split
    all_goals first | exact ih _ | exact (Relation.ReflTransGen.single .makeQueue).trans (ih _)

theorem list (net : Net) : Effects s (RedisStore.list net s).2 := by
  unfold RedisStore.list
  split
  · exact .refl
  · exact listLoop net 1 _

theorem send (net : Net) (c : RedisConnection) (msg : Option Message) :
    Effects s (RedisStore.send net c msg s).2 := by
  unfold RedisStore.send
  split
  · exact .refl
  · rename_i u hu; exact redis (publishUpdate_replica hu)

theorem deliver (t : Option (String × Message)) : Effects s (s.deliver t) := by
  unfold RedisStore.deliver
  repeat' split
  all_goals first | exact .refl | exact .single (.push _ _)

theorem consume (h : s.consume = some (.next s')) : Effects s s' := by
  unfold RedisStore.consume at h
  split at h
  · cases h
  · rename_i rest _
    obtain ⟨-, rfl⟩ := handleUpdate_eq_next.mp (Option.some.inj h)
    exact (redis rfl : Effects s { s with topic := rest }).trans (deliver _)

theorem of_transition (h : Transition s s') : Effects s s' := by
  cases h with
  | register net meta => exact register net meta
  | get net id => exact get net id
  | unregister net id => exact unregister net id
  | list net => exact list net
  | send net c msg => exact send net c msg
  | publish p => exact redis rfl
  | consume h => exact consume h
  | receive h => exact .single (.pop h)

theorem of_run (h : Relation.ReflTransGen Transition s s') : Effects s s' := by
  induction h with
  | refl => exact .refl
  | tail _ ht ih => exact ih.trans (of_transition ht)

end Effects

-- ---------------------------------------------------------------------------
-- The queue invariant
-- ---------------------------------------------------------------------------

namespace WellQueued

variable {s s' : RedisStore}

theorem effect (hs : WellQueued s) (h : Effect s s') : WellQueued s' := by
  cases h with
  | redis h => exact hs.of_replica h
  | makeQueue => exact hs.makeQueue
  | enter id meta => exact hs.addConnection id meta
  | remove id => exact hs.removeConnection id
  | push q msg => exact hs.trySend q msg
  | pop h => exact hs.receive h

theorem effects (hs : WellQueued s) (h : Effects s s') : WellQueued s' := by
  induction h with
  | refl => exact hs
  | tail _ h ih => exact ih.effect h

end WellQueued

theorem wellQueued_new (keys : String → Option Value) : WellQueued (RedisStore.new keys) where
  allocated _ _ h := nomatch h
  owned _ _ _ _ h := nomatch h
  bounded _ := Nat.zero_le _

theorem reachable_wellQueued {s : RedisStore} (h : Reachable s) : WellQueued s := by
  obtain ⟨keys, h⟩ := h
  exact (wellQueued_new keys).effects (.of_run h)

-- ---------------------------------------------------------------------------
-- The queue `Get` hands out
-- ---------------------------------------------------------------------------

/-- A queue that has been made and that no connection of the map refers to. -/
def Orphan (q : Nat) (s : RedisStore) : Prop :=
  q < s.nextQueue ∧ ∀ id c, s.connections id = some c → c.queue ≠ q

namespace Orphan

variable {s s' : RedisStore}

theorem effect (ho : Orphan q s) (h : Effect s s') : Orphan q s' := by
  obtain ⟨hq, hc⟩ := ho
  cases h with
  | redis h =>
    obtain ⟨h1, -, h3⟩ := replica_eq_iff.mp h
    exact ⟨h3 ▸ hq, h1 ▸ hc⟩
  | makeQueue => exact ⟨Nat.lt_succ_of_lt hq, hc⟩
  | enter id meta =>
    refine ⟨Nat.lt_succ_of_lt hq, fun i c h => ?_⟩
    simp only [connections_setConnection, Function.update_apply, connections_makeQueue] at h
    split at h
    · cases h; exact Nat.ne_of_gt hq
    · exact hc i c h
  | remove id =>
    refine ⟨hq, fun i c h => ?_⟩
    simp only [connections_setConnection, Function.update_apply] at h
    split at h
    · cases h
    · exact hc i c h
  | push q' msg => exact ⟨by simpa using hq, by simpa using hc⟩
  | pop h =>
    obtain ⟨_, _, rfl⟩ := receive_eq_some.mp h
    exact ⟨hq, hc⟩

theorem effects (ho : Orphan q s) (h : Effects s s') : Orphan q s' := by
  induction h with
  | refl => exact ho
  | tail _ h ih => exact ih.effect h

theorem deliver_queues (ho : Orphan q s) (t : Option (String × Message)) :
    (s.deliver t).queues q = s.queues q := by
  unfold RedisStore.deliver
  split
  · split
    · rename_i c hc; exact s.trySend_queues_of_ne _ (ho.2 _ c hc)
    · rfl
  · rfl

end Orphan

theorem get_ok {s s' : RedisStore} {id : String} (h : RedisStore.get net id s = (.ok conn, s')) :
    conn.queue = s.nextQueue ∧ s' = s.makeQueue := by
  unfold RedisStore.get at h
  repeat' split at h
  all_goals simp only [Prod.mk.injEq, reduceCtorEq, false_and, Except.ok.injEq] at h
  obtain ⟨rfl, rfl⟩ := h
  exact ⟨rfl, rfl⟩

theorem get_orphan {s s' : RedisStore} {id : String} (hs : WellQueued s) (h : RedisStore.get net id s = (.ok conn, s')) :
    Orphan conn.queue s' := by
  obtain ⟨hq, rfl⟩ := get_ok h
  exact ⟨hq ▸ Nat.lt_succ_self _, fun i c hc => hq ▸ Nat.ne_of_lt (hs.allocated i c hc)⟩

/-- After `Get` has handed out `conn`, whatever the store does next, no iteration of the
subscriber changes `conn`'s queue. -/
theorem get_queue_never_fed {s s₁ s₂ s₃ : RedisStore} {id : String} (hr : Reachable s)
    (hget : RedisStore.get net id s = (.ok conn, s₁)) (hrun : Relation.ReflTransGen Transition s₁ s₂)
    (hc : s₂.consume = some (.next s₃)) : s₃.queues conn.queue = s₂.queues conn.queue := by
  have ho : Orphan conn.queue s₂ := (get_orphan (reachable_wellQueued hr) hget).effects (.of_run hrun)
  unfold RedisStore.consume at hc
  split at hc
  · cases hc
  · rename_i rest _
    obtain ⟨-, rfl⟩ := handleUpdate_eq_next.mp (Option.some.inj hc)
    exact (ho.effect (.redis rfl : Effect s₂ { s₂ with topic := rest })).deliver_queues _

/-- Register session `s`, open its SSE stream through `Get`, send `m` on the connection
`Get` returned, and let the subscriber read the topic: `m` goes to the queue `Register`
made, and the queue the stream drains stays empty. -/
theorem get_queue_misses_event :
    let meta : Meta := ⟨"s", "2025-01-01T00:00:00Z", "/", "streamable"⟩
    let m : Message := ⟨"message", "{}"⟩
    let s₁ := (RedisStore.register Net.up meta (RedisStore.new fun _ => none)).2
    let conn : RedisConnection := ⟨meta, 1⟩
    (RedisStore.get Net.up "s" s₁).1 = .ok conn ∧
      ((RedisStore.send Net.up conn (some m) (RedisStore.get Net.up "s" s₁).2).2.handleUpdates).map
        (fun s => (s.queues conn.queue, s.queues 0)) = some ([], [m]) :=
  ⟨rfl, rfl⟩

end McpGateway.Session
