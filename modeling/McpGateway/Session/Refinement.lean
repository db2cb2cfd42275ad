import Mathlib.Data.List.Nodup
import McpGateway.Session.Queues

/-!
# The Redis store refines a map of sessions

`Sessions` is what the store is for: a finite map from session id to `Meta`. `Represents s a`
says the key space of `s` stores exactly `a`. Every operation run alone with no network failure
keeps `Represents` and answers as the map does, as long as no session is registered under the
id `ids`; `serial_calls_refine_sessions` carries this over whole runs from an empty Redis. That
id is the exception: its metadata key `session:ids` is the store's own index, which `Register`
overwrites with a string (`register_ids_breaks_index`). `Register` on a live id writes the new
meta over the old and enters a new connection on a fresh queue (`register_live_replaces`).
-/

namespace McpGateway.Session

open RedisStore

/-- Sessions by id. -/
abbrev Sessions := String → Option Meta

theorem sessionKey_inj {a b : String} : keyPrefix ++ a = keyPrefix ++ b ↔ a = b := by
  constructor
  · intro h
    have := congrArg String.data h
    simp only [String.data_append] at this
    exact String.ext (List.append_cancel_left this)
  · rintro rfl; rfl

theorem sessionKey_eq_idsKey {a : String} : keyPrefix ++ a = idsKey ↔ a = "ids" := sessionKey_inj

def idsOf (s : RedisStore) : List String :=
  match s.keys idsKey with
  | some (.set ms) => ms
  | _ => []

def IndexOk (s : RedisStore) : Prop := s.keys idsKey = none ∨ s.keys idsKey = some (.set (idsOf s))

/-- The key space of `s` stores the sessions `a`. -/
structure Represents (s : RedisStore) (a : Sessions) : Prop where
  index : IndexOk s
  nodup : (idsOf s).Nodup
  mem : ∀ id, id ∈ idsOf s ↔ (a id).isSome
  key : ∀ id, id ≠ "ids" → s.keys (keyPrefix ++ id) = (a id).map fun m => .str m.toJson
  meta_id : ∀ id m, a id = some m → m.id = id
  no_ids : a "ids" = none
  connected : ∀ id, (s.connections id).isSome → (a id).isSome

theorem represents_new : Represents (RedisStore.new fun _ => none) fun _ => none where
  index := .inl rfl
  nodup := by simp [idsOf, RedisStore.new]
  mem _ := by simp [idsOf, RedisStore.new]
  key _ _ := rfl
  meta_id _ _ h := nomatch h
  no_ids := rfl
  connected _ h := by simp [RedisStore.new] at h

section

variable {s : RedisStore} {a : Sessions}

def addMember (ms : List String) (id : String) : List String := if id ∈ ms then ms else ms ++ [id]

theorem mem_addMember {ms : List String} {x id : String} : x ∈ addMember ms id ↔ x = id ∨ x ∈ ms := by
  unfold addMember; split
  · exact ⟨Or.inr, by rintro (rfl | h) <;> assumption⟩
  · simp [or_comm]

theorem nodup_addMember {ms : List String} {id : String} (h : ms.Nodup) : (addMember ms id).Nodup := by
  unfold addMember; split
  · exact h
  · rw [← List.concat_eq_append]; exact h.concat ‹_›

theorem keys_put (s : RedisStore) (k : String) (v : Option Value) (k' : String) :
    (s.put k v).keys k' = if k' = k then v else s.keys k' := Function.update_apply ..

theorem cmdSAdd_index (hidx : IndexOk s) (t : RedisStore) (ht : t.keys idsKey = s.keys idsKey)
    (id : String) : t.cmdSAdd idsKey id = .ok (t.put idsKey (some (.set (addMember (idsOf s) id)))) := by
  unfold RedisStore.cmdSAdd
  rcases hidx with h0 | h0 <;> rw [ht, h0]
  · simp [idsOf, h0, addMember]
  · rfl

theorem register_up (hidx : IndexOk s) (meta : Meta) (hm : meta.id ≠ "ids") :
    register Net.up meta s =
      (.ok ⟨meta, s.nextQueue⟩,
        ((((s.put (keyPrefix ++ meta.id) (some (.str meta.toJson))).put idsKey
          (some (.set (addMember (idsOf s) meta.id)))).makeQueue).setConnection meta.id
            (some ⟨meta, s.nextQueue⟩)).cmdPublish (Update.toJson ⟨"create", some meta, none⟩)) := by
  have hk : idsKey ≠ keyPrefix ++ meta.id := fun he => hm (sessionKey_eq_idsKey.mp he.symm)
  have := cmdSAdd_index hidx (s.cmdSet (keyPrefix ++ meta.id) meta.toJson) (by simp [cmdSet, keys_put, hk]) meta.id
  simp only [register, Net.up, Net.run, Bool.false_eq_true, if_false] at this ⊢
  rw [this]
  rfl

@[simp] theorem idsOf_cmdPublish (s : RedisStore) (payload : Json) : idsOf (s.cmdPublish payload) = idsOf s := rfl

@[simp] theorem idsOf_setConnection (s : RedisStore) (id : String) (c : Option RedisConnection) :
    idsOf (s.setConnection id c) = idsOf s := rfl

@[simp] theorem idsOf_makeQueue (s : RedisStore) : idsOf s.makeQueue = idsOf s := rfl

@[simp] theorem idsOf_put_idsKey (s : RedisStore) (ms : List String) :
    idsOf (s.put idsKey (some (.set ms))) = ms := by
  simp [idsOf, keys_put]

theorem Represents.update (h : Represents s a) {t : RedisStore} {id : String} {v : Option Meta}
    (hid : id ≠ "ids") (hv : ∀ m, v = some m → m.id = id) (hidx : IndexOk t)
    (hnodup : (idsOf t).Nodup) (hmem : ∀ i, i ∈ idsOf t ↔ if i = id then v.isSome = true else i ∈ idsOf s)
    (hkey : ∀ i, i ≠ "ids" → t.keys (keyPrefix ++ i) =
      if i = id then v.map (fun m => .str m.toJson) else s.keys (keyPrefix ++ i))
    (hconn : ∀ i, i ≠ id → t.connections i = s.connections i)
    (hconnid : (t.connections id).isSome → v.isSome) :
    Represents t (Function.update a id v) where
  index := hidx
  nodup := hnodup
  mem i := by by_cases e : i = id <;> simp [hmem, e, Function.update_apply, h.mem]
  key i hi := by
    rw [hkey i hi]
    by_cases e : i = id <;> simp [e, Function.update_apply, h.key i hi]
  meta_id i m hi := by
    by_cases e : i = id
    · subst e; exact hv m (by simpa using hi)
    · exact h.meta_id i m (by simpa [Function.update_apply, e] using hi)
  no_ids := by simp [Function.update_apply, Ne.symm hid, h.no_ids]
  connected i hc := by
    by_cases e : i = id
    · subst e; simpa using hconnid hc
    · rw [hconn i e] at hc
      simpa [Function.update_apply, e] using h.connected i hc

theorem register_sim (h : Represents s a) (meta : Meta) (hm : meta.id ≠ "ids") :
    (register Net.up meta s).1 = .ok ⟨meta, s.nextQueue⟩ ∧
      Represents (register Net.up meta s).2 (Function.update a meta.id (some meta)) := by
  rw [register_up h.index meta hm]
  refine ⟨rfl, h.update hm (fun m hm' => by cases hm'; rfl) (.inr (by simp [idsOf, keys_put]))
    (by simpa using nodup_addMember h.nodup) (fun i => ?_) (fun i hi => ?_) (fun i e => ?_)
    (fun _ => rfl)⟩
  · by_cases e : i = meta.id <;> simp [mem_addMember, e]
  · simp [keys_put, sessionKey_inj, sessionKey_eq_idsKey, hi]
  · simp [Function.update_apply, e]

theorem Represents.makeQueue (h : Represents s a) : Represents s.makeQueue a :=
  ⟨h.index, h.nodup, h.mem, h.key, h.meta_id, h.no_ids, h.connected⟩

theorem Represents.ne_ids (h : Represents s a) {id : String} {m : Meta} (hm : a id = some m) : id ≠ "ids" := by
  rintro rfl; simp [h.no_ids] at hm

theorem Represents.isMember (h : Represents s a) (id : String) :
    s.cmdSIsMember idsKey id = .ok (a id).isSome := by
  have hm := h.mem id
  unfold cmdSIsMember
  rcases h.index with h0 | h0 <;> rw [h0]
  · simp only [idsOf, h0, List.not_mem_nil, false_iff] at hm; simp [hm]
  · simp [hm]

theorem Represents.getKey (h : Represents s a) {id : String} {m : Meta} (hm : a id = some m) :
    s.cmdGet (keyPrefix ++ id) = .ok m.toJson := by
  simp [cmdGet, h.key id (h.ne_ids hm), hm]

theorem get_sim (h : Represents s a) (id : String) :
    RedisStore.get Net.up id s =
      match a id with
      | some m => (.ok ⟨m, s.nextQueue⟩, s.makeQueue)
      | none => (.error .sessionNotFound, s) := by
  simp only [RedisStore.get, Net.run_up, h.isMember]
  cases hm : a id with
  | none => rfl
  | some m => simp [h.getKey hm, Meta.decode_toJson]

def setOrNone (ms : List String) : Option Value := if ms = [] then none else some (.set ms)

@[simp] theorem idsOf_put_setOrNone (s : RedisStore) (ms : List String) :
    idsOf (s.put idsKey (setOrNone ms)) = ms := by
  unfold setOrNone; split <;> simp_all [idsOf, keys_put]

theorem Represents.setConnection_none (h : Represents s a) (id : String) (hid : a id = none) :
    Represents (s.setConnection id none) a := by
  refine ⟨h.index, h.nodup, h.mem, h.key, h.meta_id, h.no_ids, fun i hc => ?_⟩
  by_cases e : i = id
  · subst e; simp at hc
  · simp only [connections_setConnection, Function.update_apply, e, if_false] at hc
    exact h.connected i hc

theorem unregister_up (h : Represents s a) {id : String} {m : Meta} (hm : a id = some m) :
    unregister Net.up id s =
      (.ok (), (((s.setConnection id none).put (keyPrefix ++ id) none).put idsKey
        (setOrNone ((idsOf s).erase id))).cmdPublish (Update.toJson ⟨"delete", some { Meta.zero with id := id }, none⟩)) := by
  have hk : idsKey ≠ keyPrefix ++ id := fun he => h.ne_ids hm (sessionKey_eq_idsKey.mp he.symm)
  have hset : s.keys idsKey = some (.set (idsOf s)) := by
    rcases h.index with h0 | h0
    · have := (h.mem id).mpr (by simp [hm]); simp [idsOf, h0] at this
    · exact h0
  have hrem : (((s.setConnection id none).put (keyPrefix ++ id) none)).cmdSRem idsKey id =
      .ok (((s.setConnection id none).put (keyPrefix ++ id) none).put idsKey (setOrNone ((idsOf s).erase id))) := by
    simp [cmdSRem, keys_put, hk, hset, setOrNone]
  have hmem : (s.setConnection id none).cmdSIsMember idsKey id = .ok true := by
    simpa [hm] using h.isMember id
  simp only [unregister, Net.run_up, hmem, Net.up, Bool.false_eq_true, if_false]
  simp only [cmdDel] at hrem ⊢
  rw [hrem]
  rfl

theorem unregister_sim (h : Represents s a) (id : String) :
    (unregister Net.up id s).1 = (if (a id).isSome then .ok () else .error .sessionNotFound) ∧
      Represents (unregister Net.up id s).2 (Function.update a id none) := by
  cases hm : a id with
  | none =>
    have hmem : (s.setConnection id none).cmdSIsMember idsKey id = .ok false := by
      simpa [hm] using h.isMember id
    simp only [unregister, Net.run_up, hmem, Option.isSome_none, Bool.false_eq_true, if_false, true_and]
    rw [show Function.update a id none = a from Function.update_eq_self_iff.mpr hm.symm]
    exact h.setConnection_none id hm
  | some m =>
    rw [unregister_up h hm]
    refine ⟨rfl, h.update (h.ne_ids hm) (fun _ h => nomatch h) ?_ (by simpa using h.nodup.erase id)
      (fun i => ?_) (fun i hi => ?_) (fun i e => ?_) (by simp)⟩
    · unfold IndexOk
      rw [idsOf_cmdPublish, idsOf_put_setOrNone]
      by_cases he : (idsOf s).erase id = []
      · left; simp [keys_put, setOrNone, he]
      · right; simp [keys_put, setOrNone, he]
    · by_cases e : i = id <;> simp [h.nodup.mem_erase_iff, e]
    · simp [keys_put, sessionKey_inj, sessionKey_eq_idsKey, hi]
    · simp [Function.update_apply, e]

theorem listLoop_sim (ids : List String) (i : Nat) :
    ∀ {s}, Represents s a → (∀ id ∈ ids, (a id).isSome) →
      ((listLoop Net.up i ids s).1.map RedisConnection.meta = ids.filterMap a ∧
        Represents (listLoop Net.up i ids s).2 a) := by
  induction ids generalizing i with
  | nil => exact fun h _ => ⟨rfl, h⟩
  | cons id rest ih =>
    intro s h hids
    obtain ⟨m, hm⟩ := Option.isSome_iff_exists.mp (hids id (.head _))
    obtain ⟨h1, h2⟩ := ih (i + 1) h.makeQueue fun j hj => hids j (.tail _ hj)
    simp only [listLoop, Net.run_up, h.getKey hm, Meta.decode_toJson, List.map_cons, List.filterMap_cons, hm]
    exact ⟨congrArg _ h1, h2⟩

theorem list_sim (h : Represents s a) :
    ∃ cs, (list Net.up s).1 = .ok cs ∧ cs.map RedisConnection.meta = (idsOf s).filterMap a ∧
      Represents (list Net.up s).2 a := by
  have hmem : s.cmdSMembers idsKey = .ok (idsOf s) := by
    unfold cmdSMembers
    rcases h.index with h0 | h0 <;> rw [h0]
    simp [idsOf, h0]
  have hlist : list Net.up s = (.ok (listLoop Net.up 1 (idsOf s) s).1, (listLoop Net.up 1 (idsOf s) s).2) := by
    simp only [list, Net.run_up, hmem]
  obtain ⟨h1, h2⟩ := listLoop_sim (idsOf s) 1 h fun id hid => (h.mem id).mp hid
  exact ⟨_, by rw [hlist], h1, by rw [hlist]; exact h2⟩

theorem listed_metas (h : Represents s a) :
    ((idsOf s).filterMap a).Nodup ∧ ∀ m, m ∈ (idsOf s).filterMap a ↔ a m.id = some m := by
  refine ⟨h.nodup.filterMap fun i j m hi hj => ?_, fun m => ?_⟩
  · rw [← h.meta_id i m hi, h.meta_id j m hj]
  · simp only [List.mem_filterMap]
    constructor
    · rintro ⟨i, -, hi⟩; rwa [h.meta_id i m hi]
    · intro hm; exact ⟨m.id, (h.mem _).mpr (by simp [hm]), hm⟩

end

-- ---------------------------------------------------------------------------
-- Serial runs
-- ---------------------------------------------------------------------------

inductive Call where
  | register (meta : Meta)
  | get (id : String)
  | unregister (id : String)
  | list

inductive Answer where
  | register (r : Except StoreError RedisConnection)
  | get (r : Except StoreError RedisConnection)
  | unregister (r : Except StoreError Unit)
  | list (r : Except StoreError (List RedisConnection))

def Call.run (net : Net) (s : RedisStore) : Call → Answer × RedisStore
  | .register meta => let r := RedisStore.register net meta s; (.register r.1, r.2)
  | .get id => let r := RedisStore.get net id s; (.get r.1, r.2)
  | .unregister id => let r := RedisStore.unregister net id s; (.unregister r.1, r.2)
  | .list => let r := RedisStore.list net s; (.list r.1, r.2)

def runSerial (s : RedisStore) : List Call → List Answer × RedisStore
  | [] => ([], s)
  | c :: cs =>
    let r := c.run Net.up s
    let rest := runSerial r.2 cs
    (r.1 :: rest.1, rest.2)

namespace Sessions

def next (a : Sessions) : Call → Sessions
  | .register m => Function.update a m.id (some m)
  | .unregister id => Function.update a id none
  | _ => a

def Answers (a : Sessions) : Call → Answer → Prop
  | .register m, .register r => ∃ c, r = .ok c ∧ c.meta = m
  | .get id, .get r =>
    match a id with
    | some m => ∃ c, r = .ok c ∧ c.meta = m
    | none => r = .error .sessionNotFound
  | .unregister id, .unregister r => r = if (a id).isSome then .ok () else .error .sessionNotFound
  | .list, .list r =>
    ∃ cs, r = .ok cs ∧ (cs.map (·.meta)).Nodup ∧ ∀ m, m ∈ cs.map (·.meta) ↔ a m.id = some m
  | _, _ => False

end Sessions

def Call.Fits : Call → Prop
  | .register m => m.id ≠ "ids"
  | _ => True

theorem Call.run_sim {s : RedisStore} {a : Sessions} (h : Represents s a) (c : Call) (hc : c.Fits) :
    a.Answers c (c.run Net.up s).1 ∧ Represents (c.run Net.up s).2 (a.next c) := by
  cases c with
  | register m =>
    obtain ⟨h1, h2⟩ := register_sim h m hc
    exact ⟨⟨_, h1, rfl⟩, h2⟩
  | get id =>
    simp only [Call.run, get_sim h, Sessions.next]
    cases hm : a id with
    | none => exact ⟨by simp [Sessions.Answers, hm], h⟩
    | some m => exact ⟨by simp [Sessions.Answers, hm], h.makeQueue⟩
  | unregister id => exact unregister_sim h id
  | list =>
    obtain ⟨cs, h1, h2, h3⟩ := list_sim h
    obtain ⟨hn, hm⟩ := listed_metas h
    exact ⟨⟨cs, h1, h2 ▸ hn, fun m => h2 ▸ hm m⟩, h3⟩

theorem runSerial_represents (calls : List Call) (hcalls : ∀ c ∈ calls, c.Fits) :
    ∀ {s a}, Represents s a → Represents (runSerial s calls).2 (calls.foldl Sessions.next a) := by
  induction calls with
  | nil => exact fun h => h
  | cons c cs ih =>
    intro s a h
    exact ih (fun c' hc' => hcalls c' (.tail _ hc')) (c.run_sim h (hcalls c (.head _))).2

/-- `Register` on a live session always succeeds and replaces it: the new meta is written
over the stored one whatever it is, and the map gets a new connection on a fresh, empty
queue. The connection it replaces is never returned. -/
theorem register_live_replaces {s : RedisStore} (hr : Reachable s) {id : String} {c : RedisConnection}
    (hidx : s.keys idsKey = some (.set (idsOf s))) (hlive : id ∈ idsOf s) (hid : id ≠ "ids")
    (hc : s.connections id = some c) (meta : Meta) (hm : meta.id = id) :
    (register Net.up meta s).1 = .ok ⟨meta, s.nextQueue⟩ ∧ (⟨meta, s.nextQueue⟩ : RedisConnection) ≠ c ∧
      (register Net.up meta s).2.connections id = some ⟨meta, s.nextQueue⟩ ∧
      (register Net.up meta s).2.queues s.nextQueue = [] ∧
      (register Net.up meta s).2.keys (keyPrefix ++ id) = some (.str meta.toJson) ∧
      idsOf (register Net.up meta s).2 = idsOf s := by
  subst hm
  have hk : keyPrefix ++ meta.id ≠ idsKey := fun he => hid (sessionKey_eq_idsKey.mp he)
  have hq := (reachable_wellQueued hr).allocated _ c hc
  rw [register_up (.inr hidx) meta hid]
  refine ⟨rfl, fun he => ?_, by simp, by simp, by simp [keys_put, hk],
    by simp [addMember, hlive]⟩
  subst he
  exact Nat.lt_irrefl _ hq

theorem reregister_resets_queue :
    let m : Meta := ⟨"s", "2025-01-01T00:00:00Z", "/", "streamable"⟩
    let msg : Message := ⟨"message", "{}"⟩
    let s₁ := (RedisStore.register Net.up m (RedisStore.new fun _ => none)).2
    ((RedisStore.send Net.up ⟨m, 0⟩ (some msg) s₁).2.handleUpdates).map
        (fun s => (s.connections "s", s.queues 0, (RedisStore.register Net.up m s).1,
          (RedisStore.register Net.up m s).2.connections "s", (RedisStore.register Net.up m s).2.queues 1)) =
      some (some ⟨m, 0⟩, [msg], .ok ⟨m, 1⟩, some ⟨m, 1⟩, []) :=
  rfl

theorem register_live_replaces_registered :
    let m : Meta := ⟨"s", "2025-01-01T00:00:00Z", "/", "streamable"⟩
    let s := (RedisStore.register Net.up m (RedisStore.new fun _ => none)).2
    Reachable s ∧ s.keys idsKey = some (.set (idsOf s)) ∧ "s" ∈ idsOf s ∧ "s" ≠ "ids" ∧
      s.connections "s" = some ⟨m, 0⟩ ∧ m.id = "s" ∧
      (register Net.up m s).1 = .ok ⟨m, s.nextQueue⟩ ∧ (⟨m, s.nextQueue⟩ : RedisConnection) ≠ ⟨m, 0⟩ ∧
      (register Net.up m s).2.connections "s" = some ⟨m, s.nextQueue⟩ ∧
      (register Net.up m s).2.queues s.nextQueue = [] ∧
      (register Net.up m s).2.keys (keyPrefix ++ "s") = some (.str m.toJson) ∧
      idsOf (register Net.up m s).2 = idsOf s :=
  have hr : Reachable _ := ⟨_, .single (.register Net.up ⟨"s", "2025-01-01T00:00:00Z", "/", "streamable"⟩)⟩
  ⟨hr, rfl, by decide, by decide, rfl, rfl,
    register_live_replaces hr (by rfl) (by decide) (by decide) (by rfl) _ rfl⟩

end McpGateway.Session
