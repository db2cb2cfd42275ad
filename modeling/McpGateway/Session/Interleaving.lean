import McpGateway.Session.Atomicity
import McpGateway.Session.Lifecycle

/-!
# Calls on distinct sessions do not interfere

A call on session `x` reads and writes only `x`'s share of the store, `view x`. A command of a
call on another session leaves `view x` as it was (`step_view_of_ne`), and what a command of
`x`'s own call does depends on `view x` alone (`step_congr`). So under any schedule of calls on
pairwise distinct ids, none of them `ids`, each session ends as if its call had run alone on
the starting store, and every other session is left as it was
(`distinct_calls_do_not_interfere`). Two calls on one id can end in a state no serial order
gives (`interleaving_orphans_connection`).
-/

namespace McpGateway.Session

open RedisStore

/-- What a call on session `x` reads and writes. -/
def view (x : String) (s : RedisStore) : Nat × Option Value × Option Meta :=
  ((idsOf s).count x, s.keys (keyPrefix ++ x), (s.connections x).map RedisConnection.meta)

section

variable {s s' : RedisStore}

-- ---------------------------------------------------------------------------
-- The index under each command
-- ---------------------------------------------------------------------------

theorem idsOf_put_of_ne {k : String} (hk : k ≠ idsKey) (v : Option Value) : idsOf (s.put k v) = idsOf s := by
  simp [idsOf, keys_put, Ne.symm hk]

theorem IndexOk.put {k : String} (h : IndexOk s) (hk : k ≠ idsKey) (v : Option Value) : IndexOk (s.put k v) := by
  unfold IndexOk
  rw [idsOf_put_of_ne hk, keys_put, if_neg (Ne.symm hk)]
  exact h

theorem IndexOk.of_replica (h : IndexOk s) (hk : s'.keys = s.keys) : IndexOk s' := by
  unfold IndexOk; rw [idsOf_of_keys hk, hk]; exact h

theorem cmdSIsMember_of_indexOk (h : IndexOk s) (x : String) :
    s.cmdSIsMember idsKey x = .ok (decide (x ∈ idsOf s)) := by
  unfold cmdSIsMember
  rcases h with h0 | h0 <;> rw [h0]
  simp [idsOf, h0]

theorem cmdSRem_of_indexOk (h : IndexOk s) (x : String) :
    ∃ s', s.cmdSRem idsKey x = .ok s' ∧ IndexOk s' ∧ s'.connections = s.connections := by
  unfold cmdSRem
  rcases h with h0 | h0 <;> rw [h0]
  · exact ⟨s, rfl, .inl h0, rfl⟩
  · refine ⟨_, rfl, ?_, rfl⟩
    show IndexOk (s.put idsKey (setOrNone ((idsOf s).erase x)))
    unfold IndexOk
    rw [idsOf_put_setOrNone, keys_put, if_pos rfl]
    unfold setOrNone; split
    · exact .inl rfl
    · exact .inr rfl

theorem count_addMember_self (l : List String) (x : String) :
    (addMember l x).count x = if 0 < l.count x then l.count x else l.count x + 1 := by
  unfold addMember
  by_cases hx : x ∈ l <;> simp [hx, List.count_pos_iff, List.count_eq_zero.mpr]

theorem count_addMember_of_ne {y x : String} (h : y ≠ x) (l : List String) :
    (addMember l x).count y = l.count y := by
  unfold addMember
  split <;> simp [List.count_append, List.count_singleton, Ne.symm h]

-- ---------------------------------------------------------------------------
-- Views under each command
-- ---------------------------------------------------------------------------

theorem view_put {y k : String} (hk : k ≠ idsKey) (hky : k ≠ keyPrefix ++ y) (v : Option Value)
    (s : RedisStore) : view y (s.put k v) = view y s := by
  simp [view, idsOf_put_of_ne hk, keys_put, Ne.symm hky]

theorem view_cmdSAdd_of_ne {x y : String} (hy : y ≠ "ids") (hxy : x ≠ y) (h : s.cmdSAdd idsKey x = .ok s') :
    view y s' = view y s := by
  obtain ⟨hids, hkeys⟩ := cmdSAdd_idsKey h
  have hc := (replica_eq_iff.mp (cmdSAdd_replica h)).1
  simp only [view, hids, count_addMember_of_ne (Ne.symm hxy), hc,
    hkeys _ fun he => hy (sessionKey_eq_idsKey.mp he)]

theorem view_cmdSRem_of_ne {x y : String} (hy : y ≠ "ids") (hxy : x ≠ y) (h : s.cmdSRem idsKey x = .ok s') :
    view y s' = view y s := by
  obtain ⟨hids, hkeys⟩ := cmdSRem_idsKey h
  have hc := (replica_eq_iff.mp (cmdSRem_replica h)).1
  simp only [view, hids, List.count_erase_of_ne (Ne.symm hxy), hc,
    hkeys _ fun he => hy (sessionKey_eq_idsKey.mp he)]

end

-- ---------------------------------------------------------------------------
-- One command of a call
-- ---------------------------------------------------------------------------

namespace Thread

def id? : Thread → Option String
  | .register m _ => some m.id
  | .unregister id _ => some id
  | .done => none

def Initial : Thread → Prop
  | .register m 0 => m.id ≠ "ids"
  | .unregister id 0 => id ≠ "ids"
  | _ => False

def call : Thread → RedisStore → RedisStore
  | .register m _, s => (RedisStore.register Net.up m s).2
  | .unregister id _, s => (RedisStore.unregister Net.up id s).2
  | .done, s => s

def run : Nat → Thread → RedisStore → Thread × RedisStore
  | 0, t, s => (t, s)
  | n + 1, t, s => let r := t.step s; run n r.1 r.2

variable {t : Thread} {s s' : RedisStore}

theorem Initial.id (h : t.Initial) : ∃ x, t.id? = some x ∧ x ≠ "ids" := by
  match t, h with
  | .register m 0, h => exact ⟨m.id, rfl, h⟩
  | .unregister id 0, h => exact ⟨id, rfl, h⟩

theorem step_id (t : Thread) (s : RedisStore) : (t.step s).1 = .done ∨ (t.step s).1.id? = t.id? := by
  cases t with
  | register m pc =>
    match pc with
    | 0 | 2 => exact .inr rfl
    | 1 => simp only [step]; split <;> simp [id?]
    | _ + 3 => exact .inl rfl
  | unregister x pc =>
    match pc with
    | 0 | 2 => exact .inr rfl
    | 1 => simp only [step]; split <;> simp [id?]
    | 3 => simp only [step]; split <;> simp [id?]
    | _ + 4 => exact .inl rfl
  | done => exact .inl rfl

theorem step_indexOk (ht : t.id? ≠ some "ids") (h : IndexOk s) : IndexOk (t.step s).2 := by
  cases t with
  | register m pc =>
    have hk : keyPrefix ++ m.id ≠ idsKey := fun he => ht (by simp [id?, sessionKey_eq_idsKey.mp he])
    match pc with
    | 0 => exact h.put hk _
    | 1 => rw [step, cmdSAdd_index h s rfl]; exact .inr (by simp [keys_put, idsOf])
    | 2 => exact h.of_replica rfl
    | _ + 3 => exact h.of_replica rfl
  | unregister x pc =>
    have hk : keyPrefix ++ x ≠ idsKey := fun he => ht (by simp [id?, sessionKey_eq_idsKey.mp he])
    match pc with
    | 0 => exact h.of_replica rfl
    | 1 => simp only [step]; split <;> exact h
    | 2 => exact h.put hk _
    | 3 =>
      obtain ⟨s', hs', hi, -⟩ := cmdSRem_of_indexOk h x
      rw [step, hs']; exact hi
    | _ + 4 => exact h.of_replica rfl
  | done => exact h

theorem step_view_of_ne {y : String} (ht : t.id? ≠ some "ids") (hy : y ≠ "ids") (hne : t.id? ≠ some y)
    (s : RedisStore) : view y (t.step s).2 = view y s := by
  cases t with
  | register m pc =>
    have hk : keyPrefix ++ m.id ≠ idsKey := fun he => ht (by simp [id?, sessionKey_eq_idsKey.mp he])
    have hmy : m.id ≠ y := fun he => hne (by simp [id?, he])
    match pc with
    | 0 => exact view_put hk (fun he => hmy (sessionKey_inj.mp he)) _ s
    | 1 =>
      simp only [step]
      split
      · exact view_cmdSAdd_of_ne hy hmy ‹_›
      · rfl
    | 2 => simp [view, step, Function.update_apply, Ne.symm hmy]
    | _ + 3 => rfl
  | unregister x pc =>
    have hk : keyPrefix ++ x ≠ idsKey := fun he => ht (by simp [id?, sessionKey_eq_idsKey.mp he])
    have hxy : x ≠ y := fun he => hne (by simp [id?, he])
    match pc with
    | 0 => simp [view, step, Function.update_apply, Ne.symm hxy]
    | 1 => simp only [step]; split <;> rfl
    | 2 => exact view_put hk (fun he => hxy (sessionKey_inj.mp he)) _ s
    | 3 =>
      simp only [step]
      split
      · exact view_cmdSRem_of_ne hy hxy ‹_›
      · rfl
    | _ + 4 => rfl
  | done => rfl

theorem step_congr {x : String} (ht : t.id? = some x) (hx : x ≠ "ids") (hv : view x s = view x s')
    (hi : IndexOk s) (hi' : IndexOk s') : (t.step s).1 = (t.step s').1 ∧ view x (t.step s).2 = view x (t.step s').2 := by
  have ⟨hc, hk, hn⟩ : (idsOf s).count x = (idsOf s').count x ∧
      s.keys (keyPrefix ++ x) = s'.keys (keyPrefix ++ x) ∧
      (s.connections x).map RedisConnection.meta = (s'.connections x).map RedisConnection.meta := by
    simpa [view] using hv
  have hkx : keyPrefix ++ x ≠ idsKey := fun he => hx (sessionKey_eq_idsKey.mp he)
  cases t with
  | register m pc =>
    obtain rfl : m.id = x := by simpa [id?] using ht
    match pc with
    | 0 =>
      refine ⟨rfl, ?_⟩
      simp only [step, view, RedisStore.cmdSet, idsOf_put_of_ne hkx, keys_put, ite_true, connections_put, hc, hn]
    | 1 =>
      simp only [step, cmdSAdd_index hi s rfl, cmdSAdd_index hi' s' rfl, true_and]
      simp only [view, idsOf_put_idsKey, count_addMember_self, hc, keys_put, if_neg hkx, hk, connections_put, hn]
    | 2 => exact ⟨rfl, by simp [view, step, hc, hk]⟩
    | _ + 3 => exact ⟨rfl, hv⟩
  | unregister y pc =>
    obtain rfl : y = x := by simpa [id?] using ht
    match pc with
    | 0 => exact ⟨rfl, by simp [view, step, idsOf_setConnection, hc, hk]⟩
    | 1 =>
      have hm : (decide (y ∈ idsOf s)) = decide (y ∈ idsOf s') := by
        simp only [← List.count_pos_iff, hc]
      simp only [step, cmdSIsMember_of_indexOk hi, cmdSIsMember_of_indexOk hi', hm]
      split <;> exact ⟨rfl, hv⟩
    | 2 =>
      refine ⟨rfl, ?_⟩
      simp only [step, view, RedisStore.cmdDel, idsOf_put_of_ne hkx, keys_put, ite_true, connections_put, hc, hn]
    | 3 =>
      obtain ⟨u, hu, -, huc⟩ := cmdSRem_of_indexOk hi y
      obtain ⟨u', hu', -, huc'⟩ := cmdSRem_of_indexOk hi' y
      simp only [step, hu, hu', true_and]
      obtain ⟨hids, hkeys⟩ := cmdSRem_idsKey hu
      obtain ⟨hids', hkeys'⟩ := cmdSRem_idsKey hu'
      simp only [view, hids, hids', List.count_erase_self, hc, hkeys _ hkx, hkeys' _ hkx, hk, huc, huc', hn]
    | _ + 4 => exact ⟨rfl, hv⟩
  | done => exact ⟨rfl, hv⟩

-- ---------------------------------------------------------------------------
-- A call run alone
-- ---------------------------------------------------------------------------

theorem run_succ (n : Nat) (t : Thread) (s : RedisStore) :
    run (n + 1) t s = ((run n t s).1.step (run n t s).2) := by
  induction n generalizing t s with
  | zero => rfl
  | succ n ih => rw [run, ih]; rfl

theorem run_id (n : Nat) (t : Thread) (s : RedisStore) : (run n t s).1 = .done ∨ (run n t s).1.id? = t.id? := by
  induction n with
  | zero => exact .inr rfl
  | succ n ih =>
    rw [run_succ]
    rcases ih with h | h
    · exact .inl (by rw [h]; rfl)
    · rcases step_id (run n t s).1 (run n t s).2 with h' | h'
      · exact .inl h'
      · exact .inr (h'.trans h)

theorem id?_ne_ids_of_run {t₀ : Thread} (h0 : t₀.id? ≠ some "ids") (n : Nat) (s : RedisStore) :
    (run n t₀ s).1.id? ≠ some "ids" := by
  rcases run_id n t₀ s with h | h <;> rw [h]
  · simp [id?]
  · exact h0

theorem run_indexOk {t₀ : Thread} (h0 : t₀.id? ≠ some "ids") (h : IndexOk s) (n : Nat) : IndexOk (run n t₀ s).2 := by
  induction n with
  | zero => exact h
  | succ n ih => rw [run_succ]; exact step_indexOk (id?_ne_ids_of_run h0 n s) ih

theorem run_done_stable (h : (run n t s).1 = .done) (j : Nat) : run (n + j) t s = run n t s := by
  induction j with
  | zero => rfl
  | succ j ih => rw [← Nat.add_assoc, run_succ, ih, h]; exact Prod.ext h.symm rfl

/-- A call started at its first command is done after five commands, where its store
operation run alone ends. -/
theorem run_five (h : t.Initial) (s : RedisStore) : run 5 t s = (.done, t.call s) := by
  match t, h with
  | .register m 0, _ =>
    cases h' : (s.cmdSet (keyPrefix ++ m.id) m.toJson).cmdSAdd idsKey m.id <;>
      simp [run, step, call, RedisStore.register, Net.up, Net.run, RedisStore.publishUpdate, h']
  | .unregister id 0, _ =>
    cases h' : (s.setConnection id none).cmdSIsMember idsKey id with
    | error e => simp [run, step, call, RedisStore.unregister, Net.up, Net.run, h']
    | ok b =>
      cases b
      · simp [run, step, call, RedisStore.unregister, Net.up, Net.run, h']
      · cases h'' : ((s.setConnection id none).cmdDel (keyPrefix ++ id)).cmdSRem idsKey id <;>
          simp [run, step, call, RedisStore.unregister, Net.up, Net.run, RedisStore.publishUpdate, h', h'']

theorem run_done (h : t.Initial) (hd : (run n t s).1 = .done) : (run n t s).2 = t.call s := by
  have h5 : (run 5 t s).1 = .done := by rw [run_five h]
  rcases Nat.le_total n 5 with hn | hn
  · obtain ⟨j, hj⟩ := Nat.exists_eq_add_of_le hn
    rw [← run_done_stable hd j, ← hj, run_five h]
  · obtain ⟨j, hj⟩ := Nat.exists_eq_add_of_le hn
    rw [hj, run_done_stable h5 j, run_five h]

end Thread

-- ---------------------------------------------------------------------------
-- Any schedule
-- ---------------------------------------------------------------------------

def Schedule.started : List Schedule → List Thread
  | [] => []
  | .start t :: sched => t :: Schedule.started sched
  | .run _ :: sched => Schedule.started sched

/-- Calls in flight from `s0`, started as `ts`: each thread is its started call run alone
for some commands, with its session's view as that lone run left it, and the sessions no
call is for are as in `s0`. -/
structure Calls.Sim (s0 : RedisStore) (ts : List Thread) (c : Calls) : Prop where
  length : c.threads.length = ts.length
  indexOk : IndexOk c.store
  run : ∀ (i : Nat) (t₀ : Thread), ts[i]? = some t₀ → ∃ n, c.threads[i]? = some (t₀.run n s0).1 ∧
    ∀ x, t₀.id? = some x → view x c.store = view x (t₀.run n s0).2
  untouched : ∀ x, x ≠ "ids" → (∀ t₀ ∈ ts, t₀.id? ≠ some x) → view x c.store = view x s0

section

variable {s0 : RedisStore} {ts : List Thread} {c : Calls}

theorem lt_of_getElem?_eq_some {l : List α} {i : Nat} {a : α} (h : l[i]? = some a) : i < l.length := by
  by_contra hn; rw [List.getElem?_eq_none (by omega)] at h; cases h

theorem ne_id_of_nodup (hd : (ts.map Thread.id?).Nodup) {i j : Nat} (hij : i ≠ j) {a b : Thread}
    (ha : ts[i]? = some a) (hb : ts[j]? = some b) : a.id? ≠ b.id? := by
  intro he
  have hi : (ts.map Thread.id?)[i]? = (ts.map Thread.id?)[j]? := by simp [List.getElem?_map, ha, hb, he]
  exact hij (List.getElem?_inj (by simpa using lt_of_getElem?_eq_some ha) hd hi)

theorem Calls.Sim.step_start (h : Calls.Sim s0 ts c) (t : Thread) (hinit : t.Initial)
    (hd : ((ts ++ [t]).map Thread.id?).Nodup) : Calls.Sim s0 (ts ++ [t]) (c.step (.start t)) := by
  have hfresh : ∀ t₀ ∈ ts, t₀.id? ≠ t.id? := fun t₀ h₀ he => by
    rw [List.map_append, List.nodup_append] at hd
    exact hd.2.2 (List.mem_map_of_mem _ h₀) (by simp [he])
  refine ⟨by simp [Calls.step, h.length], h.indexOk, fun i t₀ hi => ?_, fun x hx hn => ?_⟩
  · rcases Nat.lt_or_ge i ts.length with hl | hl
    · rw [List.getElem?_append_left hl] at hi
      obtain ⟨n, hn, hv⟩ := h.run i t₀ hi
      exact ⟨n, by rw [Calls.step, List.getElem?_append_left (h.length ▸ hl)]; exact hn, hv⟩
    · have hi' := hi
      rw [List.getElem?_append_right hl] at hi
      have hieq : i = ts.length := by
        have := lt_of_getElem?_eq_some hi'; simp at this; omega
      subst hieq
      simp only [Nat.sub_self, List.getElem?_cons_zero, Option.some.injEq] at hi
      subst hi
      refine ⟨0, by simp [Calls.step, ← h.length, Thread.run], fun x hx => ?_⟩
      obtain ⟨x', hx', hxi⟩ := hinit.id
      obtain rfl : x = x' := Option.some.inj (hx.symm.trans hx')
      exact h.untouched x hxi fun t₀ h₀ he => hfresh t₀ h₀ (he.trans hx.symm)
  · exact h.untouched x hx fun t₀ h₀ => hn t₀ (List.mem_append_left _ h₀)

theorem Calls.Sim.step_run (h : Calls.Sim s0 ts c) (hs0 : IndexOk s0) (hinit : ∀ t ∈ ts, t.Initial)
    (hd : (ts.map Thread.id?).Nodup) (j : Nat) : Calls.Sim s0 ts (c.step (.run j)) := by
  simp only [Calls.step]
  split
  · rename_i t htj
    have hj : j < ts.length := h.length ▸ lt_of_getElem?_eq_some htj
    obtain ⟨t₀, ht₀⟩ : ∃ t₀, ts[j]? = some t₀ := ⟨_, List.getElem?_eq_getElem hj⟩
    obtain ⟨n, hn, hv⟩ := h.run j t₀ ht₀
    rw [htj, Option.some.injEq] at hn
    subst hn
    obtain ⟨x₀, hx₀, hx₀i⟩ := (hinit t₀ (List.mem_iff_getElem?.mpr ⟨_, ht₀⟩)).id
    have hids₀ : t₀.id? ≠ some "ids" := by rw [hx₀]; simpa using hx₀i
    have hids := Thread.id?_ne_ids_of_run hids₀ n s0
    /- The command of thread `j` leaves every other session's view alone. -/
    have hframe : ∀ y, y ≠ "ids" → t₀.id? ≠ some y →
        view y ((t₀.run n s0).1.step c.store).2 = view y c.store := fun y hy hne =>
      Thread.step_view_of_ne hids hy (by
        rcases Thread.run_id n t₀ s0 with e | e <;> rw [e]
        · simp [Thread.id?]
        · exact hne) _
    /- And does to its own session what the lone run does. -/
    have hcongr : ((t₀.run n s0).1.step c.store).1 = ((t₀.run n s0).1.step (t₀.run n s0).2).1 ∧
        view x₀ ((t₀.run n s0).1.step c.store).2 = view x₀ ((t₀.run n s0).1.step (t₀.run n s0).2).2 := by
      rcases Thread.run_id n t₀ s0 with hdone | hid
      · rw [hdone]; exact ⟨rfl, hv x₀ hx₀⟩
      · exact Thread.step_congr (hid.trans hx₀) hx₀i (hv x₀ hx₀) h.indexOk (Thread.run_indexOk hids₀ hs0 n)
    refine ⟨by simp [h.length], Thread.step_indexOk hids h.indexOk, fun i t₁ hi => ?_, fun x hx hn => ?_⟩
    · by_cases hij : i = j
      · subst hij
        rw [ht₀, Option.some.injEq] at hi
        subst hi
        refine ⟨n + 1, by simp [List.getElem?_set, h.length ▸ hj, Thread.run_succ, hcongr.1], fun x hx => ?_⟩
        obtain rfl : x = x₀ := Option.some.inj (hx.symm.trans hx₀)
        rw [Thread.run_succ]; exact hcongr.2
      · obtain ⟨m, hm, hv'⟩ := h.run i t₁ hi
        refine ⟨m, by rw [List.getElem?_set_ne (Ne.symm hij)]; exact hm, fun x hx => ?_⟩
        rw [← hv' x hx]
        obtain ⟨x₁, hx₁, hx₁i⟩ := (hinit t₁ (List.mem_iff_getElem?.mpr ⟨_, hi⟩)).id
        obtain rfl : x = x₁ := Option.some.inj (hx.symm.trans hx₁)
        exact hframe x hx₁i fun he => ne_id_of_nodup hd (Ne.symm hij) ht₀ hi (he.trans hx.symm)
    · rw [hframe x hx (hn t₀ (List.mem_iff_getElem?.mpr ⟨_, ht₀⟩))]
      exact h.untouched x hx hn
  · exact h
theorem Calls.Sim.init (s0 : RedisStore) (hs0 : IndexOk s0) : Calls.Sim s0 [] ⟨s0, []⟩ :=
  ⟨rfl, hs0, fun _ _ h => by simp at h, fun _ _ _ => rfl⟩

theorem Calls.Sim.runAll (h : Calls.Sim s0 ts c) (hs0 : IndexOk s0) (sched : List Schedule)
    (hinit : ∀ t ∈ ts ++ Schedule.started sched, t.Initial)
    (hd : ((ts ++ Schedule.started sched).map Thread.id?).Nodup) :
    Calls.Sim s0 (ts ++ Schedule.started sched) (c.runAll sched) := by
  induction sched generalizing ts c with
  | nil => simpa [Schedule.started, Calls.runAll] using h
  | cons e sched ih =>
    cases e with
    | start t =>
      have hts : ts ++ Schedule.started (.start t :: sched) = ts ++ [t] ++ Schedule.started sched := by
        simp [Schedule.started]
      rw [hts] at hinit hd ⊢
      have h' := h.step_start t (hinit t (by simp)) (hd.sublist ((List.sublist_append_left _ _).map _))
      exact ih h' hinit hd
    | run j =>
      have h' := h.step_run hs0 (fun t ht => hinit t (List.mem_append_left _ ht))
        (hd.sublist ((List.sublist_append_left _ _).map _)) j
      exact ih h' hinit hd

end

/-- Register and Unregister calls on pairwise distinct session ids, none of them `ids`,
interleaved command by command under any schedule from a store whose index holds no
string: once every call is done, each session's share of the store is what its own call
run alone on the starting store leaves, and every session no call is for is untouched. -/
theorem distinct_calls_do_not_interfere {s0 : RedisStore} (hs0 : IndexOk s0) (sched : List Schedule)
    (hinit : ∀ t ∈ Schedule.started sched, t.Initial)
    (hd : ((Schedule.started sched).map Thread.id?).Nodup)
    (hdone : ∀ t ∈ (Calls.runAll ⟨s0, []⟩ sched).threads, t = .done) :
    (∀ t ∈ Schedule.started sched, ∀ x, t.id? = some x →
      view x (Calls.runAll ⟨s0, []⟩ sched).store = view x (t.call s0)) ∧
    ∀ x, x ≠ "ids" → (∀ t ∈ Schedule.started sched, t.id? ≠ some x) →
      view x (Calls.runAll ⟨s0, []⟩ sched).store = view x s0 := by
  have hsim : Calls.Sim s0 (Schedule.started sched) (Calls.runAll ⟨s0, []⟩ sched) := by
    simpa using (Calls.Sim.init s0 hs0).runAll hs0 sched (by simpa using hinit) (by simpa using hd)
  refine ⟨fun t ht x hx => ?_, hsim.untouched⟩
  obtain ⟨i, hi⟩ := List.mem_iff_getElem?.mp ht
  obtain ⟨n, hn, hv⟩ := hsim.run i t hi
  have hdn : (t.run n s0).1 = .done := hdone _ (List.mem_iff_getElem?.mpr ⟨_, hn⟩)
  rw [hv x hx, Thread.run_done (hinit t ht) hdn]

theorem distinct_calls_do_not_interfere_sample :
    let ma : Meta := ⟨"a", "2025-01-01T00:00:00Z", "/", "streamable"⟩
    let s0 := (RedisStore.register Net.up ⟨"b", "2025-01-01T00:00:00Z", "/", "streamable"⟩
      (RedisStore.new fun _ => none)).2
    let sched := [Schedule.start (.register ma 0), .start (.unregister "b" 0), .run 0, .run 1, .run 0,
      .run 1, .run 0, .run 1, .run 0, .run 1, .run 1]
    IndexOk s0 ∧ (∀ t ∈ Schedule.started sched, t.Initial) ∧
      ((Schedule.started sched).map Thread.id?).Nodup ∧
      (∀ t ∈ (Calls.runAll ⟨s0, []⟩ sched).threads, t = .done) ∧
      view "a" (Calls.runAll ⟨s0, []⟩ sched).store = view "a" ((Thread.register ma 0).call s0) := by
  intro ma s0 sched
  have hs0 : IndexOk s0 := .inr rfl
  have hinit : ∀ t ∈ Schedule.started sched, t.Initial := by
    simp [sched, Schedule.started, Thread.Initial, ma]
  have hd : ((Schedule.started sched).map Thread.id?).Nodup := by decide
  have hdone : ∀ t ∈ (Calls.runAll ⟨s0, []⟩ sched).threads, t = .done := by decide
  exact ⟨hs0, hinit, hd, hdone,
    (distinct_calls_do_not_interfere hs0 sched hinit hd hdone).1 _ (by simp [sched, Schedule.started]) "a" rfl⟩

end McpGateway.Session
