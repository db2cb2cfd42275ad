import McpGateway.Session.Queues

/-!
# Delivery through one session's queue

The subscriber pushes the message of every `event` update for session `id` onto the queue of
the connection the map holds for `id`, and a reader receives from it; `Watch` runs any
interleaving of the two on the store. `Ledger` is what a bounded FIFO that drops the newest
message promises. `queue_delivery`: from any reachable state, along any interleaving, the
reader has received exactly the first accepted messages in order and the rest wait in the
queue, never more than 100.
-/

namespace McpGateway.Session

open RedisStore

inductive Turn where
  | deliver (p : Option Json)
  | read

structure Watch where
  store : RedisStore
  received : List Message

namespace Watch

def step (q : Nat) (w : Watch) : Turn → Option Watch
  | .deliver p =>
    match handleUpdate p w.store with
    | .panic => none
    | .next s => some { w with store := s }
  | .read =>
    match w.store.receive q with
    | none => some w
    | some (m, s) => some ⟨s, w.received ++ [m]⟩

def run (q : Nat) (w : Watch) : List Turn → Option Watch
  | [] => some w
  | t :: ts => (w.step q t).bind fun w => run q w ts

end Watch

structure Ledger where
  accepted : List Message
  taken : Nat

namespace Ledger

def waiting (l : Ledger) : Nat := l.accepted.length - l.taken

def offer (id : String) (l : Ledger) : Option (String × Message) → Ledger
  | some (id', msg) =>
    if id' = id ∧ l.waiting < queueCapacity then { l with accepted := l.accepted ++ [msg] } else l
  | none => l

@[simp] theorem taken_offer (id : String) (l : Ledger) (t : Option (String × Message)) :
    (l.offer id t).taken = l.taken := by
  unfold offer; repeat' split
  all_goals rfl

def step (id : String) (l : Ledger) : Turn → Option Ledger
  | .deliver p => if payloadPanics p then none else some (l.offer id (payloadTarget p))
  | .read => some (if l.taken < l.accepted.length then { l with taken := l.taken + 1 } else l)

def run (id : String) (l : Ledger) : List Turn → Option Ledger
  | [] => some l
  | t :: ts => (l.step id t).bind fun l => run id l ts

theorem waiting_append {l : Ledger} (h : l.taken ≤ l.accepted.length) (msg : Message) :
    (⟨l.accepted ++ [msg], l.taken⟩ : Ledger).waiting = l.waiting + 1 := by
  simp only [waiting, List.length_append, List.length_singleton]; omega

/-- `n` copies of one event for `id`: the queue accepts as many as it has room for. -/
theorem run_deliver_replicate {id : String} {p : Option Json} {msg : Message}
    (hp : payloadPanics p = false) (ht : payloadTarget p = some (id, msg)) (ts : List Turn) (n : Nat) :
    ∀ l : Ledger, l.taken ≤ l.accepted.length →
      run id l (List.replicate n (.deliver p) ++ ts) =
        run id ⟨l.accepted ++ List.replicate (min n (queueCapacity - l.waiting)) msg, l.taken⟩ ts := by
  induction n with
  | zero => intro l _; simp
  | succ n ih =>
    intro l hl
    rw [List.replicate_succ, List.cons_append, run]
    simp only [step, hp, ht, offer, true_and, Bool.false_eq_true, if_false, Option.some_bind]
    split_ifs with hw
    · have hk : min (n + 1) (queueCapacity - l.waiting) = min n (queueCapacity - (l.waiting + 1)) + 1 := by
        omega
      rw [ih _ (by simp only [List.length_append, List.length_singleton]; omega), waiting_append hl, hk,
        List.replicate_succ, List.append_assoc, List.singleton_append]
    · have hk : ∀ k, min k (queueCapacity - l.waiting) = 0 := fun _ => by omega
      rw [ih _ hl, hk, hk]

end Ledger

/-- The simulation relation. -/
structure Tracks (id : String) (c : RedisConnection) (w : Watch) (l : Ledger) : Prop where
  current : w.store.connections id = some c
  wellQueued : WellQueued w.store
  log : w.received ++ w.store.queues c.queue = l.accepted
  taken : w.received.length = l.taken

namespace Tracks

variable {id : String} {c : RedisConnection} {w : Watch} {l : Ledger}

theorem waiting_eq (h : Tracks id c w l) : l.waiting = (w.store.queues c.queue).length := by
  simp [Ledger.waiting, ← h.log, ← h.taken]

theorem deliver (h : Tracks id c w l) (t : Option (String × Message)) :
    Tracks id c { w with store := w.store.deliver t } (l.offer id t) := by
  rcases t with _ | ⟨id', msg⟩
  · exact h
  · have hcur : (w.store.deliver (some (id', msg))).connections id = some c := by
      simp only [RedisStore.deliver]; split <;> simp [h.current]
    refine ⟨hcur, h.wellQueued.deliver (some (id', msg)), ?_, by simpa using h.taken⟩
    by_cases hid : id' = id
    · subst hid
      simp only [RedisStore.deliver, Ledger.offer, h.current, true_and, h.waiting_eq,
        queues_trySend_self]
      split <;> simp [← h.log]
    · simp only [Ledger.offer, hid, false_and, if_false, RedisStore.deliver]
      split
      · rename_i c' hc'
        rw [trySend_queues_of_ne _ _ (fun he => hid (h.wellQueued.owned _ _ _ _ hc' h.current he)), h.log]
      · exact h.log

theorem read (h : Tracks id c w l) :
    Option.Rel (Tracks id c) (w.step c.queue .read) (l.step id .read) := by
  simp only [Watch.step, Ledger.step]
  split
  · rename_i hr
    have hq : w.store.queues c.queue = [] := by
      unfold RedisStore.receive at hr; split at hr <;> simp_all
    have : ¬ l.taken < l.accepted.length := by simp [← h.log, ← h.taken, hq]
    simp only [this, if_false]
    exact .some h
  · rename_i m s hr
    obtain ⟨rest, hq, rfl⟩ := receive_eq_some.mp hr
    have : l.taken < l.accepted.length := by simp [← h.log, ← h.taken, hq]
    simp only [this, if_true]
    refine .some ⟨h.current, h.wellQueued.receive hr, ?_, by simp [h.taken]⟩
    simp [← h.log, hq]

theorem step (h : Tracks id c w l) (t : Turn) :
    Option.Rel (Tracks id c) (w.step c.queue t) (l.step id t) := by
  cases t with
  | read => exact h.read
  | deliver p =>
    simp only [Watch.step, Ledger.step, handleUpdate_eq]
    cases payloadPanics p
    · exact .some (h.deliver _)
    · exact .none

end Tracks

theorem rel_bind {r : α → β → Prop} {r' : γ → δ → Prop} {a : Option α} {b : Option β}
    {f : α → Option γ} {g : β → Option δ} (h : Option.Rel r a b)
    (hfg : ∀ x y, r x y → Option.Rel r' (f x) (g y)) : Option.Rel r' (a.bind f) (b.bind g) := by
  cases h with
  | some h => exact hfg _ _ h
  | none => exact .none

theorem rel_mono {r r' : α → β → Prop} {a : Option α} {b : Option β} (h : Option.Rel r a b)
    (hr : ∀ x y, r x y → r' x y) : Option.Rel r' a b := by
  cases h with
  | some h => exact .some (hr _ _ h)
  | none => exact .none

theorem tracks_run {id : String} {c : RedisConnection} (ts : List Turn) :
    ∀ {w l}, Tracks id c w l → Option.Rel (Tracks id c) (Watch.run c.queue w ts) (Ledger.run id l ts) := by
  induction ts with
  | nil => exact fun h => .some h
  | cons t ts ih =>
    intro w l h
    exact rel_bind (h.step t) fun _ _ h' => ih h'

/-- Any interleaving of subscriber iterations and receives, from any reachable state. -/
theorem queue_delivery {s : RedisStore} {id : String} {c : RedisConnection} (hr : Reachable s)
    (hc : s.connections id = some c) (ts : List Turn) :
    Option.Rel
      (fun w l => (w.store.queues c.queue).length ≤ queueCapacity ∧
        w.received = l.accepted.take l.taken ∧ w.received ++ w.store.queues c.queue = l.accepted)
      (Watch.run c.queue ⟨s, []⟩ ts) (Ledger.run id ⟨s.queues c.queue, 0⟩ ts) := by
  have h0 : Tracks id c ⟨s, []⟩ ⟨s.queues c.queue, 0⟩ := ⟨hc, reachable_wellQueued hr, rfl, rfl⟩
  exact rel_mono (tracks_run ts h0) fun w l h =>
    ⟨h.wellQueued.bounded _, by simp [← h.log, ← h.taken], h.log⟩

/-- The session `Register` has just entered gets 101 events and one read: the queue takes the
first 100 and drops the last, and the reader has the first. -/
theorem queue_delivery_registered :
    let meta : Meta := ⟨"s", "2025-01-01T00:00:00Z", "/", "streamable"⟩
    let s := (RedisStore.register Net.up meta (RedisStore.new fun _ => none)).2
    let msg : Message := ⟨"message", "{}"⟩
    let ts := List.replicate 101 (Turn.deliver (some (Update.toJson ⟨"event", some meta, some msg⟩))) ++ [.read]
    Reachable s ∧ s.connections "s" = some ⟨meta, 0⟩ ∧
      (Ledger.run "s" ⟨s.queues 0, 0⟩ ts).map (fun l => (l.accepted, l.taken)) = some (List.replicate 100 msg, 1) ∧
      Option.Rel
        (fun w l => (w.store.queues 0).length ≤ queueCapacity ∧
          w.received = l.accepted.take l.taken ∧ w.received ++ w.store.queues 0 = l.accepted)
        (Watch.run 0 ⟨s, []⟩ ts) (Ledger.run "s" ⟨s.queues 0, 0⟩ ts) := by
  intro meta s msg ts
  have hr : Reachable s := ⟨_, .single (.register Net.up meta)⟩
  have hc : s.connections "s" = some ⟨meta, 0⟩ := rfl
  have hp : payloadPanics (some (Update.toJson ⟨"event", some meta, some msg⟩)) = false := rfl
  have ht : payloadTarget (some (Update.toJson ⟨"event", some meta, some msg⟩)) = some ("s", msg) := rfl
  refine ⟨hr, hc, ?_, queue_delivery hr hc _⟩
  rw [Ledger.run_deliver_replicate hp ht _ 101 _ (Nat.zero_le _)]
  rfl

end McpGateway.Session
