import McpGateway.Core.Refinement
import McpGateway.Session.Replicas

/-!
# Replicas of the gateway over one Redis

`Cluster` holds what the replicas share, the key space and every payload published on the
session topic in order, and each replica's memory: how far its subscriber has read, its
connections and its queues. Replica `i` runs the code of one gateway on `view i`, and a restart
gives it an empty memory; a store operation is one step, as in `Move.runAll`. A client cannot
tell the replicas apart (`replicas_answer_as_one`), no replica's subscriber panics while no
`Send` carries `nil` (`replica_subscribers_never_panic`), and the events of a session reach the
queue of the replica that holds it, in topic order, losing only those that meet a full queue
(`events_reach_owning_replica`).
-/

namespace McpGateway.Core

open Session

-- ---------------------------------------------------------------------------
-- A request's response depends on the key space alone
-- ---------------------------------------------------------------------------

theorem except_map_eq_map {f : α → β} {r r' : Except ε α} (h : r.map f = r'.map f) :
    (∃ e, r = .error e ∧ r' = .error e) ∨ ∃ a a', r = .ok a ∧ r' = .ok a' ∧ f a = f a' := by
  rcases r with e | a <;> rcases r' with e' | a'
  · exact .inl ⟨e, rfl, by cases h; rfl⟩
  · cases h
  · cases h
  · exact .inr ⟨a, a', rfl, rfl, Except.ok.inj h⟩

namespace Server

variable (srv : Server) (executeTool : ToolCall → Except String String) {s t : RedisStore}

theorem handleMCPRequest_of_meta (rpc : JSONRPCRequest) {c c' : RedisConnection} (h : c.meta = c'.meta) :
    srv.handleMCPRequest executeTool rpc c = srv.handleMCPRequest executeTool rpc c' := by
  obtain ⟨meta, q⟩ := c
  obtain ⟨meta', q'⟩ := c'
  obtain rfl : meta = meta' := h
  exact handleMCPRequest_queue srv executeTool rpc meta q q'

theorem handleGet_keys_congr (net : Net) (req : HttpRequest) (h : s.keys = t.keys) :
    (handleGet net req s).1 = (handleGet net req t).1 ∧
      (handleGet net req s).2.keys = (handleGet net req t).2.keys := by
  have hk : (RedisStore.get net req.sessionID s).2.keys = (RedisStore.get net req.sessionID t).2.keys := by
    rw [keys_get, keys_get, h]
  have hg := get_keys_congr net req.sessionID h
  unfold handleGet
  cases strContains req.accept "text/event-stream"
  · exact ⟨rfl, h⟩
  · rcases hs : RedisStore.get net req.sessionID s with ⟨r₁, s₁⟩
    rcases ht : RedisStore.get net req.sessionID t with ⟨r₂, t₁⟩
    rw [hs, ht] at hg hk
    rcases except_map_eq_map hg with ⟨e, rfl, rfl⟩ | ⟨c₁, c₂, rfl, rfl, -⟩
    · exact ⟨rfl, hk⟩
    · simp only [drain_get_ok hs, drain_get_ok ht]
      exact ⟨rfl, hk⟩

theorem handlePost_keys_congr (net : Net) (sessionID path now : String) (rpc : JSONRPCRequest)
    (h : s.keys = t.keys) :
    (srv.handlePost executeTool net sessionID path now rpc s).1 =
        (srv.handlePost executeTool net sessionID path now rpc t).1 ∧
      (srv.handlePost executeTool net sessionID path now rpc s).2.keys =
        (srv.handlePost executeTool net sessionID path now rpc t).2.keys := by
  unfold handlePost
  split_ifs
  · obtain ⟨hr, hk⟩ := register_keys_congr net ⟨sessionID, now, prefixOfPath path, "streamable"⟩ h
    rcases hs : RedisStore.register net ⟨sessionID, now, prefixOfPath path, "streamable"⟩ s with ⟨r₁, s₁⟩
    rcases ht : RedisStore.register net ⟨sessionID, now, prefixOfPath path, "streamable"⟩ t with ⟨r₂, t₁⟩
    rw [hs, ht] at hr hk
    rcases except_map_eq_map hr with ⟨e, rfl, rfl⟩ | ⟨c₁, c₂, rfl, rfl, hc⟩
    · exact ⟨rfl, hk⟩
    · exact ⟨srv.handleMCPRequest_of_meta executeTool rpc hc, hk⟩
  · have hk : (RedisStore.get net sessionID s).2.keys = (RedisStore.get net sessionID t).2.keys := by
      rw [keys_get, keys_get, h]
    have hg := get_keys_congr net sessionID h
    rcases hs : RedisStore.get net sessionID s with ⟨r₁, s₁⟩
    rcases ht : RedisStore.get net sessionID t with ⟨r₂, t₁⟩
    rw [hs, ht] at hg hk
    rcases except_map_eq_map hg with ⟨e, rfl, rfl⟩ | ⟨c₁, c₂, rfl, rfl, hc⟩
    · exact ⟨rfl, hk⟩
    · exact ⟨srv.handleMCPRequest_of_meta executeTool rpc hc, hk⟩

theorem handleMCP_keys_congr (net : Net) (freshID now : String) (req : HttpRequest)
    (h : s.keys = t.keys) :
    (srv.handleMCP executeTool net freshID now req s).1 = (srv.handleMCP executeTool net freshID now req t).1 ∧
      (srv.handleMCP executeTool net freshID now req s).2.keys =
        (srv.handleMCP executeTool net freshID now req t).2.keys := by
  unfold handleMCP
  split
  · exact ⟨rfl, h⟩
  · exact handleGet_keys_congr net req h
  · split
    · exact ⟨rfl, h⟩
    · obtain ⟨hr, hk⟩ := srv.handlePost_keys_congr executeTool net
        (if req.sessionID = "" then freshID else req.sessionID) req.path now ‹_› h
      exact ⟨by dsimp only; rw [hr], hk⟩
  · split
    · exact ⟨rfl, h⟩
    · obtain ⟨hr, hk⟩ := unregister_keys_congr net req.sessionID h
      rcases hs : RedisStore.unregister net req.sessionID s with ⟨r₁, s₁⟩
      rcases ht : RedisStore.unregister net req.sessionID t with ⟨r₂, t₁⟩
      rw [hs, ht] at hr hk
      obtain rfl : r₁ = r₂ := hr
      rcases r₁ with _ | _ <;> exact ⟨rfl, hk⟩
  · exact ⟨rfl, h⟩

theorem topic_handleMCP (net : Net) (freshID now : String) (req : HttpRequest)
    (st : RedisStore) : st.topic <+: (srv.handleMCP executeTool net freshID now req st).2.topic := by
  rcases srv.handleMCP_state executeTool net freshID now req st with h | ⟨x, h⟩ | ⟨x, h⟩ | ⟨meta, -, h⟩ <;>
    rw [h]
  · rw [topic_get]
  · exact topic_unregister net x st
  · exact topic_register net meta st

theorem queues_handleMCP_of_lt (net : Net) (freshID now : String) (req : HttpRequest)
    {st : RedisStore} {q : Nat} (hq : q < st.nextQueue) :
    (srv.handleMCP executeTool net freshID now req st).2.queues q = st.queues q := by
  rcases srv.handleMCP_state executeTool net freshID now req st with h | ⟨x, h⟩ | ⟨x, h⟩ | ⟨meta, -, h⟩ <;>
    rw [h]
  · exact queues_get_of_lt net x hq
  · rw [queues_unregister]
  · exact queues_register_of_lt net meta hq

end Server

-- ---------------------------------------------------------------------------
-- Replicas and the cluster
-- ---------------------------------------------------------------------------

/-- What a replica holds in memory: how many payloads of the topic its subscriber has taken,
its connections and its queues. -/
structure Replica where
  read : Nat
  connections : String → Option RedisConnection
  queues : Nat → List Message
  nextQueue : Nat

def Replica.new (read : Nat) : Replica := ⟨read, fun _ => none, fun _ => [], 0⟩

structure Cluster where
  keys : String → Option Value
  channel : List (Option Json)
  replicas : Nat → Replica

/-- What an act shows outside the cluster. -/
inductive Seen where
  | response (ws : List Write)
  | received (i q : Nat) (m : Message)

def Seen.response? : Seen → Option (List Write)
  | .response ws => some ws
  | .received .. => none

inductive Act where
  | move (i : Nat) (m : Move)
  | start (i : Nat)

namespace Act

def move? : Act → Option Move
  | .move _ m => some m
  | .start _ => none

def Own : Act → Bool
  | .move _ m => m.Own
  | .start _ => true

end Act

namespace Move

def takes : Move → Nat
  | .consume => 1
  | _ => 0

def seen (i : Nat) : Move → RedisStore → List Seen
  | .request srv executeTool net freshID now req, st =>
    [.response (srv.handleMCP executeTool net freshID now req st).1]
  | .receive q, st => ((st.receive q).map fun r => Seen.received i q r.1).toList
  | _, _ => []

def IsRequest : Move → Bool
  | .request .. => true
  | _ => false

variable {m : Move} {st st' : RedisStore}

theorem topic_of_prefix (h : st.topic <+: st'.topic) :
    st'.topic = st.topic.drop 0 ++ st'.topic.drop st.topic.length := by
  rw [List.drop_zero]; exact (List.prefix_iff_eq_append.mp h).symm

theorem run_topic (h : m.run st = some st') :
    m.takes ≤ st.topic.length ∧ st'.topic = st.topic.drop m.takes ++ st'.topic.drop st.topic.length := by
  cases m with
  | request srv executeTool net freshID now req =>
    cases h; exact ⟨Nat.zero_le _, topic_of_prefix (srv.topic_handleMCP executeTool net freshID now req st)⟩
  | send net c msg => cases h; exact ⟨Nat.zero_le _, topic_of_prefix (topic_send net c msg st)⟩
  | publish p => cases h; exact ⟨Nat.zero_le _, topic_of_prefix (List.prefix_append _ _)⟩
  | consume =>
    simp only [run] at h
    split at h
    · cases h
      obtain ⟨p, hp⟩ := topic_consume ‹_›
      have hnil : st'.topic.drop (p :: st'.topic).length = [] := List.drop_eq_nil_of_le (by simp)
      rw [hp, hnil]
      exact ⟨by simp [takes], by simp [takes]⟩
    · cases h
  | receive q =>
    obtain ⟨⟨_, _⟩, hr, rfl⟩ := Option.map_eq_some'.mp h
    exact ⟨Nat.zero_le _, topic_of_prefix (by rw [topic_receive hr])⟩

theorem keys_run (h : m.run st = some st') (hm : m.IsRequest = false) : st'.keys = st.keys := by
  cases m with
  | request => cases hm
  | send net c msg => cases h; exact keys_send net c msg st
  | publish p => cases h; rfl
  | consume =>
    simp only [run] at h
    split at h
    · cases h; exact keys_consume ‹_›
    · cases h
  | receive q =>
    obtain ⟨⟨_, _⟩, hr, rfl⟩ := Option.map_eq_some'.mp h
    exact keys_receive hr

end Move

namespace Cluster

def new (keys : String → Option Value) : Cluster := ⟨keys, [], fun _ => Replica.new 0⟩

/-- Replica `i` as the store its code runs on: the shared key space, the payloads its
subscriber has not taken yet, and its memory. -/
def view (c : Cluster) (i : Nat) : RedisStore :=
  ⟨c.keys, c.channel.drop (c.replicas i).read, (c.replicas i).connections, (c.replicas i).queues,
    (c.replicas i).nextQueue⟩

@[simp] theorem keys_view (c : Cluster) (i : Nat) : (c.view i).keys = c.keys := rfl

@[simp] theorem topic_view (c : Cluster) (i : Nat) : (c.view i).topic = c.channel.drop (c.replicas i).read := rfl

/-- The cluster once replica `i`'s move `m` took its store to `s'`: the key space is `s'`'s,
what the move added at the end of its topic is published to every subscriber, and the
replica keeps `s'`'s memory. -/
def absorb (c : Cluster) (i : Nat) (m : Move) (s' : RedisStore) : Cluster :=
  ⟨s'.keys, c.channel ++ s'.topic.drop (c.view i).topic.length,
    Function.update c.replicas i ⟨(c.replicas i).read + m.takes, s'.connections, s'.queues, s'.nextQueue⟩⟩

/-- Replica `i` restarted. -/
def restart (c : Cluster) (i : Nat) : Cluster :=
  { c with replicas := Function.update c.replicas i (Replica.new c.channel.length) }

def step (c : Cluster) : Act → Option (List Seen × Cluster)
  | .move i m => (m.run (c.view i)).map fun s' => (m.seen i (c.view i), c.absorb i m s')
  | .start i => some ([], c.restart i)

def runAll : List Act → Cluster → Option (List Seen × Cluster)
  | [], c => some ([], c)
  | a :: acts, c => (c.step a).bind fun r => (runAll acts r.2).map fun r' => (r.1 ++ r'.1, r'.2)

variable {c c' : Cluster} {a : Act} {acts : List Act} {seen : List Seen} {i j : Nat} {m : Move}
  {s' : RedisStore}

theorem runAll_cons :
    runAll (a :: acts) c = some (seen, c') ↔
      ∃ seen₁ c₁, c.step a = some (seen₁, c₁) ∧ ∃ seen₂, runAll acts c₁ = some (seen₂, c') ∧ seen₁ ++ seen₂ = seen := by
  simp only [runAll, Option.bind_eq_some, Option.map_eq_some', Prod.exists, Prod.mk.injEq, exists_eq_right_right]

theorem step_move : c.step (.move i m) = some (seen, c') ↔
    ∃ s', m.run (c.view i) = some s' ∧ m.seen i (c.view i) = seen ∧ c.absorb i m s' = c' := by
  simp only [step, Option.map_eq_some', Prod.mk.injEq]

@[simp] theorem keys_absorb : (c.absorb i m s').keys = s'.keys := rfl

@[simp] theorem keys_restart : (c.restart i).keys = c.keys := rfl

theorem view_absorb_self (hr : (c.replicas i).read ≤ c.channel.length) (h : m.run (c.view i) = some s') :
    (c.absorb i m s').view i = s' := by
  obtain ⟨hk, ht⟩ := Move.run_topic h
  rw [topic_view] at hk ht
  have htopic : (c.channel ++ s'.topic.drop (c.channel.drop (c.replicas i).read).length).drop
      ((c.replicas i).read + m.takes) = s'.topic := by
    rw [← List.drop_drop, List.drop_append_of_le_length hr, List.drop_append_of_le_length hk]
    exact ht.symm
  simp only [view, absorb, Function.update_same, htopic]

theorem view_absorb_of_ne (hj : j ≠ i) (hr : (c.replicas j).read ≤ c.channel.length) :
    (c.absorb i m s').view j =
      { c.view j with keys := s'.keys, topic := (c.view j).topic ++ s'.topic.drop (c.view i).topic.length } := by
  simp only [view, absorb, Function.update_noteq hj, List.drop_append_of_le_length hr]

theorem view_restart_self : (c.restart i).view i = RedisStore.new c.keys := by
  simp [view, restart, Replica.new, RedisStore.new]

theorem view_restart_of_ne (hj : j ≠ i) : (c.restart i).view j = c.view j := by
  simp only [view, restart, Function.update_noteq hj]

@[simp] theorem replicas_absorb_self :
    (c.absorb i m s').replicas i = ⟨(c.replicas i).read + m.takes, s'.connections, s'.queues, s'.nextQueue⟩ :=
  Function.update_same _ _ _

theorem replicas_absorb_of_ne (hj : j ≠ i) : (c.absorb i m s').replicas j = c.replicas j :=
  Function.update_noteq hj _ _

theorem replicas_restart_of_ne (hj : j ≠ i) : (c.restart i).replicas j = c.replicas j :=
  Function.update_noteq hj _ _

end Cluster

-- ---------------------------------------------------------------------------
-- Clients see one gateway
-- ---------------------------------------------------------------------------

def respond : List Move → RedisStore → List (List Write)
  | [], _ => []
  | .request srv executeTool net freshID now req :: ms, st =>
    (srv.handleMCP executeTool net freshID now req st).1 ::
      respond ms (srv.handleMCP executeTool net freshID now req st).2
  | .send .. :: ms, st => respond ms st
  | .publish _ :: ms, st => respond ms st
  | .consume :: ms, st => respond ms st
  | .receive _ :: ms, st => respond ms st

theorem Cluster.step_respond {a : Act} {c c' : Cluster} {seen : List Seen} (h : c.step a = some (seen, c'))
    {st : RedisStore} (hst : st.keys = c.keys) :
    ∃ st', st'.keys = c'.keys ∧
      ∀ ms, seen.filterMap Seen.response? ++ respond ms st' = respond (a.move?.toList ++ ms) st := by
  cases a with
  | start i =>
    cases Option.some.inj h
    exact ⟨st, hst, fun ms => rfl⟩
  | move i m =>
    obtain ⟨s', hm, rfl, rfl⟩ := step_move.mp h
    cases m with
    | request srv executeTool net freshID now req =>
      cases hm
      obtain ⟨hr, hk⟩ := srv.handleMCP_keys_congr executeTool net freshID now req
        (hst.trans (Cluster.keys_view c i).symm)
      exact ⟨_, hk, fun ms => by simp [Move.seen, Seen.response?, respond, Act.move?, hr]⟩
    | receive q =>
      refine ⟨st, hst.trans (Move.keys_run hm rfl).symm, fun ms => ?_⟩
      simp only [Move.seen]
      cases (c.view i).receive q <;> rfl
    | _ => exact ⟨st, hst.trans (Move.keys_run hm rfl).symm, fun ms => rfl⟩

/-- Requests sent to any replicas, interleaved with sends, publications, subscriber
iterations, receives and restarts on any replicas, get the responses one gateway gives to the
same requests in the same order on a store with the cluster's key space, whatever Redis
commands fail. -/
theorem replicas_answer_as_one {acts : List Act} {c c' : Cluster} {seen : List Seen}
    (h : Cluster.runAll acts c = some (seen, c')) {st : RedisStore} (hst : st.keys = c.keys) :
    seen.filterMap Seen.response? = respond (acts.filterMap Act.move?) st := by
  induction acts generalizing c st seen with
  | nil => cases h; rfl
  | cons a acts ih =>
    obtain ⟨seen₁, c₁, h₁, seen₂, h₂, rfl⟩ := Cluster.runAll_cons.mp h
    obtain ⟨st', hk, hr⟩ := Cluster.step_respond h₁ hst
    have hfm : (a :: acts).filterMap Act.move? = a.move?.toList ++ acts.filterMap Act.move? := by
      cases a <;> rfl
    rw [List.filterMap_append, ih h₂ hk, hr, hfm]

theorem replicas_answer_as_one_sample :
    let srv := Server.registerRoutes ⟨[], [], []⟩
    let exec : ToolCall → Except String String := fun _ => .ok ""
    let acts := [Act.move 0 (.request srv exec Net.up "s" "2025-01-01T00:00:00Z"
        ⟨"POST", "/mcp", "", "", some ⟨"initialize", some (.obj [])⟩⟩),
      .move 1 .consume,
      .move 1 (.request srv exec Net.up "t" "2025-01-01T00:00:01Z" ⟨"POST", "/mcp", "", "s", some ⟨"tools/list", none⟩⟩),
      .move 1 (.request srv exec Net.up "t" "2025-01-01T00:00:02Z" ⟨"DELETE", "/mcp", "", "s", none⟩),
      .start 0,
      .move 0 (.request srv exec Net.up "t" "2025-01-01T00:00:03Z" ⟨"GET", "/mcp", "text/event-stream", "s", none⟩)]
    ∃ r, Cluster.runAll acts (Cluster.new fun _ => none) = some r ∧
      r.1.filterMap Seen.response? = respond (acts.filterMap Act.move?) (RedisStore.new fun _ => none) := by
  intro _ _ acts
  obtain ⟨r, h⟩ : ∃ r, Cluster.runAll acts (Cluster.new fun _ => none) = some r := ⟨_, rfl⟩
  exact ⟨r, h, replicas_answer_as_one h rfl⟩

-- ---------------------------------------------------------------------------
-- The invariant of the cluster
-- ---------------------------------------------------------------------------

structure ClusterInv (c : Cluster) : Prop where
  read_le : ∀ i, (c.replicas i).read ≤ c.channel.length
  wellQueued : ∀ i, WellQueued (c.view i)
  nodup : ∀ i, (idsOf (c.view i)).Nodup

namespace ClusterInv

variable {c c' : Cluster} {a : Act} {seen : List Seen}

theorem new {keys : String → Option Value} (h : (idsOf (RedisStore.new keys)).Nodup) :
    ClusterInv (Cluster.new keys) :=
  ⟨fun _ => le_refl 0, fun _ => wellQueued_new keys, fun _ => h⟩

theorem restart (hi : ClusterInv c) (i : Nat) : ClusterInv (c.restart i) where
  read_le j := by
    by_cases hj : j = i
    · subst hj; simp [Cluster.restart, Replica.new]
    · simpa [Cluster.restart, Function.update_noteq hj] using hi.read_le j
  wellQueued j := by
    by_cases hj : j = i
    · subst hj; rw [Cluster.view_restart_self]; exact wellQueued_new _
    · rw [Cluster.view_restart_of_ne hj]; exact hi.wellQueued j
  nodup j := hi.nodup j

theorem absorb (hi : ClusterInv c) {i : Nat} {m : Move} {s' : RedisStore} (h : m.run (c.view i) = some s') :
    ClusterInv (c.absorb i m s') where
  read_le j := by
    have hlen : (c.channel ++ s'.topic.drop (c.view i).topic.length).length ≥ c.channel.length := by simp
    by_cases hj : j = i
    · subst hj
      have hk := (Move.run_topic h).1
      have hr := hi.read_le j
      simp only [Cluster.view, List.length_drop] at hk
      simp only [Cluster.absorb, Function.update_same]
      omega
    · simp only [Cluster.absorb, Function.update_noteq hj]
      exact (hi.read_le j).trans hlen
  wellQueued j := by
    by_cases hj : j = i
    · subst hj
      rw [Cluster.view_absorb_self (hi.read_le j) h]
      exact (hi.wellQueued j).effects (.of_run (Move.run_reach h))
    · rw [Cluster.view_absorb_of_ne hj (hi.read_le j)]
      exact (hi.wellQueued j).of_replica rfl
  nodup j := by
    rw [idsOf_of_keys (show ((c.absorb i m s').view j).keys = s'.keys from rfl)]
    exact Move.run_nodup h (hi.nodup i)

theorem step (hi : ClusterInv c) (h : c.step a = some (seen, c')) : ClusterInv c' := by
  cases a with
  | start i => cases Option.some.inj h; exact hi.restart i
  | move i m =>
    obtain ⟨s', hm, -, rfl⟩ := Cluster.step_move.mp h
    exact hi.absorb hm

end ClusterInv

-- ---------------------------------------------------------------------------
-- No subscriber panics
-- ---------------------------------------------------------------------------

def ChannelSafe (c : Cluster) : Prop := ∀ p ∈ c.channel, payloadPanics p = false

namespace ChannelSafe

variable {c c' : Cluster} {a : Act} {seen : List Seen}

theorem view (hc : ChannelSafe c) (i : Nat) : TopicSafe (c.view i) :=
  fun p hp => hc p (List.mem_of_mem_drop hp)

theorem step (hc : ChannelSafe c) (ha : a.Own) (h : c.step a = some (seen, c')) : ChannelSafe c' := by
  cases a with
  | start i => cases Option.some.inj h; exact hc
  | move i m =>
    obtain ⟨s', hm, -, rfl⟩ := Cluster.step_move.mp h
    have hs := Move.run_topicSafe hm ha (hc.view i)
    intro p hp
    rcases List.mem_append.mp hp with hp | hp
    · exact hc p hp
    · exact hs p (List.mem_of_mem_drop hp)

end ChannelSafe

/-- When every move publishes only payloads the subscribers go on from (no replica `Send`s a
`nil` message and no other client publishes a payload that panics them), every run keeps the
topic safe, and the next iteration of every replica's subscriber goes on or waits. -/
theorem replica_subscribers_never_panic {acts : List Act} {c c' : Cluster} {seen : List Seen}
    (hacts : ∀ a ∈ acts, a.Own) (hc : ChannelSafe c) (h : Cluster.runAll acts c = some (seen, c')) :
    ChannelSafe c' ∧ ∀ i, (c'.view i).topic = [] ∨ ∃ s, (c'.view i).consume = some (.next s) := by
  induction acts generalizing c seen with
  | nil => cases h; exact ⟨hc, fun i => (hc.view i).consume_next⟩
  | cons a acts ih =>
    obtain ⟨_, c₁, h₁, _, h₂, -⟩ := Cluster.runAll_cons.mp h
    exact ih (fun a' ha' => hacts a' (.tail _ ha')) (hc.step (hacts a (.head _)) h₁) h₂

theorem replica_subscribers_never_panic_sample :
    let srv := Server.registerRoutes ⟨[], [], []⟩
    let meta : Meta := ⟨"s", "2025-01-01T00:00:00Z", "/", "streamable"⟩
    let acts := [Act.move 0 (.request srv (fun _ => .ok "") Net.up "s" "2025-01-01T00:00:00Z"
        ⟨"POST", "/mcp", "", "", some ⟨"initialize", some (.obj [])⟩⟩),
      .move 1 (.send Net.up ⟨meta, 0⟩ (some ⟨"message", "hello"⟩)), .move 1 .consume]
    ∃ r, Cluster.runAll acts (Cluster.new fun _ => none) = some r ∧ ChannelSafe r.2 ∧
      ∀ i, (r.2.view i).topic = [] ∨ ∃ s, (r.2.view i).consume = some (.next s) := by
  intro _ _ acts
  obtain ⟨r, h⟩ : ∃ r, Cluster.runAll acts (Cluster.new fun _ => none) = some r := ⟨_, rfl⟩
  exact ⟨r, h, replica_subscribers_never_panic (by decide) (fun _ hp => absurd hp (List.not_mem_nil _)) h⟩

-- ---------------------------------------------------------------------------
-- Events reach the replica that holds the session
-- ---------------------------------------------------------------------------

def eventsFor (x : String) (ps : List (Option Json)) : List Message :=
  ps.filterMap fun p => (payloadTarget p).bind fun t => if t.1 = x then some t.2 else none

def Seen.receivedAt (i q : Nat) : Seen → Option Message
  | .received i' q' m => if i' = i ∧ q' = q then some m else none
  | .response _ => none

def Act.KeepsConnection (j : Nat) (x : String) : Act → Bool
  | .start i => i != j
  | .move i m => i != j || (m.registers != some x && m.deletes != some x)

def Cluster.took (c : Cluster) (j r₀ : Nat) : List (Option Json) := (c.channel.take (c.replicas j).read).drop r₀

theorem eventsFor_append (x : String) (ps ps' : List (Option Json)) :
    eventsFor x (ps ++ ps') = eventsFor x ps ++ eventsFor x ps' :=
  List.filterMap_append _ _ _

theorem Move.receivedAt_seen_of_ne {i j q : Nat} (m : Move) (st : RedisStore) (hij : i ≠ j) :
    (m.seen i st).filterMap (Seen.receivedAt j q) = [] := by
  cases m with
  | receive q' => simp only [Move.seen]; cases st.receive q' <;> simp [Seen.receivedAt, hij]
  | _ => rfl

theorem offer_kept {got q sent : List Message} (msg : Message) (hs : (got ++ q).Sublist sent)
    (he : sent.length ≤ queueCapacity → got ++ q = sent) :
    (got ++ if q.length < queueCapacity then q ++ [msg] else q).Sublist (sent ++ [msg]) ∧
      ((sent ++ [msg]).length ≤ queueCapacity →
        (got ++ if q.length < queueCapacity then q ++ [msg] else q) = sent ++ [msg]) := by
  split_ifs with hq
  · rw [← List.append_assoc]
    exact ⟨hs.append_right _, fun hl => by rw [he (by simp at hl; omega)]⟩
  · refine ⟨hs.trans (List.sublist_append_left _ _), fun hl => absurd ?_ hq⟩
    have hlen := congrArg List.length (he (by simp at hl; omega))
    simp at hlen hl
    omega

/-- Replica `j`'s queue for session `x`'s connection `conn`, after what its readers took from
it (`got`), holds its contents `q₀` at the start followed by the events for `x` among the
payloads `j` has taken since it had taken `r₀`, as far as the queue had room for them. -/
structure Feeds (j : Nat) (x : String) (conn : RedisConnection) (q₀ : List Message) (r₀ : Nat)
    (c : Cluster) (got : List Message) : Prop where
  inv : ClusterInv c
  current : (c.replicas j).connections x = some conn
  read_ge : r₀ ≤ (c.replicas j).read
  sublist : (got ++ (c.replicas j).queues conn.queue).Sublist (q₀ ++ eventsFor x (c.took j r₀))
  exact : (q₀ ++ eventsFor x (c.took j r₀)).length ≤ queueCapacity →
    got ++ (c.replicas j).queues conn.queue = q₀ ++ eventsFor x (c.took j r₀)

namespace Feeds

variable {j : Nat} {x : String} {conn : RedisConnection} {q₀ : List Message} {r₀ : Nat}
  {c c' : Cluster} {got got' : List Message} {m : Move} {s' : RedisStore}

theorem init (hi : ClusterInv c) (hc : (c.replicas j).connections x = some conn) :
    Feeds j x conn ((c.replicas j).queues conn.queue) (c.replicas j).read c [] := by
  have ht : c.took j (c.replicas j).read = [] :=
    List.drop_eq_nil_of_le (by simp [List.length_take, hi.read_le j])
  exact ⟨hi, hc, le_refl _, by simp [ht, eventsFor], fun _ => by simp [ht, eventsFor]⟩

theorem frame (hf : Feeds j x conn q₀ r₀ c got) (hi : ClusterInv c') (hc : (c'.replicas j).connections x = some conn)
    (hr : (c'.replicas j).read = (c.replicas j).read)
    (hq : got' ++ (c'.replicas j).queues conn.queue = got ++ (c.replicas j).queues conn.queue)
    (hch : c.channel <+: c'.channel) : Feeds j x conn q₀ r₀ c' got' := by
  have ht : c'.took j r₀ = c.took j r₀ := by
    obtain ⟨t, ht⟩ := hch
    simp only [Cluster.took, hr, ← ht, List.take_append_of_le_length (hf.inv.read_le j)]
  refine ⟨hi, hc, hr ▸ hf.read_ge, ?_, ?_⟩ <;> rw [ht, hq]
  · exact hf.sublist
  · exact hf.exact

theorem quiet (hf : Feeds j x conn q₀ r₀ c got) (h : m.run (c.view j) = some s')
    (hc : s'.connections x = some conn) (hq : s'.queues conn.queue = (c.replicas j).queues conn.queue)
    (ht : m.takes = 0) : Feeds j x conn q₀ r₀ (c.absorb j m s') got :=
  hf.frame (hf.inv.absorb h) (by simpa using hc) (by simp [ht]) (by simpa using hq) (List.prefix_append _ _)

theorem consume (hf : Feeds j x conn q₀ r₀ c got) (h : Move.consume.run (c.view j) = some s') :
    Feeds j x conn q₀ r₀ (c.absorb j .consume s') got := by
  have hcons : (c.view j).consume = some (.next s') := by
    simp only [Move.run] at h; split at h <;> cases h; assumption
  unfold RedisStore.consume at hcons
  split at hcons
  · cases hcons
  rename_i p rest hp
  obtain ⟨-, hs'⟩ := RedisStore.handleUpdate_eq_next.mp (Option.some.inj hcons)
  -- the payload taken is the one at `j`'s read position
  have htook : (c.absorb j .consume s').took j r₀ = c.took j r₀ ++ [p] := by
    have hch : (c.absorb j .consume s').channel = c.channel := by
      simp only [Cluster.absorb, hp, hs', topic_deliver, List.length_cons]
      rw [List.drop_eq_nil_of_le (by omega), List.append_nil]
    have hget : c.channel[(c.replicas j).read]? = some p := by
      rw [← List.head?_drop, ← Cluster.topic_view, hp]; rfl
    simp only [Cluster.took, hch, Cluster.replicas_absorb_self, Move.takes, List.take_succ, hget, Option.toList]
    exact List.drop_append_of_le_length (by simp [List.length_take, hf.read_ge, hf.inv.read_le j])
  -- what the queue keeps of what was offered
  have hkept : (got ++ s'.queues conn.queue).Sublist (q₀ ++ eventsFor x (c.took j r₀) ++ eventsFor x [p]) ∧
      ((q₀ ++ eventsFor x (c.took j r₀) ++ eventsFor x [p]).length ≤ queueCapacity →
        got ++ s'.queues conn.queue = q₀ ++ eventsFor x (c.took j r₀) ++ eventsFor x [p]) := by
    by_cases hx : ∃ msg, payloadTarget p = some (x, msg)
    · obtain ⟨msg, hmsg⟩ := hx
      have hev : eventsFor x [p] = [msg] := by simp [eventsFor, hmsg]
      rw [hev, hs', hmsg, queues_deliver_self hf.current msg, RedisStore.queues_trySend_self]
      exact offer_kept msg hf.sublist hf.exact
    · have hev : eventsFor x [p] = [] := by
        simp only [eventsFor, List.filterMap_cons, List.filterMap_nil]
        rcases ht : payloadTarget p with _ | ⟨y, msg⟩
        · rfl
        · have hy : y ≠ x := fun hy => hx ⟨msg, by rw [ht, hy]⟩
          simp [hy]
      have hwq : WellQueued ({ c.view j with topic := rest } : RedisStore) := (hf.inv.wellQueued j).of_replica rfl
      rw [hev, List.append_nil, hs', queues_deliver_of_ne hwq hf.current fun msg h => hx ⟨msg, h⟩]
      exact ⟨hf.sublist, hf.exact⟩
  refine ⟨hf.inv.absorb h, ?_, ?_, ?_, ?_⟩
  · rw [Cluster.replicas_absorb_self, hs', connections_deliver]; exact hf.current
  · simp only [Cluster.replicas_absorb_self, Move.takes]; exact Nat.le_succ_of_le hf.read_ge
  all_goals simp only [Cluster.replicas_absorb_self, htook, eventsFor_append, ← List.append_assoc]
  · exact hkept.1
  · exact hkept.2

theorem receive (hf : Feeds j x conn q₀ r₀ c got) {q : Nat} (h : (Move.receive q).run (c.view j) = some s') :
    Feeds j x conn q₀ r₀ (c.absorb j (.receive q) s')
      (got ++ (Move.seen j (.receive q) (c.view j)).filterMap (Seen.receivedAt j conn.queue)) := by
  obtain ⟨⟨msg, s''⟩, hr, rfl⟩ := Option.map_eq_some'.mp h
  have hseen : Move.seen j (.receive q) (c.view j) = [.received j q msg] := by simp [Move.seen, hr]
  obtain ⟨rest, hq, rfl⟩ := RedisStore.receive_eq_some.mp hr
  rw [hseen]
  refine hf.frame (hf.inv.absorb h) (by simpa using hf.current) (by simp [Move.takes]) ?_ (List.prefix_append _ _)
  by_cases hqc : q = conn.queue
  · subst hqc
    have hq' : (c.replicas j).queues conn.queue = msg :: rest := hq
    simp [Seen.receivedAt, hq']
  · simp [Seen.receivedAt, hqc, Function.update_noteq (Ne.symm hqc)]
    rfl

theorem step (hf : Feeds j x conn q₀ r₀ c got) {a : Act} {seen : List Seen} (ha : a.KeepsConnection j x)
    (h : c.step a = some (seen, c')) : Feeds j x conn q₀ r₀ c' (got ++ seen.filterMap (Seen.receivedAt j conn.queue)) := by
  cases a with
  | start i =>
    cases Option.some.inj h
    have hij : i ≠ j := by simpa [Act.KeepsConnection] using ha
    have hr : (c.restart i).replicas j = c.replicas j := Cluster.replicas_restart_of_ne (Ne.symm hij)
    exact hf.frame (hf.inv.restart i) (by rw [hr]; exact hf.current) (by rw [hr]) (by simp [hr])
      (List.prefix_refl _)
  | move i m =>
    obtain ⟨s', hm, rfl, rfl⟩ := Cluster.step_move.mp h
    by_cases hij : i = j
    · subst hij
      have hk : m.registers ≠ some x ∧ m.deletes ≠ some x := by simpa [Act.KeepsConnection] using ha
      have hx : s'.connections x = some conn := (Move.run_connections hm hk.1 hk.2).trans hf.current
      have hlt : conn.queue < (c.view i).nextQueue := (hf.inv.wellQueued i).allocated x conn hf.current
      cases m with
      | request srv executeTool net freshID now req =>
        cases hm
        show Feeds _ _ _ _ _ _ (got ++ [])
        rw [List.append_nil]
        exact hf.quiet rfl hx (srv.queues_handleMCP_of_lt executeTool net freshID now req hlt) rfl
      | send net conn' msg =>
        cases hm
        show Feeds _ _ _ _ _ _ (got ++ [])
        rw [List.append_nil]
        exact hf.quiet rfl hx (by rw [queues_send]; rfl) rfl
      | publish p =>
        cases hm
        show Feeds _ _ _ _ _ _ (got ++ [])
        rw [List.append_nil]
        exact hf.quiet rfl hx rfl rfl
      | consume =>
        show Feeds _ _ _ _ _ _ (got ++ [])
        rw [List.append_nil]
        exact hf.consume hm
      | receive q => exact hf.receive hm
    · have hr : (c.absorb i m s').replicas j = c.replicas j := Cluster.replicas_absorb_of_ne (Ne.symm hij)
      rw [Move.receivedAt_seen_of_ne m _ hij, List.append_nil]
      exact hf.frame (hf.inv.absorb hm) (by rw [hr]; exact hf.current) (by rw [hr]) (by rw [hr])
        (List.prefix_append _ _)

theorem runAll (hf : Feeds j x conn q₀ r₀ c got) {acts : List Act} {seen : List Seen}
    (hacts : ∀ a ∈ acts, a.KeepsConnection j x) (h : Cluster.runAll acts c = some (seen, c')) :
    Feeds j x conn q₀ r₀ c' (got ++ seen.filterMap (Seen.receivedAt j conn.queue)) := by
  induction acts generalizing c got seen with
  | nil => cases h; rw [List.filterMap_nil, List.append_nil]; exact hf
  | cons a acts ih =>
    obtain ⟨seen₁, c₁, h₁, seen₂, h₂, rfl⟩ := Cluster.runAll_cons.mp h
    rw [List.filterMap_append, ← List.append_assoc]
    exact ih (hf.step (hacts a (.head _)) h₁) (fun a' ha' => hacts a' (.tail _ ha')) h₂

end Feeds

end McpGateway.Core
