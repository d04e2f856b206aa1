import KuvaAI.Lib.RoundRobin
import KuvaAI.Topology.Migration
import KuvaAI.Topology.Tables
import KuvaAI.Topology.Conservation

/-! The round-robin balancing on its own, with nodes that accept every migration. The
agents are listed once and dealt to the nodes in turn, while the placement they were
listed from changes. -/
namespace KuvaAI.Topology
open Python Coroutine RoundRobin

section Listing

variable (answer : Nat → (call : Call) → Answer call)

/-- The agents of these nodes, each node's in the order in which its set is iterated. -/
def listing : Nat → List NodeState → List AgentId
  | _, [] => []
  | n, state :: rest => (answer n (.iterate state.agents)).1 ++ listing (n + 1) rest

def NetworkTopology.listed (t : NetworkTopology) : List AgentId :=
  listing answer 0 t.nodeStates.values

theorem mem_iterated (n : Nat) (agents : Finset AgentId) (agent : AgentId) :
    agent ∈ (answer n (.iterate agents)).1 ↔ agent ∈ agents := by
  have same := (answer n (.iterate agents)).2
  rw [← Multiset.mem_coe, same, Finset.mem_val]

theorem length_iterated (n : Nat) (agents : Finset AgentId) :
    (answer n (.iterate agents)).1.length = agents.card := by
  have same := (answer n (.iterate agents)).2
  rw [← Multiset.coe_card, same, Finset.card_val]

theorem nodup_iterated (n : Nat) (agents : Finset AgentId) :
    (answer n (.iterate agents)).1.Nodup := by
  have same := (answer n (.iterate agents)).2
  rw [← Multiset.coe_nodup, same]
  exact agents.nodup

variable {answer}

theorem mem_listing (n : Nat) (states : List NodeState) (agent : AgentId) :
    agent ∈ listing answer n states ↔ ∃ state ∈ states, agent ∈ state.agents := by
  induction states generalizing n with
  | nil => simp [listing]
  | cons state rest ih => simp [listing, mem_iterated, ih]

theorem mem_listed (t : NetworkTopology) (agent : AgentId) :
    agent ∈ t.listed answer ↔ ∃ node, t.On agent node := by
  rw [NetworkTopology.listed, mem_listing]
  constructor
  · rintro ⟨state, member, holds⟩
    obtain ⟨⟨node, _⟩, entry, rfl⟩ := List.mem_map.mp member
    exact ⟨node, _, Dict.get?_of_mem entry, holds⟩
  · rintro ⟨node, state, found, holds⟩
    exact ⟨state, Dict.mem_values_of_get? found, holds⟩

theorem nodup_listed {t : NetworkTopology} (placed : t.Placed) : (t.listed answer).Nodup := by
  have apart : t.nodeStates.entries.Pairwise fun a b => ∀ agent ∈ a.2.agents, agent ∉ b.2.agents := by
    have keys := List.pairwise_map.mp t.nodeStates.nodup
    refine keys.imp_of_mem fun {a b} memA memB other agent onA onB => other ?_
    exact placed agent a.1 b.1 ⟨a.2, Dict.get?_of_mem memA, onA⟩ ⟨b.2, Dict.get?_of_mem memB, onB⟩
  have each : ∀ (es : List (NodeId × NodeState)) n,
      es.Pairwise (fun a b => ∀ agent ∈ a.2.agents, agent ∉ b.2.agents) →
      (listing answer n (es.map Prod.snd)).Nodup := by
    intro es
    induction es with
    | nil => exact fun _ _ => List.nodup_nil
    | cons e es ih =>
      intro n apart
      obtain ⟨first, rest⟩ := List.pairwise_cons.mp apart
      rw [List.map_cons, listing, List.nodup_append]
      refine ⟨nodup_iterated answer n _, ih (n + 1) rest, fun agent here other there => ?_⟩
      rintro rfl
      obtain ⟨state, member, holds⟩ := (mem_listing _ _ _).mp there
      obtain ⟨entry, inRest, rfl⟩ := List.mem_map.mp member
      exact first entry inRest agent ((mem_iterated _ _ _ _).mp here) holds
  exact each t.nodeStates.entries 0 apart

theorem ends_agentsOf {post : List AgentId → Alone → Prop} {exn : Interrupt → Alone → Prop}
    (states : List NodeState) (w : Alone) :
    ends answer post exn (agentsOf states) w ↔
      post (listing answer w.asked states) { w with asked := w.asked + states.length } := by
  induction states generalizing w post with
  | nil => rfl
  | cons state rest ih =>
    rw [agentsOf, ends_bind, ends_call, ends_bind, ih, ends_pure, listing, List.length_cons,
      Nat.add_right_comm, Nat.add_assoc]

end Listing

def NetworkTopology.agentCount (t : NetworkTopology) : Nat :=
  (t.nodeStates.values.map fun state => state.agents.card).sum

theorem length_listed (answer : Nat → (call : Call) → Answer call) (t : NetworkTopology) :
    (t.listed answer).length = t.agentCount := by
  have each : ∀ (states : List NodeState) n,
      (listing answer n states).length = (states.map fun state => state.agents.card).sum := by
    intro states
    induction states with
    | nil => exact fun _ => rfl
    | cons state rest ih =>
      intro n
      rw [listing, List.length_append, length_iterated, ih, List.map_cons, List.sum_cons]
  exact each t.nodeStates.values 0

structure Dealing (t : NetworkTopology) (agents : List AgentId) (i : Nat) (s : NetworkTopology) :
    Prop where
  graph : s.graph = t.graph
  profile : s.profile = t.profile
  placed : s.Placed
  listed : ∀ agent, agent ∈ agents ↔ ∃ node, s.On agent node
  dealt : ∀ j agent, j < i → agents[j]? = some agent →
    ∀ node, s.On agent node ↔ seat t.graph.nodes.keys j = some node

section Deal

variable {t s : NetworkTopology} {agents : List AgentId} {i : Nat} {agent : AgentId} {target : NodeId}

theorem Dealing.keep (dealing : Dealing t agents i s) (next : agents[i]? = some agent)
    (turn : seat t.graph.nodes.keys i = some target) (on : s.On agent target) :
    Dealing t agents (i + 1) s where
  graph := dealing.graph
  profile := dealing.profile
  placed := dealing.placed
  listed := dealing.listed
  dealt j other before known node := by
    by_cases last : j = i
    · subst last
      rw [next] at known
      cases known
      rw [turn, Option.some.injEq]
      exact ⟨fun there => dealing.placed agent target node on there, fun same => same ▸ on⟩
    · exact dealing.dealt j other (by omega) known node

theorem Dealing.move {r : NetworkTopology} (dealing : Dealing t agents i s) (nodup : agents.Nodup)
    (next : agents[i]? = some agent) (turn : seat t.graph.nodes.keys i = some target)
    (moved : Moved s r agent target) : Dealing t agents (i + 1) r where
  graph := moved.graph.trans dealing.graph
  profile := moved.profile.trans dealing.profile
  placed := moved.placed dealing.placed
  listed other := by
    rw [dealing.listed]
    simp only [moved.on]
    by_cases same : other = agent
    · have here := (dealing.listed agent).mp (List.mem_of_getElem? next)
      simp [same, here]
    · simp [same]
  dealt j other before known node := by
    rw [moved.on]
    by_cases last : j = i
    · subst last
      rw [next] at known
      cases known
      rw [if_pos rfl, turn, Option.some.injEq, eq_comm]
    · have apart : other ≠ agent := by
        rintro rfl
        obtain ⟨small, here⟩ := List.getElem?_eq_some_iff.mp known
        obtain ⟨_, there⟩ := List.getElem?_eq_some_iff.mp next
        exact last (nodup.getElem_inj_iff.mp (here.trans there.symm))
      rw [if_neg apart]
      exact dealing.dealt j other (by omega) known node

end Deal

section Balance

variable {answer : Nat → (call : Call) → Answer call} (accepting : Accepting answer)
  {t : NetworkTopology}

theorem of_drop_eq_cons {α : Type} {xs rest : List α} {x : α} {i : Nat}
    (left : xs.drop i = x :: rest) : xs[i]? = some x ∧ xs.drop (i + 1) = rest := by
  constructor
  · rw [← List.head?_drop, left, List.head?_cons]
  · rw [← List.tail_drop, left, List.tail_cons]

theorem ends_nodeAt {nodes : List NodeId} (nonempty : nodes ≠ []) {i : Nat} {w : Alone}
    {post : NodeId → Alone → Prop} {exn : Interrupt → Alone → Prop}
    (found : ∀ node ∈ nodes, seat nodes i = some node → post node w) :
    ends answer post exn (nodeAt nodes i) w := by
  obtain ⟨node, member, here⟩ := seat_eq nonempty i
  have read : nodes[i % nodes.length]? = some node := here
  rw [nodeAt, read]
  exact found node member here

theorem ends_distribute_cons {nodes : List NodeId} (nonempty : nodes ≠ []) {i : Nat}
    {agent : AgentId} {rest : List AgentId} {w : Alone} {post : Unit → Alone → Prop}
    {exn : Interrupt → Alone → Prop} (known : ∀ node ∈ nodes, node ∈ w.state.nodeStates.keys)
    (moves : ∀ target ∈ nodes, seat nodes i = some target → ¬ w.state.On agent target →
      ends answer (fun _ => ends answer post exn (distribute nodes (i + 1) rest)) exn
        (migrateAgent agent target) w)
    (keeps : ∀ target ∈ nodes, seat nodes i = some target → w.state.On agent target →
      ends answer post exn (distribute nodes (i + 1) rest) w) :
    ends answer post exn (distribute nodes i (agent :: rest)) w := by
  rw [distribute, ends_bind]
  apply ends_nodeAt nonempty
  intro target member turn
  rw [ends_bind]
  apply ends_nodeState
  · intro state found
    apply ends_ite
    · intro absent
      rw [ends_bind]
      exact moves target member turn fun on => absent ((on_iff_of_get? found agent).mp on)
    · intro present
      exact keeps target member turn ((on_iff_of_get? found agent).mpr (not_not.mp present))
  · exact fun absent => (absent (known target member)).elim

include accepting in
theorem distribute_spec (agrees : t.Agrees) (nonempty : t.graph.nodes.keys ≠ []) {agents : List AgentId}
    (nodup : agents.Nodup) {i : Nat} {w : Alone} (dealing : Dealing t agents i w.state) :
    ends answer (fun _ v => Dealing t agents agents.length v.state) (fun _ _ => False)
      (distribute t.graph.nodes.keys i (agents.drop i)) w := by
  generalize left : agents.drop i = rest
  induction rest generalizing i w with
  | nil =>
    have ended : agents.length ≤ i := List.drop_eq_nil_iff.mp left
    exact { dealing with dealt := fun j agent before => dealing.dealt j agent (by omega) }
  | cons agent rest ih =>
    obtain ⟨next, later⟩ := of_drop_eq_cons left
    have inTable : ∀ node ∈ t.graph.nodes.keys, node ∈ w.state.nodeStates.keys := by
      intro node member
      rw [keys_of_profile dealing.profile]
      exact (agrees node).mp member
    apply ends_distribute_cons nonempty inTable
    · intro target member turn _
      have known := (dealing.listed agent).mp (List.mem_of_getElem? next)
      apply Effect.wp_mono (migrateAgent_spec answer dealing.placed known (inTable target member))
      · rintro _ v ⟨accepted, migrated, surely⟩
        exact ih (dealing.move nodup next turn (migrated.moved (surely accepting).1)) later
      · rintro _ _ ⟨accepted, _, never⟩
        exact (never accepting).2.elim
    · intro target _ turn on
      exact ih (dealing.keep next turn on) later

include accepting in
theorem roundRobinBalance_spec (agrees : t.Agrees) (nonempty : t.graph.nodes.keys ≠ [])
    (placed : t.Placed) :
    ends answer (fun _ v => Dealing t (t.listed answer) (t.listed answer).length v.state)
      (fun _ _ => False) roundRobinBalance (.start t) := by
  have start : Dealing t (t.listed answer) 0 t :=
    ⟨rfl, rfl, placed, mem_listed t, fun j _ before => (Nat.not_lt_zero j before).elim⟩
  rw [roundRobinBalance, ends_bind, ends_get, ends_bind, ends_agentsOf]
  exact distribute_spec accepting agrees nonempty (nodup_listed placed)
    (w := ⟨_, [], t⟩) start

end Balance

section Counts

variable {t s : NetworkTopology} {agents : List AgentId}

theorem card_dealt (nodup : agents.Nodup) (dealing : Dealing t agents agents.length s) {node : NodeId}
    {state : NodeState} (found : s.nodeStates.get? node = some state) :
    state.agents.card = share t.graph.nodes.keys agents.length node := by
  have dealt : ∀ j (small : j < agents.length), agents[j] ∈ state.agents ↔
      seat t.graph.nodes.keys j = some node := by
    intro j small
    rw [← on_iff_of_get? found]
    exact dealing.dealt j agents[j] small (List.getElem?_eq_getElem small) node
  rw [share, Nat.count_eq_card_filter_range]
  symm
  apply Finset.card_bij fun j mem => agents.get ⟨j, by simpa using (Finset.mem_filter.mp mem).1⟩
  · intro j mem
    obtain ⟨small, turn⟩ := Finset.mem_filter.mp mem
    exact (dealt j (by simpa using small)).mpr turn
  · intro j memJ k memK same
    exact nodup.getElem_inj_iff.mp same
  · intro agent holds
    have known := (dealing.listed agent).mpr ⟨node, (on_iff_of_get? found agent).mpr holds⟩
    obtain ⟨j, small, rfl⟩ := List.getElem_of_mem known
    exact ⟨j, by simpa [small] using (dealt j small).mp holds, rfl⟩

theorem card_le (agrees : t.Agrees) (nodup : agents.Nodup)
    (dealing : Dealing t agents agents.length s) {a b : NodeId} {stateA stateB : NodeState}
    (foundA : s.nodeStates.get? a = some stateA) (foundB : s.nodeStates.get? b = some stateB) :
    stateA.agents.card ≤ stateB.agents.card + 1 := by
  have inGraph : ∀ node state, s.nodeStates.get? node = some state → node ∈ t.graph.nodes.keys := by
    intro node state found
    rw [agrees, ← keys_of_profile dealing.profile]
    exact (Dict.mem_keys_iff _ _).mpr ⟨state, found⟩
  rw [card_dealt nodup dealing foundA, card_dealt nodup dealing foundB]
  exact share_le t.graph.nodes.nodup agents.length (inGraph a stateA foundA) (inGraph b stateB foundB)

end Counts

/-- What a balancing of `t`, with its agents listed so, has to reach. -/
structure Balances (t : NetworkTopology) (agents : List AgentId) (s : NetworkTopology) : Prop where
  dealt : ∀ i agent, agents[i]? = some agent → ∀ node, s.On agent node ↔
    t.graph.nodes.keys[i % t.graph.nodes.keys.length]? = some node
  kept : ∀ agent node, t.On agent node → ∃ other, s.On agent other
  even : ∀ a b stateA stateB, s.nodeStates.get? a = some stateA → s.nodeStates.get? b = some stateB →
    stateA.agents.card ≤ stateB.agents.card + 1

/-- With nodes that accept every migration, the round-robin balancing returns, has dealt
the agents to the nodes in turn and leaves no two nodes more than one agent apart. -/
theorem round_robin_balances (answer : Nat → (call : Call) → Answer call)
    (accepting : Accepting answer) (t : NetworkTopology) (agrees : t.Agrees)
    (nonempty : t.graph.nodes.keys ≠ []) (placed : t.Placed) :
    ∃ w, solo answer roundRobinBalance (.start t) = (.ok (), w) ∧
      Balances t (t.listed answer) w.state := by
  obtain ⟨_, w, ran, dealing⟩ :=
    Effect.exists_of_wp (roundRobinBalance_spec accepting agrees nonempty placed)
  refine ⟨w, ran, ?_, ?_, ?_⟩
  · intro i agent known node
    exact dealing.dealt i agent (List.getElem?_eq_some_iff.mp known).1 known node
  · intro agent node on
    exact (dealing.listed agent).mp ((mem_listed t agent).mpr ⟨node, on⟩)
  · intro a b stateA stateB foundA foundB
    exact card_le agrees (nodup_listed placed) dealing foundA foundB

theorem edge_accepts : Accepting edgeAnswer :=
  ⟨fun _ => rfl, fun _ => rfl, fun _ => rfl, fun _ _ _ _ => rfl⟩

def pair (agents : Finset AgentId) : NetworkTopology :=
  { (NetworkTopology.init.setState ⟨"edge-1", agents, Dict.empty⟩).setState (.fresh "edge-2") with
    graph := (UndirectedGraph.empty.addNode (fun _ => Dict.empty) "edge-1").addNode
      (fun _ => Dict.empty) "edge-2" }

theorem placed_pair (agents : Finset AgentId) : (pair agents).Placed := by
  have here : ∀ agent node, (pair agents).On agent node → node = "edge-1" := by
    rintro agent node ⟨state, found, holds⟩
    have entries : (pair agents).nodeStates.entries =
        [("edge-1", ⟨"edge-1", agents, Dict.empty⟩), ("edge-2", .fresh "edge-2")] := rfl
    have member := Dict.mem_of_get? found
    rw [entries, List.mem_pair] at member
    rcases member with first | second
    · cases first
      rfl
    · cases second
      exact (Finset.notMem_empty agent holds).elim
  intro agent a b onA onB
  rw [here agent a onA, here agent b onB]

def crowded : NetworkTopology := pair {"drone", "relay", "scout"}

theorem crowded_agrees : crowded.Agrees := fun _ => .rfl

theorem crowded_balanced : crowded.agentCount = 3 ∧
    ∃ w, solo edgeAnswer roundRobinBalance (.start crowded) = (.ok (), w) ∧
      Balances crowded (crowded.listed edgeAnswer) w.state :=
  ⟨by decide, round_robin_balances edgeAnswer edge_accepts crowded crowded_agrees (by decide)
    (placed_pair _)⟩

section Again

variable {answer : Nat → (call : Call) → Answer call}

def NetworkTopology.home (s : NetworkTopology) (agent : AgentId) : Option NodeId :=
  (s.nodeStates.entries.find? fun e => agent ∈ e.2.agents).map Prod.fst

theorem home_iff {s : NetworkTopology} (placed : s.Placed) (agent : AgentId) (node : NodeId) :
    s.home agent = some node ↔ s.On agent node := by
  have found : ∀ place, s.home agent = some place → s.On agent place := by
    intro place home
    obtain ⟨e, first, rfl⟩ := Option.map_eq_some_iff.mp home
    have holds := List.find?_some first
    exact ⟨e.2, Dict.get?_of_mem (List.mem_of_find?_eq_some first), by simpa using holds⟩
  constructor
  · exact found node
  · intro on
    cases home : s.home agent with
    | some place => rw [placed agent place node (found place home) on]
    | none =>
      obtain ⟨state, stored, holds⟩ := on
      rw [NetworkTopology.home, Option.map_eq_none_iff, List.find?_eq_none] at home
      exact (home _ (Dict.mem_of_get? stored) (by simpa using holds)).elim

variable (answer) in
theorem home_listed {s : NetworkTopology} (placed : s.Placed) {count : NodeId → Nat}
    (counted : ∀ node state, s.nodeStates.get? node = some state → state.agents.card = count node) :
    (s.listed answer).map s.home = (grouped s.nodeStates.keys count).map some := by
  have each : ∀ (es : List (NodeId × NodeState)) n, (∀ e ∈ es, s.nodeStates.get? e.1 = some e.2) →
      (listing answer n (es.map Prod.snd)).map s.home =
        (grouped (es.map Prod.fst) count).map some := by
    intro es
    induction es with
    | nil => exact fun _ _ => rfl
    | cons e es ih =>
      intro n stored
      have here := stored e List.mem_cons_self
      rw [List.map_cons, List.map_cons, listing, grouped, List.flatMap_cons, ← grouped,
        List.map_append, List.map_append, ih (n + 1) fun e mem => stored e (List.mem_cons_of_mem _ mem),
        List.map_replicate]
      congr 1
      rw [List.eq_replicate_iff, List.length_map, length_iterated]
      constructor
      · exact counted e.1 e.2 here
      · intro home member
        obtain ⟨agent, listed, rfl⟩ := List.mem_map.mp member
        exact (home_iff placed agent e.1).mpr ⟨e.2, here, (mem_iterated _ _ _ _).mp listed⟩
  exact each s.nodeStates.entries 0 fun e mem => Dict.get?_of_mem mem

/-- Every agent from the `i`th on is on the node whose turn it is. -/
def OnTurn (s : NetworkTopology) (agents : List AgentId) (i : Nat) : Prop :=
  ∀ j agent, i ≤ j → agents[j]? = some agent →
    ∀ node, seat s.graph.nodes.keys j = some node → s.On agent node

theorem settled_iff_onTurn {s : NetworkTopology} (placed : s.Placed)
    (nonempty : s.graph.nodes.keys ≠ []) {m : Nat}
    (counted : ∀ node state, s.nodeStates.get? node = some state →
      state.agents.card = share s.graph.nodes.keys m node) (count : (s.listed answer).length = m) :
    Settled s.graph.nodes.keys s.nodeStates.keys m ↔ OnTurn s (s.listed answer) 0 := by
  have homes := home_listed answer placed counted
  have read : ∀ (j : Nat) agent, (s.listed answer)[j]? = some agent →
      (grouped s.nodeStates.keys (share s.graph.nodes.keys m))[j]? = s.home agent := by
    intro j agent known
    have both := congrArg (fun row => row[j]?) homes
    simp only [List.getElem?_map, known, Option.map_some] at both
    cases place : (grouped s.nodeStates.keys (share s.graph.nodes.keys m))[j]? with
    | none => simp [place] at both
    | some node => simpa [place, eq_comm] using both
  constructor
  · intro settled j agent _ known node turn
    have small : j < m := count ▸ (List.getElem?_eq_some_iff.mp known).1
    rw [← home_iff placed, ← read j agent known, settled j small, turn]
  · intro onTurn j small
    have known := List.getElem?_eq_getElem (count ▸ small : j < (s.listed answer).length)
    obtain ⟨node, _, turn⟩ := seat_eq nonempty j
    rw [read j _ known, turn, home_iff placed]
    exact onTurn j _ (Nat.zero_le j) known node turn

variable {s : NetworkTopology}

theorem distribute_still (agrees : s.Agrees) (nonempty : s.graph.nodes.keys ≠ [])
    {agents : List AgentId} {i : Nat} {w : Alone} (same : w.state = s) (onTurn : OnTurn s agents i) :
    ends answer (fun _ v => v = w) (fun _ _ => False)
      (distribute s.graph.nodes.keys i (agents.drop i)) w := by
  generalize left : agents.drop i = rest
  induction rest generalizing i with
  | nil => rfl
  | cons agent rest ih =>
    obtain ⟨next, later⟩ := of_drop_eq_cons left
    apply ends_distribute_cons nonempty fun node member => by
      rw [same]
      exact (agrees node).mp member
    · intro target _ turn away
      rw [same] at away
      exact (away (onTurn i agent (Nat.le_refl i) next target turn)).elim
    · intro _ _ _ _
      exact ih (fun j other before => onTurn j other (by omega)) later

theorem accepted_stays {α : Type} {agent : AgentId} {w : Alone} (accepted : Accepted w.told agent)
    (x : Task α) : ends answer (fun _ v => ∃ agent, Accepted v.told agent)
      (fun _ v => ∃ agent, Accepted v.told agent) x w := by
  rw [ends, Effect.wp_state]
  obtain ⟨later, told⟩ := told_prefix answer x w
  exact ⟨agent, told ▸ (accepted_append _ _ _).mpr (.inl accepted)⟩

theorem distribute_moves (accepting : Accepting answer) (placed : s.Placed) (agrees : s.Agrees)
    (nonempty : s.graph.nodes.keys ≠ []) {agents : List AgentId}
    (listed : ∀ agent ∈ agents, ∃ node, s.On agent node) {i : Nat} {w : Alone} (same : w.state = s)
    (outOfTurn : ¬ OnTurn s agents i) :
    ends answer (fun _ v => ∃ agent, Accepted v.told agent)
      (fun _ v => ∃ agent, Accepted v.told agent)
      (distribute s.graph.nodes.keys i (agents.drop i)) w := by
  generalize left : agents.drop i = rest
  induction rest generalizing i with
  | nil =>
    have ended : agents.length ≤ i := List.drop_eq_nil_iff.mp left
    refine (outOfTurn fun j agent before known => ?_).elim
    have small := (List.getElem?_eq_some_iff.mp known).1
    omega
  | cons agent rest ih =>
    obtain ⟨next, later⟩ := of_drop_eq_cons left
    have inTable : ∀ node ∈ s.graph.nodes.keys, node ∈ w.state.nodeStates.keys := by
      intro node member
      rw [same]
      exact (agrees node).mp member
    apply ends_distribute_cons nonempty inTable
    · intro target member turn _
      have known := listed agent (List.mem_of_getElem? next)
      rw [← same] at placed known
      apply Effect.wp_mono (migrateAgent_spec answer placed known (inTable target member))
      · rintro _ v ⟨accepted, migrated, surely⟩
        obtain ⟨new, told, tells⟩ := migrated.tells
        have asked : Accepted v.told agent := by
          rw [told, accepted_append]
          exact .inr ((tells agent).mpr ⟨rfl, (surely accepting).1⟩)
        exact accepted_stays asked _
      · rintro _ _ ⟨_, _, never⟩
        exact (never accepting).2.elim
    · intro target _ turn on
      rw [same] at on
      refine ih (fun onTurn => outOfTurn fun j other before known node here => ?_) later
      by_cases first : j = i
      · subst first
        rw [next] at known
        rw [turn] at here
        cases known
        cases here
        exact on
      · exact onTurn j other (by omega) known node here

/-- A balancing of `s` returns, asks for no migration and leaves every agent where it is. -/
structure Undisturbed (answer : Nat → (call : Call) → Answer call) (s : NetworkTopology) : Prop where
  returns : (solo answer roundRobinBalance (.start s)).1 = .ok ()
  asks : ∀ item ∈ (solo answer roundRobinBalance (.start s)).2.told, item.1.isMigrate = false
  stays : ∀ agent node,
    (solo answer roundRobinBalance (.start s)).2.state.On agent node ↔ s.On agent node

theorem undisturbed_iff_onTurn (accepting : Accepting answer) (placed : s.Placed) (agrees : s.Agrees)
    (nonempty : s.graph.nodes.keys ≠ []) :
    Undisturbed answer s ↔ OnTurn s (s.listed answer) 0 := by
  have splits : ∀ (post : Unit → Alone → Prop) (exn : Interrupt → Alone → Prop),
      ends answer post exn (distribute s.graph.nodes.keys 0 (s.listed answer))
          ⟨s.nodeStates.values.length, [], s⟩ →
        ends answer post exn roundRobinBalance (.start s) := by
    intro post exn holds
    rw [roundRobinBalance, ends_bind, ends_get, ends_bind, ends_agentsOf]
    simpa only [Solo.start, NetworkTopology.listed, Nat.zero_add] using holds
  constructor
  · intro undisturbed
    by_contra outOfTurn
    have moves := splits _ _ (distribute_moves accepting placed agrees nonempty
      (fun agent listed => (mem_listed s agent).mp listed) rfl outOfTurn)
    rw [ends, Effect.wp_state] at moves
    obtain ⟨agent, target, source, told⟩ := moves
    cases undisturbed.asks _ told
  · intro onTurn
    obtain ⟨_, w, ran, rfl⟩ :=
      Effect.exists_of_wp (splits _ _ (distribute_still agrees nonempty rfl onTurn))
    refine ⟨by rw [ran], ?_, ?_⟩
    · rw [ran]
      exact fun _ told => (List.not_mem_nil told).elim
    · rw [ran]
      exact fun _ _ => .rfl

theorem undisturbed_again_iff {again : Nat → (call : Call) → Answer call} {t : NetworkTopology}
    (accepting : Accepting answer) (acceptingAgain : Accepting again) (agrees : t.Agrees)
    (nonempty : t.graph.nodes.keys ≠ []) (placed : t.Placed) :
    Undisturbed again (solo answer roundRobinBalance (.start t)).2.state ↔
      Settled t.graph.nodes.keys t.nodeStates.keys t.agentCount := by
  obtain ⟨_, w, ran, dealing⟩ :=
    Effect.exists_of_wp (roundRobinBalance_spec accepting agrees nonempty placed)
  have keys := keys_of_profile dealing.profile
  have still : w.state.Agrees := by
    intro node
    rw [dealing.graph, keys]
    exact agrees node
  have counted : ∀ node state, w.state.nodeStates.get? node = some state →
      state.agents.card = share w.state.graph.nodes.keys t.agentCount node := by
    intro node state found
    rw [dealing.graph, card_dealt (nodup_listed placed) dealing found, length_listed]
  have count : (w.state.listed again).length = t.agentCount := by
    have perm : (w.state.listed again).Perm (t.listed answer) := by
      rw [List.perm_ext_iff_of_nodup (nodup_listed dealing.placed) (nodup_listed placed)]
      intro agent
      rw [mem_listed, dealing.listed]
    rw [perm.length_eq, length_listed]
  have populated : w.state.graph.nodes.keys ≠ [] := by
    rw [dealing.graph]
    exact nonempty
  rw [ran, undisturbed_iff_onTurn acceptingAgain dealing.placed still populated,
    ← settled_iff_onTurn dealing.placed populated counted count, dealing.graph, keys]

/-- A second balancing has nothing to do exactly if there is one node, or no more agents
than nodes and the nodes that get one are in the same order in the graph and in the table. -/
theorem rebalancing_stable_iff (answer again : Nat → (call : Call) → Answer call)
    (accepting : Accepting answer) (acceptingAgain : Accepting again) (t : NetworkTopology)
    (agrees : t.Agrees) (nonempty : t.graph.nodes.keys ≠ []) (placed : t.Placed) :
    Undisturbed again (solo answer roundRobinBalance (.start t)).2.state ↔
      t.graph.nodes.keys.length = 1 ∨ t.agentCount ≤ t.graph.nodes.keys.length ∧
        t.nodeStates.keys.filter (· ∈ t.graph.nodes.keys.take t.agentCount) =
          t.graph.nodes.keys.take t.agentCount :=
  (undisturbed_again_iff accepting acceptingAgain agrees nonempty placed).trans
    (settled_iff nonempty t.graph.nodes.nodup t.nodeStates.nodup (fun node => (agrees node).symm) _)

end Again

theorem crowded_disturbed : Accepting edgeAnswer ∧ crowded.Agrees ∧ crowded.graph.nodes.keys ≠ [] ∧
    crowded.Placed ∧
    ¬ Undisturbed edgeAnswer (solo edgeAnswer roundRobinBalance (.start crowded)).2.state := by
  refine ⟨edge_accepts, crowded_agrees, by decide, placed_pair _, ?_⟩
  rw [undisturbed_again_iff edge_accepts edge_accepts crowded_agrees (by decide) (placed_pair _)]
  exact not_settled_many crowded.graph.nodes.nodup crowded.nodeStates.nodup (fun _ => .rfl)
    (by decide) (by decide)

theorem meshed_undisturbed :
    Undisturbed edgeAnswer (solo edgeAnswer roundRobinBalance (.start meshed)).2.state :=
  (rebalancing_stable_iff edgeAnswer edgeAnswer edge_accepts edge_accepts meshed (fun _ => .rfl)
    (by decide) placed_loaded).mpr (.inr (by decide))

end KuvaAI.Topology
