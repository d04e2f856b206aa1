import KuvaAI.Topology.Tasks
import Mathlib.Data.Finset.Sort
import Mathlib.Data.String.Basic

/-! Where the agents are, over every interleaving of updates and failovers. An agent
is taken off one node and put on another between two awaits, so no other task sees it
in between. -/
namespace KuvaAI.Topology
open Python Coroutine

def NetworkTopology.On (t : NetworkTopology) (agent : AgentId) (node : NodeId) : Prop :=
  ∃ state, t.nodeStates.get? node = some state ∧ agent ∈ state.agents

/-- Every agent is on one node at most. -/
def NetworkTopology.Placed (t : NetworkTopology) : Prop :=
  ∀ agent a b, t.On agent a → t.On agent b → a = b

theorem on_iff_of_get? {t : NetworkTopology} {node : NodeId} {state : NodeState}
    (found : t.nodeStates.get? node = some state) (agent : AgentId) :
    t.On agent node ↔ agent ∈ state.agents := by
  constructor
  · rintro ⟨other, same, mem⟩
    rw [found] at same
    cases same
    exact mem
  · exact fun mem => ⟨state, found, mem⟩

theorem on_setState (t : NetworkTopology) (state : NodeState) (agent : AgentId) (node : NodeId) :
    (t.setState state).On agent node ↔
      if node = state.nodeId then agent ∈ state.agents else t.On agent node := by
  by_cases same : node = state.nodeId
  · subst same
    rw [if_pos rfl]
    exact on_iff_of_get? (t.nodeStates.get?_set_same state.nodeId state) agent
  · rw [if_neg same, NetworkTopology.On, NetworkTopology.On, NetworkTopology.setState,
      t.nodeStates.get?_set_other state same]

theorem on_popState (t : NetworkTopology) (removed : NodeId) (agent : AgentId) (node : NodeId) :
    (t.popState removed).On agent node ↔ node ≠ removed ∧ t.On agent node := by
  by_cases same : node = removed
  · simp [NetworkTopology.On, NetworkTopology.popState, Dict.get?_erase, same]
  · simp [NetworkTopology.On, NetworkTopology.popState, Dict.get?_erase, same]

theorem on_fresh {t : NetworkTopology} {nodeId : NodeId} (absent : nodeId ∉ t.nodeStates.keys)
    (agent : AgentId) (node : NodeId) :
    (t.setState (.fresh nodeId)).On agent node ↔ t.On agent node := by
  rw [on_setState]
  split
  · rename_i same
    have none : t.nodeStates.get? node = none :=
      same ▸ (t.nodeStates.get?_eq_none_iff nodeId).mpr absent
    simp [NetworkTopology.On, NodeState.fresh, none]
  · rfl

section Moves

variable {t : NetworkTopology} {node : NodeId} {state : NodeState}
  (found : t.nodeStates.get? node = some state) (agent : AgentId)

include found

theorem on_erase (other : AgentId) (place : NodeId) :
    (t.setState { state with agents := state.agents.erase agent }).On other place ↔
      t.On other place ∧ ¬ (other = agent ∧ place = node) := by
  have key := t.keyed node state found
  subst key
  rw [on_setState]
  by_cases here : place = state.nodeId
  · subst here
    rw [if_pos rfl, on_iff_of_get? found, Finset.mem_erase]
    tauto
  · rw [if_neg here]
    tauto

theorem on_insert (other : AgentId) (place : NodeId) :
    (t.setState { state with agents := insert agent state.agents }).On other place ↔
      t.On other place ∨ other = agent ∧ place = node := by
  have key := t.keyed node state found
  subst key
  rw [on_setState]
  by_cases here : place = state.nodeId
  · subst here
    rw [if_pos rfl, on_iff_of_get? found, Finset.mem_insert]
    tauto
  · rw [if_neg here]
    tauto

end Moves

def served (_ : Nat) : (call : Call) → Answer call → NetworkTopology → Prop
  | .acquire, .ok (), t => t.locked = false
  | _, _, _ => True

section Rules

variable {inv : NetworkTopology → Prop} {i : Nat} {t : NetworkTopology}
  {exn : Interrupt → NetworkTopology → Prop}

theorem wp_nodeState {post : NodeState → NetworkTopology → Prop} {node : NodeId}
    (present : ∀ state, t.nodeStates.get? node = some state → post state t)
    (absent : ∀ e, exn e t) : wp (.ofInvariant served inv) i post exn (nodeState node) t := by
  rw [nodeState, wp_bind, wp_get]
  cases found : t.nodeStates.get? node with
  | none => exact absent _
  | some state => exact present state found

theorem wp_removeAgent {post : Unit → NetworkTopology → Prop} {node : NodeId} {agent : AgentId}
    (removed : ∀ state, t.nodeStates.get? node = some state → agent ∈ state.agents →
      post () (t.setState { state with agents := state.agents.erase agent }))
    (raised : ∀ e, exn e t) :
    wp (.ofInvariant served inv) i post exn (removeAgent node agent) t := by
  rw [removeAgent, wp_bind]
  refine wp_nodeState (fun state found => ?_) raised
  rw [wp_bind, raiseIf, wp_ite]
  split
  · exact raised _
  · rename_i member
    exact ⟨fun _ _ => trivial, removed state found (not_not.mp member)⟩

theorem wp_addAgent {post : Unit → NetworkTopology → Prop} {node : NodeId} {agent : AgentId}
    (added : ∀ state, t.nodeStates.get? node = some state →
      post () (t.setState { state with agents := insert agent state.agents }))
    (raised : ∀ e, exn e t) :
    wp (.ofInvariant served inv) i post exn (addAgent node agent) t := by
  rw [addAgent, wp_bind]
  exact wp_nodeState (fun state found => ⟨fun _ _ => trivial, added state found⟩) raised

end Rules

theorem placed_erase {t : NetworkTopology} {node : NodeId} {state : NodeState} {agent : AgentId}
    (placed : t.Placed) (found : t.nodeStates.get? node = some state) (mem : agent ∈ state.agents) :
    (t.setState { state with agents := state.agents.erase agent }).Placed ∧
      ∀ place, ¬ (t.setState { state with agents := state.agents.erase agent }).On agent place := by
  constructor
  · intro other a b onA onB
    exact placed other a b ((on_erase found agent other a).mp onA).1
      ((on_erase found agent other b).mp onB).1
  · intro place on
    obtain ⟨old, moved⟩ := (on_erase found agent agent place).mp on
    exact moved ⟨rfl, placed agent place node old ⟨state, found, mem⟩⟩

theorem placed_insert {t : NetworkTopology} {node : NodeId} {state : NodeState} {agent : AgentId}
    (placed : t.Placed) (found : t.nodeStates.get? node = some state)
    (nowhere : ∀ place, ¬ t.On agent place) :
    (t.setState { state with agents := insert agent state.agents }).Placed := by
  intro other a b onA onB
  rcases (on_insert found agent other a).mp onA with oldA | ⟨rfl, rfl⟩
  · rcases (on_insert found agent other b).mp onB with oldB | ⟨rfl, rfl⟩
    · exact placed other a b oldA oldB
    · exact (nowhere a oldA).elim
  · rcases (on_insert found other other b).mp onB with oldB | ⟨_, rfl⟩
    · exact (nowhere b oldB).elim
    · rfl

theorem preserves_move (source target : NodeId) (agent : AgentId) :
    Preserves served NetworkTopology.Placed
      (do removeAgent source agent; addAgent target agent : Task Unit) := by
  intro i t placed
  rw [wp_bind]
  refine wp_removeAgent (fun state found mem => ?_) (fun _ => placed)
  obtain ⟨still, nowhere⟩ := placed_erase placed found mem
  exact wp_addAgent (fun _ found => placed_insert still found nowhere) (fun _ => still)

structure Stands (inv : NetworkTopology → Prop) : Prop where
  graph : ∀ t graph, inv t → inv { t with graph := graph }
  locked : ∀ t locked, inv t → inv { t with locked := locked }
  fresh : ∀ t node, node ∉ t.nodeStates.keys → inv t → inv (t.setState (.fresh node))
  pop : ∀ t node, inv t → inv (t.popState node)
  move : ∀ source target agent,
    Preserves served inv (do removeAgent source agent; addAgent target agent : Task Unit)

theorem closed_preserving (inv : NetworkTopology → Prop) :
    Closed (fun {α} (x : Task α) => Preserves served inv x) :=
  Preserves.closed served inv

section Tasks

variable {inv : NetworkTopology → Prop} (stands : Stands inv)

include stands

theorem preserves_addNode (node : NodeInfo) : Preserves served inv (addNode node) := by
  refine (closed_checkKeywords (closed_preserving inv) _ _ _).bind fun _ => ?_
  refine (Preserves.modify fun t holds => stands.graph t _ holds).bind fun _ => ?_
  intro i t holds
  rw [wp_bind, wp_get]
  split
  · rename_i absent
    exact ⟨fun _ _ => trivial, stands.fresh t node.id absent holds⟩
  · exact holds

theorem preserves_addLink (link : Link) : Preserves served inv (addLink link) :=
  (closed_checkKeywords (closed_preserving inv) _ _ _).bind fun _ =>
    .modify fun t holds => stands.graph t _ holds

theorem preserves_removeNode (node : NodeId) : Preserves served inv (removeNode node) :=
  Preserves.get.bind fun _ => (closed_raiseIf (closed_preserving inv) _ _).bind fun _ =>
    (Preserves.modify fun t holds => stands.graph t _ holds).bind fun _ =>
      .modify fun t holds => stands.pop t node holds

theorem preserves_applyUpdate (update : TopologyUpdate) : Preserves served inv (applyUpdate update) :=
  (Preserves.forM (preserves_addNode stands) update.nodes).bind fun _ =>
    (Preserves.forM (preserves_addLink stands) update.links).bind fun _ =>
      .forM (preserves_removeNode stands) update.removedNodes

theorem preserves_migrateAgent (agent : AgentId) (target : NodeId) :
    Preserves served inv (migrateAgent agent target) := by
  have closed := closed_preserving inv
  refine (closed_sourceNode closed agent).bind fun source => ?_
  refine closed_withAsync closed (closed_enterSession closed) (closed_exitSession closed) fun _ => ?_
  refine closed_withAsync closed ((Preserves.wait _).bind fun _ => .ofExcept _)
    (closed_exitResponse closed) fun status => ?_
  exact .ite (stands.move source target agent) ((closed_responseText closed).bind fun _ => .pure _)

end Tasks

/-- A task on the topology; failovers are followed for any number of rounds. -/
inductive Operation where
  | update (update : TopologyUpdate)
  | nodeFailure (rounds : Nat) (node : NodeId)

def Operation.run (config : TopologyConfig) : Operation → Task Unit
  | update change => updateTopology config change
  | nodeFailure rounds node => handleNodeFailure rounds node

def Reaches (config : TopologyConfig) (start : NetworkTopology)
    (c : Config NetworkTopology Answer Interrupt Unit) : Prop :=
  Reachable served (fun _ x => ∃ op : Operation, x = op.run config) start c

theorem reaches_keeps {inv : NetworkTopology → Prop} (stands : Stands inv) {config : TopologyConfig}
    {start : NetworkTopology} (holds : inv start) {c : Config NetworkTopology Answer Interrupt Unit}
    (reached : Reaches config start c) : inv c.shared := by
  refine reachable_invariant (fun i x isTask => ?_) holds reached
  obtain ⟨op, rfl⟩ := isTask
  have closed := closed_preserving inv
  cases op with
  | update change =>
    exact closed_updateTopology closed (preserves_migrateAgent stands) config change
      (fun locked => .modify fun t holds => stands.locked t locked holds)
      (preserves_applyUpdate stands change)
  | nodeFailure rounds node =>
    exact closed_handleNodeFailure closed (preserves_migrateAgent stands) rounds node

theorem placed_stands : Stands NetworkTopology.Placed where
  graph := fun _ _ placed => placed
  locked := fun _ _ placed => placed
  fresh := fun _ _ absent placed agent a b onA onB =>
    placed agent a b ((on_fresh absent agent a).mp onA) ((on_fresh absent agent b).mp onB)
  pop := fun t node placed agent a b onA onB =>
    placed agent a b ((on_popState t node agent a).mp onA).2 ((on_popState t node agent b).mp onB).2
  move := preserves_move

/-- No agent is ever on two nodes, whatever tasks run, in whatever order. -/
theorem placement_unique (config : TopologyConfig) (start : NetworkTopology) (placed : start.Placed)
    (c : Config NetworkTopology Answer Interrupt Unit) (reached : Reaches config start c) :
    c.shared.Placed :=
  reaches_keeps placed_stands placed reached

def loaded : NetworkTopology :=
  (NetworkTopology.init.setState ⟨"edge-1", {"scout"}, ⟨[("cpu", .finite 90)], by decide⟩⟩).setState
    (.fresh "edge-2")

theorem placed_loaded : loaded.Placed := by
  have here : ∀ node, loaded.On "scout" node → node = "edge-1" := by
    intro node on
    rw [loaded, on_fresh (by decide +kernel), on_setState] at on
    split at on
    · assumption
    · obtain ⟨_, found, _⟩ := on
      cases found
  have only : ∀ agent node, loaded.On agent node → agent = "scout" := by
    intro agent node on
    rw [loaded, on_fresh (by decide +kernel), on_setState] at on
    split at on
    · exact Finset.mem_singleton.mp on
    · obtain ⟨_, found, _⟩ := on
      cases found
  intro agent a b onA onB
  cases only agent a onA
  rw [here a onA, here b onB]

def edgeConfig : TopologyConfig := ⟨.geoAffinity, false, 3, 100⟩

def edgeAnswer (_ : Nat) : (call : Call) → Answer call
  | .isOpen _ => .ok false
  | .recordFailure _ => .ok ()
  | .iterate agents =>
    if same : agents = {"scout"} then ⟨["scout"], by rw [same]; rfl⟩
    else ⟨agents.sort (· ≤ ·), by rw [Finset.sort_eq]⟩
  | .averageLoad _ _ => .finite 0
  | .createPod _ => .ok ()
  | .deletePod _ => .ok ()
  | .migrate _ _ _ => .ok 202
  | .health _ => .ok 200
  | .text => .ok ""
  | .acquire => .ok ()
  | .enterSession => .ok ()
  | .exitSession => .ok ()
  | .exitResponse => .ok ()
  | .sleep => .ok ()

/-- Two failovers of one node both ask for the same migration. -/
theorem scout_moved_once : ∃ c, Reaches edgeConfig loaded c ∧
    (c.shared.nodeStates.get? "edge-1").map NodeState.agents = some ∅ ∧
    (c.shared.nodeStates.get? "edge-2").map NodeState.agents = some {"scout"} ∧
    c.shared.Placed := by
  have idle : Reaches edgeConfig loaded (.init loaded) := .refl
  have failed := (idle.spawn 0 edgeAnswer rfl ⟨.nodeFailure 1 "edge-1", rfl⟩).resume 0
    .enterSession (.error (.raised ⟨.other, "Cannot connect to host"⟩)) edgeAnswer rfl trivial
  have both := (failed.spawn 1 edgeAnswer rfl ⟨.nodeFailure 1 "edge-1", rfl⟩).resume 1
    .enterSession (.error (.raised ⟨.other, "Cannot connect to host"⟩)) edgeAnswer rfl trivial
  have asked := (both.resume 0 .enterSession (.ok ()) edgeAnswer rfl trivial).resume 1
    .enterSession (.ok ()) edgeAnswer rfl trivial
  have moved := (asked.resume 0 (.migrate "edge-2" "scout" "edge-1") (.ok (202 : Int))
    edgeAnswer rfl trivial).resume 1 (.migrate "edge-2" "scout" "edge-1") (.ok (202 : Int))
    edgeAnswer rfl trivial
  refine ⟨_, moved, ?_, ?_, placement_unique edgeConfig loaded placed_loaded _ moved⟩
  · decide +kernel
  · decide +kernel

end KuvaAI.Topology
