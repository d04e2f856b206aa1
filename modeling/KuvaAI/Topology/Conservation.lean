import KuvaAI.Topology.Placement

/-! What becomes of the agents in a step. A migration takes an agent off its node before
it looks for the target, so what matters is that the target is there when the answer
comes. -/
namespace KuvaAI.Topology
open Python Coroutine

/-- The target of an accepted migration is still there, or the agent has another place. -/
def TargetStands (target : NodeId) (agent : AgentId) (source : NodeId) (t : NetworkTopology) : Prop :=
  t.On agent source → target ∈ t.nodeStates.keys ∨ ∃ other, other ≠ source ∧ t.On agent other

def servedStanding (i : Nat) : (call : Call) → Answer call → NetworkTopology → Prop
  | .migrate target agent source, .ok status, t => status = 202 → TargetStands target agent source t
  | call, answer, t => served i call answer t

def Operation.removes : Operation → List NodeId
  | update change => change.removedNodes
  | nodeFailure _ _ => []

section Relations

variable (removed : List NodeId)

def StayPut (s t : NetworkTopology) : Prop := ∀ agent node, s.On agent node → t.On agent node

/-- Every agent stays where it is, unless that node has been removed. -/
def StayBut (s t : NetworkTopology) : Prop :=
  ∀ agent node, s.On agent node → t.On agent node ∨ node ∈ removed ∧ node ∉ t.nodeStates.keys

def StaySomewhere (s t : NetworkTopology) : Prop :=
  ∀ agent node, s.On agent node →
    (∃ other, t.On agent other) ∨ node ∈ removed ∧ node ∉ t.nodeStates.keys

variable {removed} {s t : NetworkTopology}

theorem StayPut.stayBut (stay : StayPut s t) : StayBut removed s t :=
  fun agent node on => .inl (stay agent node on)

theorem StayBut.staySomewhere (stay : StayBut removed s t) : StaySomewhere removed s t :=
  fun agent node on => (stay agent node on).imp_left fun still => ⟨node, still⟩

theorem stayPut_refl (t : NetworkTopology) : StayPut t t := fun _ _ on => on

theorem nowhere_of_entries {agent : AgentId} (absent : ∀ e ∈ t.nodeStates.entries, agent ∉ e.2.agents)
    (node : NodeId) : ¬ t.On agent node := by
  rintro ⟨state, found, member⟩
  exact absent (node, state) (Dict.mem_of_get? found) member

theorem staySomewhere_refl (removed : List NodeId) (t : NetworkTopology) : StaySomewhere removed t t :=
  fun _ node on => .inl ⟨node, on⟩

theorem StayPut.fresh (stay : StayPut s t) {node : NodeId} (absent : node ∉ t.nodeStates.keys) :
    StayPut s (t.setState (.fresh node)) :=
  fun agent place on => (on_fresh absent agent place).mpr (stay agent place on)

theorem StayBut.pop (stay : StayBut removed s t) {node : NodeId} (member : node ∈ removed) :
    StayBut removed s (t.popState node) := by
  intro agent place on
  by_cases here : place = node
  · subst here
    exact .inr ⟨member, fun present => ((Dict.mem_keys_erase _ _ _).mp present).1 rfl⟩
  · refine (stay agent place on).imp (fun still => ?_) (fun gone => ⟨gone.1, fun present => ?_⟩)
    · exact (on_popState t node agent place).mpr ⟨here, still⟩
    · exact gone.2 ((Dict.mem_keys_erase _ _ _).mp present).2

theorem staySomewhere_moved {source target : NodeId} {agent : AgentId} {left joined : NodeState}
    (found : t.nodeStates.get? source = some left)
    (foundTo : (t.setState { left with agents := left.agents.erase agent }).nodeStates.get? target =
      some joined) :
    StaySomewhere removed t
      ((t.setState { left with agents := left.agents.erase agent }).setState
        { joined with agents := insert agent joined.agents }) := by
  intro other place on
  by_cases same : other = agent
  · exact .inl ⟨target, (on_insert foundTo agent other target).mpr (.inr ⟨same, rfl⟩)⟩
  · refine .inl ⟨place, (on_insert foundTo agent other place).mpr (.inl ?_)⟩
    exact (on_erase found agent other place).mpr ⟨on, fun both => same both.1⟩

theorem staySomewhere_taken {source : NodeId} {agent : AgentId} {left : NodeState}
    (found : t.nodeStates.get? source = some left)
    (elsewhere : ∃ other, other ≠ source ∧ t.On agent other) :
    StaySomewhere removed t (t.setState { left with agents := left.agents.erase agent }) := by
  intro other place on
  by_cases same : other = agent
  · obtain ⟨further, apart, onFurther⟩ := elsewhere
    subst same
    exact .inl ⟨further, (on_erase found other other further).mpr ⟨onFurther, fun both => apart both.2⟩⟩
  · exact .inl ⟨place, (on_erase found agent other place).mpr ⟨on, fun both => same both.1⟩⟩

end Relations

section Rules

variable {allowed : (call : Call) → Answer call → NetworkTopology → Prop}
  {G : NetworkTopology → NetworkTopology → Prop} {exn : Interrupt → NetworkTopology → NetworkTopology → Prop}
  {s t : NetworkTopology}

theorem swp_nodeState {post : NodeState → NetworkTopology → NetworkTopology → Prop} {node : NodeId}
    (present : ∀ state, t.nodeStates.get? node = some state → post state s t)
    (absent : t.nodeStates.get? node = none → ∀ e, exn e s t) :
    swp allowed G post exn (nodeState node) s t := by
  refine swp_bind (swp_get.mpr ?_)
  cases found : t.nodeStates.get? node with
  | none => exact absent found _
  | some state => exact present state found

theorem swp_raiseIf {post : Unit → NetworkTopology → NetworkTopology → Prop} {c : Prop} [Decidable c]
    {e : Exn} (passed : ¬ c → post () s t) (raised : c → exn (.raised e) s t) :
    swp allowed G post exn (raiseIf c e) s t := by
  rw [raiseIf]
  split
  · exact raised ‹c›
  · exact passed ‹¬ c›

end Rules

section Steps

variable {removed : List NodeId} {i : Nat}

theorem closed_staying {G : NetworkTopology → NetworkTopology → Prop} (still : ∀ t, G t t) :
    Closed (fun {α} (x : Task α) => Guarded (servedStanding i) G x) :=
  Guarded.closed _ still

theorem swp_moved {source target : NodeId} {agent : AgentId} {t : NetworkTopology}
    (stands : TargetStands target agent source t) :
    swp (servedStanding i) (StaySomewhere removed) (fun _ => StaySomewhere removed)
      (fun _ => StaySomewhere removed) (do removeAgent source agent; addAgent target agent) t t := by
  have still : StaySomewhere removed t t := staySomewhere_refl _ t
  refine swp_bind (swp_bind (swp_nodeState (fun left found => ?_) fun _ _ => still))
  refine swp_bind (swp_raiseIf (fun member => ?_) fun _ => still)
  have on : t.On agent source := ⟨left, found, not_not.mp member⟩
  refine swp_bind (swp_nodeState (fun joined foundTo => ?_) fun absent _ => ?_)
  · exact staySomewhere_moved found foundTo
  · -- the target is gone: the agent has been taken off all the same
    refine staySomewhere_taken found ((stands on).resolve_left fun present => ?_)
    refine (Dict.get?_eq_none_iff _ _).mp absent ?_
    exact (Dict.mem_keys_set _ _ _ _).mpr (.inr present)

theorem guarded_migrateAgent (agent : AgentId) (target : NodeId) :
    Guarded (servedStanding i) (StaySomewhere removed) (migrateAgent agent target) := by
  have closed := closed_staying (i := i) (staySomewhere_refl removed)
  refine closed.bind (closed_sourceNode closed agent) fun source => ?_
  refine closed_withAsync closed (closed_enterSession closed) (closed_exitSession closed) fun _ => ?_
  intro s₀ s kept
  refine swp_bind (swp_bind ⟨kept, fun answer t answered => ?_⟩)
  cases answer with
  | error e => exact staySomewhere_refl _ t
  | ok status =>
    have left := closed_exitResponse closed
    refine swp_finallyDo (swp_mono ?_ (fun _ _ later => later) (fun _ => left) fun _ => left)
    beta_reduce
    split
    · rename_i accepted
      exact swp_moved (answered accepted)
    · exact closed.bind (closed_responseText closed) (fun _ => closed.pure _) t t (staySomewhere_refl _ t)

theorem guarded_addNode (node : NodeInfo) : Guarded (servedStanding i) StayPut (addNode node) := by
  have closed := closed_staying (i := i) stayPut_refl
  refine closed.bind (closed_checkKeywords closed _ _ _) fun _ => ?_
  refine closed.bind (Guarded.modify fun _ _ stay => stay) fun _ => ?_
  intro s₀ s stay
  refine swp_bind ?_
  change swp (servedStanding i) StayPut _ _ (if node.id ∉ s.nodeStates.keys then _ else _) s₀ s
  split
  · rename_i absent
    exact StayPut.fresh stay absent
  · exact stay

theorem closed_stayBut : Closed (fun {α} (x : Task α) => Guarded (servedStanding i) (StayBut removed) x) :=
  closed_staying fun t => (stayPut_refl t).stayBut

theorem guarded_addLink (link : Link) :
    Guarded (servedStanding i) (StayBut removed) (addLink link) :=
  closed_stayBut.bind (closed_checkKeywords closed_stayBut _ _ _) fun _ =>
    Guarded.modify fun _ _ stay => stay

theorem guarded_removeNode {node : NodeId} (member : node ∈ removed) :
    Guarded (servedStanding i) (StayBut removed) (removeNode node) := by
  refine closed_stayBut.bind closed_stayBut.get fun t =>
    closed_stayBut.bind (closed_raiseIf closed_stayBut _ _) fun _ => ?_
  exact closed_stayBut.bind (Guarded.modify fun _ _ stay => stay) fun _ =>
    Guarded.modify fun _ _ stay => StayBut.pop stay member

theorem swp_applyUpdate (update : TopologyUpdate) {s t : NetworkTopology} (stay : StayPut s t) :
    swp (servedStanding i) (StayBut update.removedNodes) (fun _ => StayBut update.removedNodes)
      (fun _ => StayBut update.removedNodes) (applyUpdate update) s t := by
  have added : Guarded (servedStanding i) StayPut (update.nodes.forM addNode) :=
    (closed_staying stayPut_refl).forM fun node _ => guarded_addNode node
  refine added.bind (fun _ _ => StayPut.stayBut) (fun _ => ?_) stay
  exact closed_stayBut.bind (closed_stayBut.forM fun link _ => guarded_addLink link) fun _ =>
    closed_stayBut.forM fun node member => guarded_removeNode member

theorem guarantees_updateTopology (config : TopologyConfig) (update : TopologyUpdate) :
    Guarantees (servedStanding i) (StaySomewhere update.removedNodes) (updateTopology config update) := by
  have closed := closed_staying (i := i) (staySomewhere_refl update.removedNodes)
  have acquired : Guarded (servedStanding i) StayPut acquire :=
    closed_acquire (closed_staying stayPut_refl) fun _ => Guarded.modify fun _ _ stay => stay
  have rebalanced : Guarded (servedStanding i) (StaySomewhere update.removedNodes)
      (do rebalanceClusters config; autoScaleNodes config : Task Unit) :=
    closed.bind (closed_rebalanceClusters closed guarded_migrateAgent config) fun _ =>
      closed_autoScaleNodes closed config
  have released : Guarded (servedStanding i) (StaySomewhere update.removedNodes) release :=
    Guarded.modify fun _ _ stay => stay
  intro s
  refine swp_bind (swp_mono (acquired s s (stayPut_refl s))
    (fun _ _ stay => stay.stayBut.staySomewhere) (fun _ s₀ t stay => ?_)
    fun _ _ _ stay => stay.stayBut.staySomewhere)
  refine swp_finallyDo (swp_mono ?_ (fun _ _ later => later) (fun _ => released) fun _ => released)
  exact swp_bind (swp_mono (swp_applyUpdate update stay) (fun _ _ => StayBut.staySomewhere)
    (fun _ s₀ t stay => rebalanced s₀ t stay.staySomewhere) fun _ _ _ => StayBut.staySomewhere)

theorem guarantees_handleNodeFailure (rounds : Nat) (node : NodeId) :
    Guarantees (servedStanding i) (StaySomewhere []) (handleNodeFailure rounds node) :=
  fun s => closed_handleNodeFailure (closed_staying (staySomewhere_refl _)) guarded_migrateAgent rounds node
    s s (staySomewhere_refl _ s)

end Steps

/-- When no accepted migration finds its target gone, an agent leaves all nodes only by
the removal of its own. -/
theorem agents_conserved (config : TopologyConfig) (ops : Nat → Operation) (start : NetworkTopology)
    (c d : Config NetworkTopology Answer Interrupt Unit)
    (reached : Reachable servedStanding (fun i x => x = (ops i).run config) start c)
    (step : Step servedStanding (fun i x => x = (ops i).run config) c d) :
    ∃ i, (∀ j, j ≠ i → d.tasks j = c.tasks j) ∧
      StaySomewhere (ops i).removes c.shared d.shared := by
  refine step_guaranteed (G := fun i => StaySomewhere (ops i).removes) ?_ reached step
  rintro i x rfl
  cases op : ops i with
  | update change => exact guarantees_updateTopology config change
  | nodeFailure rounds node => exact guarantees_handleNodeFailure rounds node

def failover : Nat → Operation
  | 0 => .nodeFailure 1 "edge-1"
  | _ => .update ⟨[], [], ["edge-2"]⟩

def meshed : NetworkTopology :=
  { loaded with
    graph := (UndirectedGraph.empty.addNode (fun _ => Dict.empty) "edge-1").addNode
      (fun _ => Dict.empty) "edge-2" }

theorem scout_conserved : ∃ c d,
    Reachable servedStanding (fun i x => x = (failover i).run edgeConfig) meshed c ∧
    Step servedStanding (fun i x => x = (failover i).run edgeConfig) c d ∧
    c.shared.On "scout" "edge-1" ∧ d.shared.On "scout" "edge-2" ∧
    ∃ i, (∀ j, j ≠ i → d.tasks j = c.tasks j) ∧
      StaySomewhere (failover i).removes c.shared d.shared := by
  have idle : Reachable servedStanding (fun i x => x = (failover i).run edgeConfig) meshed _ := .refl
  have failed := (idle.spawn 0 edgeAnswer rfl rfl).resume 0 .enterSession
    (.error (.raised ⟨.other, "Cannot connect to host"⟩)) edgeAnswer rfl trivial
  have asked := failed.resume 0 .enterSession (.ok ()) edgeAnswer rfl trivial
  have accepted := asked.next 0 (.migrate "edge-2" "scout" "edge-1") (.ok (202 : Int)) edgeAnswer rfl
    (fun _ _ => .inl (by decide +kernel))
  refine ⟨_, _, asked, accepted, ⟨_, rfl, ?_⟩, ⟨_, rfl, ?_⟩, ?_⟩
  · decide +kernel
  · decide +kernel
  · exact agents_conserved edgeConfig failover meshed _ _ asked accepted

/-- The target is removed while the request is under way, and the agent is lost. -/
theorem scout_lost : ∃ c d, Reaches edgeConfig meshed c ∧
    Step served (fun _ x => ∃ op : Operation, x = op.run edgeConfig) c d ∧
    c.shared.On "scout" "edge-1" ∧ (∀ node, ¬ d.shared.On "scout" node) ∧
    "edge-1" ∈ d.shared.nodeStates.keys := by
  have idle : Reaches edgeConfig meshed _ := .refl
  have failed := (idle.spawn 0 edgeAnswer rfl ⟨failover 0, rfl⟩).resume 0 .enterSession
    (.error (.raised ⟨.other, "Cannot connect to host"⟩)) edgeAnswer rfl trivial
  have asked := failed.resume 0 .enterSession (.ok ()) edgeAnswer rfl trivial
  have removed := asked.spawn 1 edgeAnswer rfl ⟨failover 1, rfl⟩
  have accepted := removed.next 0 (.migrate "edge-2" "scout" "edge-1") (.ok (202 : Int)) edgeAnswer rfl
    trivial
  refine ⟨_, _, removed, accepted, ⟨_, rfl, ?_⟩, ?_, ?_⟩
  · decide +kernel
  · exact nowhere_of_entries (by decide +kernel)
  · decide +kernel

end KuvaAI.Topology
