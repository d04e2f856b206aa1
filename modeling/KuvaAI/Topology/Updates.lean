import KuvaAI.Topology.Migration
import KuvaAI.Topology.Tables

/-! What an update that raises leaves behind. Its elements are applied one by one, nothing
is undone when one is refused, and what follows them does not touch the graph. -/
namespace KuvaAI.Topology
open Python Coroutine

inductive Change where
  | node (node : NodeInfo)
  | link (link : Link)
  | removal (node : NodeId)

def TopologyUpdate.changes (update : TopologyUpdate) : List Change :=
  update.nodes.map .node ++ update.links.map .link ++ update.removedNodes.map .removal

namespace NetworkTopology

variable (t : NetworkTopology)

def changed : Change → NetworkTopology
  | .node node =>
    let added := { t with
      graph := t.graph.addNode (fun old => updated (old.getD Dict.empty) node.metadata) node.id }
    if node.id ∉ t.nodeStates.keys then added.setState (.fresh node.id) else added
  | .link link => { t with
      graph := t.graph.addEdge Dict.empty (fun old => updated (old.getD Dict.empty) link.metrics)
        link.source link.target }
  | .removal node => ({ t with graph := t.graph.removeNode node }).popState node

def Refuses : Change → Prop
  | .node node => ¬ ClearNode node
  | .link link => ¬ ClearLink link
  | .removal node => node ∉ t.graph.nodes.keys

def applying (changes : List Change) : NetworkTopology := changes.foldl changed t

/-- The first element of `changes` that is refused has ended their application in `s`. -/
def StopsAt (changes : List Change) (s : NetworkTopology) : Prop :=
  ∃ done c rest, changes = done ++ c :: rest ∧ (t.applying done).Refuses c ∧ s = t.applying done

end NetworkTopology

section Changes

variable {t s : NetworkTopology}

theorem applying_append (changes more : List Change) :
    t.applying (changes ++ more) = (t.applying changes).applying more :=
  List.foldl_append

theorem stopsAt_append {changes : List Change} (stops : t.StopsAt changes s) (more : List Change) :
    t.StopsAt (changes ++ more) s := by
  obtain ⟨done, c, rest, split, refused, same⟩ := stops
  exact ⟨done, c, rest ++ more, by rw [split, List.append_assoc, List.cons_append], refused, same⟩

theorem stopsAt_later {changes more : List Change} (stops : (t.applying changes).StopsAt more s) :
    t.StopsAt (changes ++ more) s := by
  obtain ⟨done, c, rest, split, refused, same⟩ := stops
  rw [← applying_append] at refused same
  exact ⟨changes ++ done, c, rest, by rw [split, List.append_assoc], refused, same⟩

theorem stopsAt_cons {c : Change} {rest : List Change} (stops : (t.changed c).StopsAt rest s) :
    t.StopsAt (c :: rest) s := by
  have later : (t.applying [c]).StopsAt rest s := stops
  exact stopsAt_later later

theorem changed_locked (locked : Bool) (c : Change) :
    ({ t with locked := locked }).changed c = { t.changed c with locked := locked } := by
  cases c with
  | node node =>
    simp only [NetworkTopology.changed]
    split <;> rfl
  | link link => rfl
  | removal node => rfl

theorem applying_locked (locked : Bool) (changes : List Change) :
    ({ t with locked := locked }).applying changes =
      { t.applying changes with locked := locked } := by
  induction changes generalizing t with
  | nil => rfl
  | cons c rest ih =>
    have first := changed_locked (t := t) locked c
    simp only [NetworkTopology.applying, List.foldl_cons, first]
    exact ih

end Changes

section Apply

variable (answer : Nat → (call : Call) → Answer call) {w : Alone}

theorem ends_checkKeywords {post : Unit → Alone → Prop} {exn : Interrupt → Alone → Prop}
    {function : String} {parameters : List String} {keywords : Attributes}
    (clear : Clear parameters keywords → post () w)
    (taken : ¬ Clear parameters keywords → ∀ e, exn e w) :
    ends answer post exn (checkKeywords function parameters keywords) w := by
  rcases checkKeywords_cases function parameters keywords with ⟨free, same⟩ | ⟨named, e, same⟩
  · rw [same]
    exact clear free
  · rw [same]
    exact taken named _

def Makes (c : Change) (x : Task Unit) : Prop :=
  ∀ w : Alone, ends answer (fun _ v => v = { w with state := w.state.changed c })
    (fun _ v => v = w ∧ w.state.Refuses c) x w

theorem makes_addNode (node : NodeInfo) : Makes answer (.node node) (addNode node) := by
  intro w
  rw [addNode, ends_bind]
  apply ends_checkKeywords
  · intro _
    rw [ends_bind, ends_modify, ends_bind, ends_get]
    apply ends_ite
    · intro absent
      rw [ends_modify, NetworkTopology.changed, if_pos absent]
    · intro present
      rw [ends_pure, NetworkTopology.changed, if_neg present]
  · exact fun refused _ => ⟨rfl, refused⟩

theorem makes_addLink (link : Link) : Makes answer (.link link) (addLink link) := by
  intro w
  rw [addLink, ends_bind]
  apply ends_checkKeywords
  · intro _
    rw [ends_modify]
    rfl
  · exact fun refused _ => ⟨rfl, refused⟩

theorem makes_removeNode (node : NodeId) : Makes answer (.removal node) (removeNode node) := by
  intro w
  rw [removeNode, ends_bind, ends_get, ends_bind, raiseIf]
  apply ends_ite
  · exact fun unknown => ⟨rfl, unknown⟩
  · intro _
    rw [ends_pure, ends_bind, ends_modify, ends_modify]
    rfl

theorem ends_each {ι : Type} {kind : ι → Change} {task : ι → Task Unit}
    (makes : ∀ i, Makes answer (kind i) (task i)) (items : List ι) (w : Alone) :
    ends answer (fun _ v => v = { w with state := w.state.applying (items.map kind) })
      (fun _ v => w.state.StopsAt (items.map kind) v.state) (items.forM task) w := by
  induction items generalizing w with
  | nil => rfl
  | cons i rest ih =>
    refine (ends_bind answer (task i) _).mpr ?_
    apply Effect.wp_mono (makes i w)
    · rintro _ v rfl
      apply Effect.wp_mono (ih _)
      · exact fun _ u same => same
      · exact fun _ u stops => stopsAt_cons stops
    · rintro e v ⟨rfl, refused⟩
      exact ⟨[], kind i, rest.map kind, rfl, refused, rfl⟩

/-- The elements of an update are applied in order, up to the first that is refused. -/
theorem applyUpdate_spec (update : TopologyUpdate) (w : Alone) :
    ends answer (fun _ v => v = { w with state := w.state.applying update.changes })
      (fun _ v => w.state.StopsAt update.changes v.state) (applyUpdate update) w := by
  rw [applyUpdate, ends_bind]
  apply Effect.wp_mono (ends_each answer (makes_addNode answer) update.nodes w)
  · rintro _ v rfl
    rw [ends_bind]
    apply Effect.wp_mono (ends_each answer (makes_addLink answer) update.links _)
    · rintro _ u rfl
      apply Effect.wp_mono (ends_each answer (makes_removeNode answer) update.removedNodes _)
      · rintro _ x rfl
        simp only [TopologyUpdate.changes, applying_append]
      · intro _ x stops
        simp only [← applying_append] at stops
        exact stopsAt_later stops
    · exact fun _ u stops => stopsAt_append (stopsAt_later stops) _
  · exact fun _ v stops => stopsAt_append (stopsAt_append stops _) _

/-- The graph and the nodes of the table, which balancing and scaling leave alone. -/
def SameTables (r s : NetworkTopology) : Prop :=
  s.graph = r.graph ∧ s.nodeStates.keys = r.nodeStates.keys

theorem sameTables_setState {r s : NetworkTopology} (same : SameTables r s) {node : NodeId}
    {state : NodeState} (found : s.nodeStates.get? node = some state) (agents : Finset AgentId) :
    SameTables r (s.setState { state with agents := agents }) :=
  ⟨same.1, (keys_of_profile (profile_setState found agents)).trans same.2⟩

theorem keeps_removeAgent (r : NetworkTopology) (node : NodeId) (agent : AgentId) :
    KeepsAlone answer (SameTables r) (removeAgent node agent) := by
  intro w same
  rw [removeAgent, ends_bind]
  apply ends_nodeState
  · intro state found
    rw [ends_bind, raiseIf]
    apply ends_ite
    · exact fun _ => same
    · exact fun _ => sameTables_setState same found _
  · exact fun _ _ => same

theorem keeps_addAgent (r : NetworkTopology) (node : NodeId) (agent : AgentId) :
    KeepsAlone answer (SameTables r) (addAgent node agent) := by
  intro w same
  rw [addAgent, ends_bind]
  apply ends_nodeState
  · exact fun state found => sameTables_setState same found _
  · exact fun _ _ => same

theorem keeps_balancing (r : NetworkTopology) (config : TopologyConfig) :
    KeepsAlone answer (SameTables r) (do rebalanceClusters config; autoScaleNodes config : Task Unit) := by
  have closed := KeepsAlone.closed (ε := Interrupt) answer (SameTables r)
  have migrates : ∀ agent target, KeepsAlone answer (SameTables r) (migrateAgent agent target) := by
    intro agent target
    refine closed.bind (closed_sourceNode closed agent) fun source => ?_
    refine closed_withAsync closed (closed_enterSession closed) (closed_exitSession closed) fun _ => ?_
    refine closed_withAsync closed (closed.awaited fun _ => closed.ofExcept _)
      (closed_exitResponse closed) fun status => ?_
    split
    · exact closed.bind (keeps_removeAgent answer r source agent) fun _ =>
        keeps_addAgent answer r target agent
    · exact closed.bind (closed_responseText closed) fun _ => closed.pure _
  exact closed.bind (closed_rebalanceClusters closed migrates config) fun _ =>
    closed_autoScaleNodes closed config

end Apply

inductive Stopped (t : NetworkTopology) (update : TopologyUpdate) (s : NetworkTopology) : Prop where
  /-- It never got the lock. -/
  | waiting (locked : t.locked = true) (same : s = t)
  /-- An element was refused: those before it have been applied, and nothing else. -/
  | refused (done : List Change) (c : Change) (rest : List Change)
      (split : update.changes = done ++ c :: rest) (refusal : (t.applying done).Refuses c)
      (graph : s.graph = (t.applying done).graph)
      (table : s.nodeStates = (t.applying done).nodeStates)
  /-- Every element has been applied. -/
  | applied (tables : SameTables (t.applying update.changes) s)

section Raise

variable (answer : Nat → (call : Call) → Answer call) {t : NetworkTopology} {update : TopologyUpdate}

theorem acquire_spec (w : Alone) :
    ends answer (fun _ v => v.state = { w.state with locked := true })
      (fun _ v => w.state.locked = true ∧ v.state = w.state) acquire w := by
  rw [acquire, ends_bind, ends_get]
  apply ends_ite
  · intro locked
    rw [ends_bind, ends_wait]
    refine (ends_bind answer _ _).mpr ((ends_ofExcept answer _).mpr ?_)
    split
    · rfl
    · exact ⟨locked, rfl⟩
  · exact fun _ => rfl

theorem refuses_locked (s : NetworkTopology) (locked : Bool) (c : Change) :
    ({ s with locked := locked }).Refuses c ↔ s.Refuses c := by
  cases c <;> rfl

theorem stopped_of_stopsAt {s : NetworkTopology}
    (stops : ({ t with locked := true }).StopsAt update.changes s) :
    Stopped t update { s with locked := false } := by
  obtain ⟨done, c, rest, split, refusal, rfl⟩ := stops
  rw [applying_locked] at refusal ⊢
  exact .refused done c rest split ((refuses_locked _ _ _).mp refusal) rfl rfl

theorem updateTopology_stopped (config : TopologyConfig) (update : TopologyUpdate) (w : Alone) :
    ends answer (fun _ _ => True) (fun _ v => Stopped w.state update v.state)
      (updateTopology config update) w := by
  rw [updateTopology, ends_withAsync]
  apply Effect.wp_mono (acquire_spec answer w)
  · intro _ v locked
    rw [ends_bind]
    apply Effect.wp_mono (applyUpdate_spec answer update v)
    · rintro _ u rfl
      have tables : SameTables (w.state.applying update.changes) (v.state.applying update.changes) := by
        rw [locked, applying_locked (t := w.state) true]
        exact ⟨rfl, rfl⟩
      apply Effect.wp_mono (keeps_balancing answer _ config _ tables)
      · exact fun _ _ _ => trivial
      · exact fun _ x same => .applied same
    · intro _ u stops
      rw [locked] at stops
      exact stopped_of_stopsAt stops
  · exact fun _ v failed => .waiting failed.1 failed.2

end Raise

/-- An update that raises has been applied up to the element that was refused, or in whole
if balancing or scaling raised. -/
theorem update_stops (answer : Nat → (call : Call) → Answer call) (config : TopologyConfig)
    (update : TopologyUpdate) (t : NetworkTopology) (e : Interrupt) (w : Alone)
    (raised : solo answer (updateTopology config update) (.start t) = (.error e, w)) :
    Stopped t update w.state := by
  have spec := updateTopology_stopped answer config update (.start t)
  exact (Effect.wp_of_error raised).mp spec

def mistaken : TopologyUpdate := ⟨[⟨"edge-3", Dict.empty⟩], [], ["edge-9"]⟩

theorem mistaken_stops : ∃ e w,
    solo edgeAnswer (updateTopology edgeConfig mistaken) (.start loaded) = (.error e, w) ∧
      Stopped loaded mistaken w.state :=
  ⟨_, _, Prod.ext rfl rfl, update_stops edgeAnswer edgeConfig mistaken loaded _ _ (Prod.ext rfl rfl)⟩

/-- The graph, the nodes of the table and the placement are what they were. -/
structure Untouched (t s : NetworkTopology) : Prop where
  nodes : ∀ node, node ∈ s.graph.nodes.keys ↔ node ∈ t.graph.nodes.keys
  edges : ∀ edge, edge ∈ s.graph.edges.keys ↔ edge ∈ t.graph.edges.keys
  table : ∀ node, node ∈ s.nodeStates.keys ↔ node ∈ t.nodeStates.keys
  placement : ∀ agent node, s.On agent node ↔ t.On agent node

/-- The new node stays although the update has raised. -/
theorem mistaken_half_applied : ¬ ∀ (config : TopologyConfig) (update : TopologyUpdate)
    (t : NetworkTopology) (e : Interrupt) (w : Alone),
    solo edgeAnswer (updateTopology config update) (.start t) = (.error e, w) →
      Untouched t w.state := by
  intro untouched
  have same := untouched edgeConfig mistaken loaded _ _ (Prod.ext rfl rfl)
  exact absurd (same.nodes "edge-3") (by decide +kernel)

end KuvaAI.Topology
