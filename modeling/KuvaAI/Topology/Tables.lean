import KuvaAI.Lib.Runs
import KuvaAI.Topology.Placement

/-! The graph and the node table, update after update. A link brings its ends into the
graph and nothing brings them into the table. -/
namespace KuvaAI.Topology
open Python Coroutine

def TopologyUpdate.Adds (update : TopologyUpdate) (v : NodeId) : Prop :=
  ∃ node ∈ update.nodes, node.id = v

def TopologyUpdate.Joins (update : TopologyUpdate) (v : NodeId) : Prop :=
  ∃ link ∈ update.links, link.source = v ∨ link.target = v

def Clear (parameters : List String) (keywords : Attributes) : Prop :=
  ∀ p ∈ parameters, p ∉ keywords.keys

def ClearNode (node : NodeInfo) : Prop := Clear ["self", "node_for_adding"] node.metadata

def ClearLink (link : Link) : Prop := Clear ["self", "u_of_edge", "v_of_edge"] link.metrics

namespace NetworkTopology

def Agrees (t : NetworkTopology) : Prop := ∀ v, v ∈ t.graph.nodes.keys ↔ v ∈ t.nodeStates.keys

/-- Every entry of the table has its node in the graph. -/
def Covered (t : NetworkTopology) : Prop := ∀ v, v ∈ t.nodeStates.keys → v ∈ t.graph.nodes.keys

def Removable (t : NetworkTopology) (nodes : List NodeId) : Prop :=
  nodes.Nodup ∧ ∀ v ∈ nodes, v ∈ t.graph.nodes.keys

end NetworkTopology

structure Applicable (t : NetworkTopology) (update : TopologyUpdate) : Prop where
  nodes : ∀ node ∈ update.nodes, ClearNode node
  links : ∀ link ∈ update.links, ClearLink link
  once : update.removedNodes.Nodup
  known : ∀ v ∈ update.removedNodes, v ∈ t.graph.nodes.keys ∨ update.Adds v ∨ update.Joins v

theorem checkKeywords_cases (function : String) (parameters : List String) (keywords : Attributes) :
    Clear parameters keywords ∧ checkKeywords function parameters keywords = pure () ∨
      ¬ Clear parameters keywords ∧ ∃ e, checkKeywords function parameters keywords = raise e := by
  rw [checkKeywords]
  split
  · rename_i absent
    refine .inl ⟨fun p member => ?_, rfl⟩
    simpa using List.find?_eq_none.mp absent p member
  · rename_i p first
    refine .inr ⟨fun clear => ?_, _, rfl⟩
    exact clear p (List.mem_of_find?_eq_some first) (by simpa using List.find?_some first)

abbrev atOnce {α : Type} (post : α → NetworkTopology → Prop) (exn : Interrupt → NetworkTopology → Prop)
    (x : Task α) (t : NetworkTopology) : Prop :=
  wp (.ofInvariant (fun _ _ _ _ => True) fun _ => False) 0 post exn x t

section Parts

variable {exn : Interrupt → NetworkTopology → Prop} {t : NetworkTopology}

theorem atOnce_checkKeywords {post : Unit → NetworkTopology → Prop} {function : String}
    {parameters : List String} {keywords : Attributes} (clear : Clear parameters keywords → post () t)
    (taken : ¬ Clear parameters keywords → ∀ e, exn e t) :
    atOnce post exn (checkKeywords function parameters keywords) t := by
  rcases checkKeywords_cases function parameters keywords with ⟨free, same⟩ | ⟨named, e, same⟩
  · rw [same]
    exact clear free
  · rw [same]
    exact taken named _

theorem atOnce_addNode {post : Unit → NetworkTopology → Prop} {node : NodeInfo}
    (added : ClearNode node → ∀ s : NetworkTopology,
      (∀ v, v ∈ s.graph.nodes.keys ↔ v = node.id ∨ v ∈ t.graph.nodes.keys) →
      (∀ v, v ∈ s.nodeStates.keys ↔ v = node.id ∨ v ∈ t.nodeStates.keys) → post () s)
    (refused : ¬ ClearNode node → ∀ e, exn e t) : atOnce post exn (addNode node) t := by
  rw [atOnce, addNode, wp_bind]
  refine atOnce_checkKeywords (fun clear => ?_) refused
  rw [wp_bind, wp_modify]
  refine ⟨fun _ _ => trivial, ?_⟩
  rw [wp_bind, wp_get, wp_ite]
  split
  · refine ⟨fun _ _ => trivial, added clear _ (fun v => Dict.mem_keys_set _ _ _ _) fun v => ?_⟩
    exact Dict.mem_keys_set _ _ _ _
  · rename_i present
    refine added clear _ (fun v => Dict.mem_keys_set _ _ _ _) fun v => ⟨.inr, ?_⟩
    rintro (rfl | old)
    · exact not_not.mp present
    · exact old

theorem atOnce_addLink {post : Unit → NetworkTopology → Prop} {link : Link}
    (added : ClearLink link → ∀ s : NetworkTopology,
      (∀ v, v ∈ s.graph.nodes.keys ↔
        (link.source = v ∨ link.target = v) ∨ v ∈ t.graph.nodes.keys) →
      s.nodeStates = t.nodeStates → post () s)
    (refused : ¬ ClearLink link → ∀ e, exn e t) : atOnce post exn (addLink link) t := by
  rw [atOnce, addLink, wp_bind]
  refine atOnce_checkKeywords (fun clear => ?_) refused
  rw [wp_modify]
  refine ⟨fun _ _ => trivial, added clear _ (fun v => ?_) rfl⟩
  refine (UndirectedGraph.node_ensureNode _ _ _ v).trans ?_
  rw [UndirectedGraph.node_ensureNode]
  constructor
  · rintro (rfl | rfl | old)
    · exact .inl (.inr rfl)
    · exact .inl (.inl rfl)
    · exact .inr old
  · rintro ((rfl | rfl) | old)
    · exact .inr (.inl rfl)
    · exact .inl rfl
    · exact .inr (.inr old)

theorem atOnce_removeNode {post : Unit → NetworkTopology → Prop} {node : NodeId}
    (removed : node ∈ t.graph.nodes.keys → ∀ s : NetworkTopology,
      (∀ v, v ∈ s.graph.nodes.keys ↔ v ≠ node ∧ v ∈ t.graph.nodes.keys) →
      (∀ v, v ∈ s.nodeStates.keys ↔ v ≠ node ∧ v ∈ t.nodeStates.keys) → post () s)
    (refused : node ∉ t.graph.nodes.keys → ∀ e, exn e t) :
    atOnce post exn (removeNode node) t := by
  rw [atOnce, removeNode, wp_bind, wp_get, wp_bind, raiseIf, wp_ite]
  split
  · rename_i unknown
    exact refused unknown _
  · rename_i known
    rw [wp_pure, wp_bind, wp_modify]
    refine ⟨fun _ _ => trivial, fun _ _ => trivial, ?_⟩
    exact removed (not_not.mp known) _ (fun v => Dict.mem_keys_erase _ _ _) fun v =>
      Dict.mem_keys_erase _ _ _

end Parts

def TopologyUpdate.IsClear (update : TopologyUpdate) : Prop :=
  (∀ node ∈ update.nodes, ClearNode node) ∧ ∀ link ∈ update.links, ClearLink link

structure Adding (t : NetworkTopology) (update pending : TopologyUpdate) (s : NetworkTopology) : Prop where
  graph : ∀ v, v ∈ s.graph.nodes.keys ∨ pending.Adds v ∨ pending.Joins v ↔
    v ∈ t.graph.nodes.keys ∨ update.Adds v ∨ update.Joins v
  table : ∀ v, v ∈ s.nodeStates.keys ∨ pending.Adds v ↔ v ∈ t.nodeStates.keys ∨ update.Adds v
  covered : s.Covered
  clear : pending.IsClear ↔ update.IsClear

structure Removing (t : NetworkTopology) (removed pending : List NodeId) (s : NetworkTopology) : Prop where
  graph : ∀ v, v ∈ s.graph.nodes.keys ∧ v ∉ pending ↔ v ∈ t.graph.nodes.keys ∧ v ∉ removed
  table : ∀ v, v ∈ s.nodeStates.keys ∧ v ∉ pending ↔ v ∈ t.nodeStates.keys ∧ v ∉ removed
  covered : s.Covered
  removable : s.Removable pending ↔ t.Removable removed

section Pending

variable (node : NodeInfo) (nodes : List NodeInfo) (link : Link) (links : List Link)
  (removed : List NodeId) (v : NodeId)

theorem adds_cons : (TopologyUpdate.mk (node :: nodes) links removed).Adds v ↔
    node.id = v ∨ (TopologyUpdate.mk nodes links removed).Adds v :=
  List.exists_mem_cons_iff _ _ _

theorem joins_cons : (TopologyUpdate.mk nodes (link :: links) removed).Joins v ↔
    (link.source = v ∨ link.target = v) ∨ (TopologyUpdate.mk nodes links removed).Joins v :=
  List.exists_mem_cons_iff _ _ _

end Pending

section Loops

variable {t s r : NetworkTopology} {update : TopologyUpdate}

theorem adding_node {node : NodeInfo} {rest : List NodeInfo}
    (adding : Adding t update { update with nodes := node :: rest } s) (clear : ClearNode node)
    (graph : ∀ v, v ∈ r.graph.nodes.keys ↔ v = node.id ∨ v ∈ s.graph.nodes.keys)
    (table : ∀ v, v ∈ r.nodeStates.keys ↔ v = node.id ∨ v ∈ s.nodeStates.keys) :
    Adding t update { update with nodes := rest } r where
  graph v := by
    have before := adding.graph v
    rw [adds_cons] at before
    rw [graph v, ← before, eq_comm, or_assoc, or_assoc]
    exact or_left_comm
  table v := by
    have before := adding.table v
    rw [adds_cons] at before
    rw [table v, ← before, eq_comm, or_assoc]
    exact or_left_comm
  covered v present := by
    refine (graph v).mpr (((table v).mp present).imp_right ?_)
    exact adding.covered v
  clear := by
    rw [← adding.clear, TopologyUpdate.IsClear, TopologyUpdate.IsClear, List.forall_mem_cons]
    tauto

theorem adding_link {link : Link} {rest : List Link}
    (adding : Adding t update ⟨[], link :: rest, update.removedNodes⟩ s) (clear : ClearLink link)
    (graph : ∀ v, v ∈ r.graph.nodes.keys ↔
      (link.source = v ∨ link.target = v) ∨ v ∈ s.graph.nodes.keys)
    (table : r.nodeStates = s.nodeStates) : Adding t update ⟨[], rest, update.removedNodes⟩ r where
  graph v := by
    have before := adding.graph v
    rw [joins_cons] at before
    rw [graph v, ← before, or_assoc, or_left_comm]
    exact or_congr_right or_left_comm
  table v := table ▸ adding.table v
  covered v present := (graph v).mpr (.inr (adding.covered v (table ▸ present)))
  clear := by
    rw [← adding.clear, TopologyUpdate.IsClear, TopologyUpdate.IsClear, List.forall_mem_cons]
    tauto

theorem removing_node {removed : List NodeId} {node : NodeId} {rest : List NodeId}
    (removing : Removing t removed (node :: rest) s) (known : node ∈ s.graph.nodes.keys)
    (graph : ∀ v, v ∈ r.graph.nodes.keys ↔ v ≠ node ∧ v ∈ s.graph.nodes.keys)
    (table : ∀ v, v ∈ r.nodeStates.keys ↔ v ≠ node ∧ v ∈ s.nodeStates.keys) :
    Removing t removed rest r where
  graph v := by
    rw [graph v, ← removing.graph v, List.mem_cons]
    tauto
  table v := by
    rw [table v, ← removing.table v, List.mem_cons]
    tauto
  covered v present := by
    obtain ⟨other, old⟩ := (table v).mp present
    exact (graph v).mpr ⟨other, removing.covered v old⟩
  removable := by
    rw [← removing.removable, NetworkTopology.Removable, NetworkTopology.Removable, List.nodup_cons,
      List.forall_mem_cons]
    constructor
    · rintro ⟨nodup, left⟩
      exact ⟨⟨fun again => ((graph node).mp (left node again)).1 rfl, nodup⟩, known,
        fun v member => ((graph v).mp (left v member)).2⟩
    · rintro ⟨⟨once, nodup⟩, _, left⟩
      exact ⟨nodup, fun v member => (graph v).mpr ⟨fun same => once (same ▸ member), left v member⟩⟩

structure Applied (t : NetworkTopology) (update : TopologyUpdate) (s : NetworkTopology) : Prop where
  graph : ∀ v, v ∈ s.graph.nodes.keys ↔
    (v ∈ t.graph.nodes.keys ∨ update.Adds v ∨ update.Joins v) ∧ v ∉ update.removedNodes
  table : ∀ v, v ∈ s.nodeStates.keys ↔
    (v ∈ t.nodeStates.keys ∨ update.Adds v) ∧ v ∉ update.removedNodes
  covered : s.Covered

theorem applicable_iff (added : Adding t update ⟨[], [], update.removedNodes⟩ s) :
    Applicable t update ↔ s.Removable update.removedNodes := by
  have clear : update.IsClear := added.clear.mp ⟨by simp, by simp⟩
  have reached : ∀ v, v ∈ s.graph.nodes.keys ↔
      v ∈ t.graph.nodes.keys ∨ update.Adds v ∨ update.Joins v := by
    intro v
    simpa [TopologyUpdate.Adds, TopologyUpdate.Joins] using added.graph v
  constructor
  · exact fun applicable => ⟨applicable.once, fun v member => (reached v).mpr (applicable.known v member)⟩
  · exact fun removable =>
      ⟨clear.1, clear.2, removable.1, fun v member => (reached v).mp (removable.2 v member)⟩

theorem applied_of_removed (added : Adding t update ⟨[], [], update.removedNodes⟩ s)
    (removed : Removing s update.removedNodes [] r) : Applied t update r where
  graph v := by
    have before := added.graph v
    have after := removed.graph v
    simp only [TopologyUpdate.Adds, TopologyUpdate.Joins, List.not_mem_nil, false_and, exists_false,
      or_false, not_false_iff, and_true] at before after ⊢
    rw [after, before]
  table v := by
    have before := added.table v
    have after := removed.table v
    simp only [TopologyUpdate.Adds, List.not_mem_nil, false_and, exists_false, or_false,
      not_false_iff, and_true] at before after ⊢
    rw [after, before]
  covered := removed.covered

theorem atOnce_applyUpdate (covered : t.Covered) (update : TopologyUpdate) :
    atOnce (fun _ s => Applicable t update ∧ Applied t update s)
      (fun _ s => ¬ Applicable t update ∧ s.Covered) (applyUpdate update) t := by
  have start : Adding t update update t := ⟨fun _ => .rfl, fun _ => .rfl, covered, .rfl⟩
  rw [atOnce, applyUpdate, wp_bind]
  refine wp_mono (wp_forM (I := fun rest => Adding t update { update with nodes := rest }) ?_
    update.nodes start) (fun _ s added => ?_) fun _ _ refused => refused
  · intro node rest s adding
    refine atOnce_addNode (fun clear r graph table => adding_node adding clear graph table) ?_
    exact fun unclear _ => ⟨fun applicable =>
      unclear ((adding.clear.mpr ⟨applicable.nodes, applicable.links⟩).1 node List.mem_cons_self),
      adding.covered⟩
  rw [wp_bind]
  refine wp_mono (wp_forM (I := fun rest => Adding t update ⟨[], rest, update.removedNodes⟩) ?_
    update.links added) (fun _ s added => ?_) fun _ _ refused => refused
  · intro link rest s adding
    refine atOnce_addLink (fun clear r graph table => adding_link adding clear graph table) ?_
    exact fun unclear _ => ⟨fun applicable =>
      unclear ((adding.clear.mpr ⟨applicable.nodes, applicable.links⟩).2 link List.mem_cons_self),
      adding.covered⟩
  have removing : Removing s update.removedNodes update.removedNodes s :=
    ⟨fun _ => .rfl, fun _ => .rfl, added.covered, .rfl⟩
  refine wp_mono (wp_forM (I := Removing s update.removedNodes) ?_ update.removedNodes removing)
    (fun _ r removed => ?_) fun _ _ refused => refused
  · intro node rest r removing
    refine atOnce_removeNode (fun known _ graph table => removing_node removing known graph table) ?_
    exact fun unknown _ => ⟨fun applicable =>
      unknown ((removing.removable.mpr ((applicable_iff added).mp applicable)).2 node List.mem_cons_self),
      removing.covered⟩
  · exact ⟨(applicable_iff added).mpr (removed.removable.mp ⟨List.nodup_nil, by simp⟩),
      applied_of_removed added removed⟩

end Loops

/-- Every node of the graph and every end of a link has an entry in the table, gets one
or is removed. -/
def Tabled (t : NetworkTopology) (update : TopologyUpdate) : Prop :=
  ∀ v, v ∈ t.graph.nodes.keys ∨ update.Joins v →
    v ∈ t.nodeStates.keys ∨ update.Adds v ∨ v ∈ update.removedNodes

theorem agrees_iff {t s : NetworkTopology} {update : TopologyUpdate} (covered : t.Covered)
    (applied : Applied t update s) : s.Agrees ↔ Tabled t update := by
  constructor
  · intro agrees v present
    by_cases removed : v ∈ update.removedNodes
    · exact .inr (.inr removed)
    · have inGraph : v ∈ s.graph.nodes.keys :=
        (applied.graph v).mpr ⟨present.imp_right .inr, removed⟩
      obtain ⟨known, _⟩ := (applied.table v).mp ((agrees v).mp inGraph)
      exact known.imp_right .inl
  · intro tabled v
    rw [applied.graph v, applied.table v]
    refine and_congr_left fun kept => ⟨?_, ?_⟩
    · rintro (old | added | joined)
      · exact (tabled v (.inl old)).imp_right fun new => new.resolve_right kept
      · exact .inr added
      · exact (tabled v (.inr joined)).imp_right fun new => new.resolve_right kept
    · exact fun known => known.imp (covered v) .inl

section Updates

variable (answer : Nat → (call : Call) → Answer call)

/-- `_apply_update` on its own; it asks nothing and waits for nothing. -/
def applied (t : NetworkTopology) (update : TopologyUpdate) : Task Unit × NetworkTopology :=
  advance (applyUpdate update) answer 0 t

def afterUpdate (t : NetworkTopology) (update : TopologyUpdate) : NetworkTopology :=
  (applied answer t update).2

def Returned (t : NetworkTopology) (update : TopologyUpdate) : Prop :=
  ∃ a, (applied answer t update).1 = done a

variable {t : NetworkTopology} (covered : t.Covered) (update : TopologyUpdate)

include covered

theorem applied_spec :
    Returned answer t update ∧ Applicable t update ∧ Applied t update (afterUpdate answer t update) ∨
      ¬ Returned answer t update ∧ ¬ Applicable t update ∧ (afterUpdate answer t update).Covered := by
  have spec := (advance_spec (atOnce_applyUpdate covered update) answer 0).2
  rw [Returned, afterUpdate, applied]
  rcases advance_ends (applyUpdate update) answer 0 t with ⟨a, ended⟩ | ⟨e, failed⟩ | ⟨q, k, waits⟩
  · rw [ended] at spec ⊢
    exact .inl ⟨⟨a, rfl⟩, spec⟩
  · rw [failed] at spec ⊢
    exact .inr ⟨fun returned => (nomatch returned.choose_spec), spec⟩
  · rw [waits] at spec
    exact spec.1.elim

theorem covered_afterUpdate : (afterUpdate answer t update).Covered := by
  rcases applied_spec answer covered update with ⟨_, _, applied⟩ | ⟨_, _, still⟩
  · exact applied.covered
  · exact still

theorem returned_agrees_iff :
    (Returned answer t update → (afterUpdate answer t update).Agrees) ↔
      (Applicable t update → Tabled t update) := by
  rcases applied_spec answer covered update with ⟨returned, applicable, applied⟩ | ⟨raised, refused, _⟩
  · exact imp_congr (iff_of_true returned applicable) (agrees_iff covered applied)
  · exact iff_of_true (fun returned => (raised returned).elim) fun applicable => (refused applicable).elim

end Updates

/-- The graph and the table agree after every update that returns, exactly when no
update that can be applied leaves a node or an end of a link without an entry. -/
theorem tables_agree_iff (answer : Nat → (call : Call) → Answer call) (updates : List TopologyUpdate) :
    Runs.Each (afterUpdate answer)
        (fun t update => Returned answer t update → (afterUpdate answer t update).Agrees)
        NetworkTopology.init updates ↔
      Runs.Each (afterUpdate answer) (fun t update => Applicable t update → Tabled t update)
        NetworkTopology.init updates := by
  have covered : NetworkTopology.init.Covered := fun _ present => (List.not_mem_nil present).elim
  have keeps : ∀ t update, t.Covered → (afterUpdate answer t update).Covered :=
    fun _ update covered => covered_afterUpdate answer covered update
  exact Runs.each_congr_inv keeps
    (fun _ update covered => returned_agrees_iff answer covered update) NetworkTopology.init updates covered

def linkOnly : TopologyUpdate := ⟨[], [⟨"edge-1", "edge-2", Dict.empty⟩], []⟩

theorem linkOnly_disagrees : ¬ Runs.Each (afterUpdate edgeAnswer)
    (fun t update => Returned edgeAnswer t update → (afterUpdate edgeAnswer t update).Agrees)
    NetworkTopology.init [linkOnly] := by
  intro each
  have agrees := each [] linkOnly (List.prefix_refl _) ⟨(), rfl⟩ "edge-1"
  exact absurd agrees (by decide +kernel)

end KuvaAI.Topology
