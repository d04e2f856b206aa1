import KuvaAI.Workflow.Parser

/-! The hooks of a pipeline. The pass that adds them iterates over the nodes of the
graph that it adds to, so that the first hook there is ends it. -/
namespace KuvaAI.Workflow
open Python Relation

def hooksAt (dag : Dag String) (nodeId : String) : Option (Dict String (List String)) :=
  (dag.nodes.get? nodeId).bind NodeData.hooks

/-- An acyclic graph of plainly named nodes, each with a map of hooks. -/
structure Hookable (dag : Dag String) : Prop where
  acyclic : Acyclic dag.Edge
  plain : ∀ v, dag.Node v → ¬ Dotted v
  hooks : ∀ v, dag.Node v → ∃ hooks, hooksAt dag v = some hooks

/-- What the pass owes the graph. A hook that is listed twice keeps its first place. -/
structure HooksAdded (dag grown : Dag String) : Prop where
  acyclic : Acyclic grown.Edge
  nodes : ∀ v, dag.Node v → grown.Node v
  edges : ∀ u v, dag.Edge u v → grown.Edge u v
  ordered : ∀ v hooks, hooksAt dag v = some hooks →
    (hookIds v hooks).eraseDups.Pairwise (TransGen grown.Edge)

def AddsHooks (dag : Dag String) : Prop :=
  ∃ grown, processHookDependencies dag = .ok grown ∧ HooksAdded dag grown

def Hookless (dag : Dag String) : Prop :=
  ∀ v hooks, hooksAt dag v = some hooks →
    ∀ hookType ∈ hookTypes, (hooks.get? hookType).getD [] = []

theorem hookIds_eq_nil (nodeId : String) (hooks : Dict String (List String)) :
    hookIds nodeId hooks = [] ↔ ∀ hookType ∈ hookTypes, (hooks.get? hookType).getD [] = [] := by
  simp only [hookIds, List.flatMap_eq_nil_iff, List.map_eq_nil_iff]

theorem dotted_hookIds {nodeId hookId : String} {hooks : Dict String (List String)}
    (listed : hookId ∈ hookIds nodeId hooks) : Dotted hookId := by
  simp only [hookIds, List.mem_flatMap, List.mem_map] at listed
  obtain ⟨hookType, _, hook, _, rfl⟩ := listed
  exact dotted_join (nodeId ++ "." ++ hookType) hook

/-! ### A node with a hook ends the iteration -/

section Growth

variable {dag : Dag String} {nodeId : String} {hooks : Dict String (List String)}

theorem addHook_length (nodeId : String) (state : Dag String × Option String) (hookId : String) :
    (if state.1.Node hookId then state.1.nodes.entries.length
        else state.1.nodes.entries.length + 1) ≤
      (addHook nodeId state hookId).1.nodes.entries.length := by
  have added := DiGraph.length_addNode NodeData.merge state.1 hookId
    { NodeData.blank with type := some "hook", parentNode := some nodeId }
  rw [← added]
  unfold addHook
  cases state.2 with
  | none => exact DiGraph.length_addEdge_le _ _ _ nodeId hookId
  | some prevHook =>
    exact (DiGraph.length_addEdge_le _ _ _ nodeId hookId).trans
      (DiGraph.length_addEdge_le _ _ _ prevHook hookId)

theorem addHooks_length (nodeId : String) (ids : List String) (state : Dag String × Option String) :
    state.1.nodes.entries.length ≤ (ids.foldl (addHook nodeId) state).1.nodes.entries.length := by
  induction ids generalizing state with
  | nil => exact Nat.le_refl _
  | cons hookId ids ih =>
    have first := addHook_length nodeId state hookId
    have rest := ih (addHook nodeId state hookId)
    rw [List.foldl_cons]
    split at first <;> omega

theorem processNodeHooks_idle (found : hooksAt dag nodeId = some hooks)
    (nothing : hookIds nodeId hooks = []) : processNodeHooks dag nodeId = .ok dag := by
  unfold hooksAt at found
  simp only [processNodeHooks, found, nothing, List.foldl_nil]

theorem processNodeHooks_grows (plain : ∀ v, dag.Node v → ¬ Dotted v)
    (found : hooksAt dag nodeId = some hooks) (listed : hookIds nodeId hooks ≠ []) :
    ∃ grown, processNodeHooks dag nodeId = .ok grown ∧
      dag.nodes.entries.length < grown.nodes.entries.length := by
  unfold hooksAt at found
  refine ⟨((hookIds nodeId hooks).foldl (addHook nodeId) (dag, none)).1, ?_, ?_⟩
  · simp only [processNodeHooks, found]
  · obtain ⟨hookId, ids, first⟩ := List.exists_cons_of_ne_nil listed
    have dotted : Dotted hookId := dotted_hookIds (first ▸ List.mem_cons_self)
    have fresh : ¬ dag.Node hookId := fun node => plain hookId node dotted
    have added := addHook_length nodeId (dag, none) hookId
    have rest := addHooks_length nodeId ids (addHook nodeId (dag, none) hookId)
    simp only [fresh, if_false] at added
    rw [first, List.foldl_cons]
    omega

theorem processHooksFrom_idle {ids : List String}
    (idle : ∀ v ∈ ids, ∃ hooks, hooksAt dag v = some hooks ∧ hookIds v hooks = []) :
    processHooksFrom dag.nodes.entries.length ids dag = .ok dag := by
  induction ids with
  | nil => simp [processHooksFrom]
  | cons v ids ih =>
    obtain ⟨hooks, found, nothing⟩ := idle v List.mem_cons_self
    have rest := ih fun w member => idle w (List.mem_cons_of_mem _ member)
    simp only [processHooksFrom, ne_eq, not_true_eq_false, if_false,
      processNodeHooks_idle found nothing, bind_ok, rest]

theorem processHooksFrom_changed {size : Nat} (changed : dag.nodes.entries.length ≠ size)
    (ids : List String) : processHooksFrom size ids dag =
      .error (.builtin ⟨.runtimeError, "dictionary changed size during iteration"⟩) := by
  unfold processHooksFrom
  rw [if_pos changed]

theorem processHooksFrom_raises (plain : ∀ v, dag.Node v → ¬ Dotted v) {ids : List String}
    (mapped : ∀ v ∈ ids, ∃ hooks, hooksAt dag v = some hooks)
    (listed : ∃ v ∈ ids, ∃ hooks, hooksAt dag v = some hooks ∧ hookIds v hooks ≠ []) :
    processHooksFrom dag.nodes.entries.length ids dag =
      .error (.builtin ⟨.runtimeError, "dictionary changed size during iteration"⟩) := by
  induction ids with
  | nil =>
    obtain ⟨v, member, _⟩ := listed
    cases member
  | cons v ids ih =>
    obtain ⟨hooks, found⟩ := mapped v List.mem_cons_self
    unfold processHooksFrom
    by_cases nothing : hookIds v hooks = []
    · have later : ∃ w ∈ ids, ∃ hooks, hooksAt dag w = some hooks ∧ hookIds w hooks ≠ [] := by
        obtain ⟨w, member, hooks', found', some_⟩ := listed
        rcases List.mem_cons.mp member with rfl | member
        · rw [found] at found'
          cases found'
          exact absurd nothing some_
        · exact ⟨w, member, hooks', found', some_⟩
      have rest := ih (fun w member => mapped w (List.mem_cons_of_mem _ member)) later
      simp [processNodeHooks_idle found nothing, rest]
    · obtain ⟨grown, added, larger⟩ := processNodeHooks_grows plain found nothing
      simp [added, processHooksFrom_changed (Nat.ne_of_gt larger)]

end Growth

theorem node_of_hooksAt {dag : Dag String} {v : String} {hooks : Dict String (List String)}
    (found : hooksAt dag v = some hooks) : dag.Node v := by
  obtain ⟨data, stored, _⟩ := Option.bind_eq_some_iff.mp found
  exact (Dict.mem_keys_iff _ _).mpr ⟨data, stored⟩

theorem processHookDependencies_hookless {dag : Dag String} (hookable : Hookable dag)
    (hookless : Hookless dag) : processHookDependencies dag = .ok dag := by
  apply processHooksFrom_idle
  intro v node
  obtain ⟨hooks, found⟩ := hookable.hooks v node
  exact ⟨hooks, found, (hookIds_eq_nil v hooks).mpr (hookless v hooks found)⟩

theorem processHookDependencies_raises {dag : Dag String} (hookable : Hookable dag)
    (hooked : ¬ Hookless dag) : processHookDependencies dag =
      .error (.builtin ⟨.runtimeError, "dictionary changed size during iteration"⟩) := by
  apply processHooksFrom_raises hookable.plain hookable.hooks
  simp only [Hookless, not_forall] at hooked
  obtain ⟨v, hooks, found, hookType, kind, listed⟩ := hooked
  refine ⟨v, node_of_hooksAt found, hooks, found, fun nothing => listed ?_⟩
  exact (hookIds_eq_nil v hooks).mp nothing hookType kind

/-- The hooks of a graph are added exactly where there are none to add. -/
theorem addsHooks_iff {dag : Dag String} (hookable : Hookable dag) :
    AddsHooks dag ↔ Hookless dag := by
  constructor
  · rintro ⟨grown, completed, _⟩
    by_contra hooked
    rw [processHookDependencies_raises hookable hooked] at completed
    cases completed
  · intro hookless
    refine ⟨dag, processHookDependencies_hookless hookable hookless, hookable.acyclic,
      fun _ node => node, fun _ _ edge => edge, fun v hooks found => ?_⟩
    rw [(hookIds_eq_nil v hooks).mpr (hookless v hooks found)]
    simp

section Instance

def oneTask (hooks : Dict String (List String)) : Dag String :=
  Dag.add DiGraph.empty "extract" { NodeData.blank with hooks := some hooks }

theorem node_oneTask {hooks : Dict String (List String)} {v : String} (node : (oneTask hooks).Node v) :
    v = "extract" := by
  rcases (DiGraph.node_addNode NodeData.merge _ _ v _).mp node with same | old
  · exact same
  · exact (List.not_mem_nil old).elim

theorem oneTask_hookable (hooks : Dict String (List String)) : Hookable (oneTask hooks) where
  acyclic := by
    apply Acyclic.of_rank fun _ => 0
    intro a b edge
    exact (List.not_mem_nil edge).elim
  plain := by
    intro v node
    rw [node_oneTask node]
    decide
  hooks := by
    intro v node
    rw [node_oneTask node]
    exact ⟨hooks, rfl⟩

theorem unhooked_added : AddsHooks (oneTask (Dict.empty.set "pre_execute" [])) := by
  apply (addsHooks_iff (oneTask_hookable _)).mpr
  intro v hooks found
  cases node_oneTask (node_of_hooksAt found)
  cases found
  decide

theorem hook_raises :
    Hookable (oneTask (Dict.empty.set "pre_execute" ["check"])) ∧
      ¬ AddsHooks (oneTask (Dict.empty.set "pre_execute" ["check"])) := by
  have hookable := oneTask_hookable (Dict.empty.set "pre_execute" ["check"])
  have hooked : ¬ Hookless (oneTask (Dict.empty.set "pre_execute" ["check"])) := by
    intro hookless
    have nothing := hookless "extract" _ rfl "pre_execute" (by decide)
    cases nothing
  refine ⟨hookable, ?_⟩
  rintro ⟨grown, completed, _⟩
  rw [processHookDependencies_raises hookable hooked] at completed
  cases completed

end Instance

end KuvaAI.Workflow
