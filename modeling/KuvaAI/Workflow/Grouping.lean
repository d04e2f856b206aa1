import KuvaAI.Workflow.Optimizer

/-! What the parallel task optimizer makes of a workflow: after each layer the graph
is the first one with the tasks of the layers so far collapsed into their groups. -/
namespace KuvaAI.Workflow
open Python

variable {V : Type} [DecidableEq V]

section Grouping

variable (parallelGroup : List V → V) (dag : Dag V)

def typeOf (v : V) : Option String := (dag.nodes.get? v).bind NodeData.type

def tasksOf (gen : List V) : List V :=
  gen.filter fun n => typeOf dag n = some "task" ∧ dag.successors n = []

def InGroup (gens : List (List V)) (v h : V) : Prop :=
  ∃ gen ∈ gens, v ∈ tasksOf dag gen ∧ 1 < (tasksOf dag gen).length ∧
    h = parallelGroup (tasksOf dag gen)

structure FreshGroups (gens : List (List V)) : Prop where
  fresh : ∀ gen ∈ gens, 1 < (tasksOf dag gen).length → ¬ dag.Node (parallelGroup (tasksOf dag gen))
  distinct : ∀ gen ∈ gens, ∀ other ∈ gens, 1 < (tasksOf dag gen).length →
    1 < (tasksOf dag other).length →
    parallelGroup (tasksOf dag gen) = parallelGroup (tasksOf dag other) →
    tasksOf dag gen = tasksOf dag other

/-- What the layers `done` have made of the graph. -/
structure Grouped (done : List (List V)) (g : Dag V) : Prop where
  kept : ∀ v, dag.Node v → (∀ h, ¬ InGroup parallelGroup dag done v h) →
    g.nodes.get? v = dag.nodes.get? v
  gone : ∀ v h, InGroup parallelGroup dag done v h → ¬ g.Node v
  groups : ∀ gen ∈ done, 1 < (tasksOf dag gen).length →
    g.nodes.get? (parallelGroup (tasksOf dag gen)) = some (groupData (tasksOf dag gen))
  others : ∀ x, g.Node x → dag.Node x ∨ ∃ v, InGroup parallelGroup dag done v x
  edges : ∀ u w, g.Edge u w ↔
    dag.Edge u w ∧ (∀ h, ¬ InGroup parallelGroup dag done w h) ∨
      ∃ v, dag.Edge u v ∧ InGroup parallelGroup dag done v w

variable {parallelGroup dag} {done : List (List V)} {g : Dag V}

theorem grouped_nil : Grouped parallelGroup dag [] dag := by
  have none : ∀ v h, ¬ InGroup parallelGroup dag [] v h := by
    rintro v h ⟨gen, mem, _⟩
    exact List.not_mem_nil mem
  refine ⟨fun _ _ _ => rfl, fun v h isIn => (none v h isIn).elim,
    fun gen mem => (List.not_mem_nil mem).elim, fun x node => .inl node, fun u w => ?_⟩
  simp [none]

theorem task_of_inGroup {v h : V} (isIn : InGroup parallelGroup dag done v h) :
    typeOf dag v = some "task" ∧ dag.successors v = [] := by
  obtain ⟨gen, _, mem, _⟩ := isIn
  simpa [tasksOf] using (List.mem_filter.mp mem).2

theorem not_inGroup_of_later {gen : List V} (nodup : (done ++ [gen]).flatten.Nodup) {v : V}
    (mem : v ∈ gen) (h : V) : ¬ InGroup parallelGroup dag done v h := by
  rintro ⟨old, isDone, isTask, _⟩
  rw [List.flatten_append, List.nodup_append] at nodup
  apply nodup.2.2 v (List.mem_flatten.mpr ⟨old, isDone, (List.mem_filter.mp isTask).1⟩) v _ rfl
  simpa using mem

theorem successors_nil_iff (g : Dag V) (v : V) : g.successors v = [] ↔ ∀ w, ¬ g.Edge v w := by
  rw [List.eq_nil_iff_forall_not_mem]
  simp only [g.mem_successors]

theorem successors_grouped (grouped : Grouped parallelGroup dag done g) (v : V) :
    g.successors v = [] ↔ dag.successors v = [] := by
  rw [successors_nil_iff, successors_nil_iff]
  constructor
  · intro sink w edge
    by_cases isIn : ∃ h, InGroup parallelGroup dag done w h
    · obtain ⟨h, isIn⟩ := isIn
      exact sink h ((grouped.edges v h).mpr (.inr ⟨w, edge, isIn⟩))
    · exact sink w ((grouped.edges v w).mpr (.inl ⟨edge, fun h isIn' => isIn ⟨h, isIn'⟩⟩))
  · intro sink w edge
    rcases (grouped.edges v w).mp edge with ⟨edge, _⟩ | ⟨x, edge, _⟩
    · exact sink w edge
    · exact sink x edge

theorem independentTasks_eq (gen : List V)
    (same : ∀ n ∈ gen, g.nodes.get? n = dag.nodes.get? n)
    (sinks : ∀ n, g.successors n = [] ↔ dag.successors n = [])
    (typed : ∀ n ∈ gen, ∃ t, typeOf dag n = some t) :
    independentTasks g gen = .ok (tasksOf dag gen) := by
  induction gen with
  | nil => rfl
  | cons n rest ih =>
    obtain ⟨t, isTyped⟩ := typed n List.mem_cons_self
    have read : nodeType g n = .ok t := by
      rw [nodeType, same n List.mem_cons_self]
      rw [typeOf] at isTyped
      cases found : dag.nodes.get? n with
      | none =>
        rw [found] at isTyped
        cases isTyped
      | some data =>
        rw [found] at isTyped
        have isType : data.type = some t := isTyped
        simp only [isType]
    rw [independentTasks, read, ih (fun m mem => same m (List.mem_cons_of_mem _ mem))
      (fun m mem => typed m (List.mem_cons_of_mem _ mem))]
    simp only [bind_ok, pure_eq_ok, sinks n, tasksOf, List.filter_cons, isTyped, Option.some.injEq]
    by_cases chosen : t = "task" ∧ dag.successors n = [] <;> simp [chosen]

theorem inGroup_concat {gen : List V} {v h : V} : InGroup parallelGroup dag (done ++ [gen]) v h ↔
    InGroup parallelGroup dag done v h ∨ v ∈ tasksOf dag gen ∧ 1 < (tasksOf dag gen).length ∧
      h = parallelGroup (tasksOf dag gen) := by
  simp only [InGroup, List.mem_append, List.mem_singleton, or_and_right, exists_or, exists_eq_left]

theorem node_of_inGroup {v h : V} (isIn : InGroup parallelGroup dag done v h) : dag.Node v := by
  have typed := (task_of_inGroup isIn).1
  rw [typeOf] at typed
  obtain ⟨data, found, _⟩ := Option.bind_eq_some_iff.mp typed
  exact (node_iff dag v).mpr ⟨data, found⟩

variable {gens : List (List V)} (names : FreshGroups parallelGroup dag gens)

include names

theorem group_not_node (sub : done ⊆ gens) {v h : V} (isIn : InGroup parallelGroup dag done v h) :
    ¬ dag.Node h := by
  obtain ⟨gen, mem, _, several, rfl⟩ := isIn
  exact names.fresh gen (sub mem) several

theorem next_group_new {gen : List V} (sub : done ++ [gen] ⊆ gens)
    (nodup : (done ++ [gen]).flatten.Nodup) (several : 1 < (tasksOf dag gen).length) (v : V) :
    ¬ InGroup parallelGroup dag done v (parallelGroup (tasksOf dag gen)) := by
  rintro ⟨old, isDone, _, severalOld, sameName⟩
  have sameTasks := names.distinct gen (sub (by simp)) old (sub (by simp [isDone])) several
    severalOld sameName
  obtain ⟨t, isTask⟩ := List.exists_mem_of_length_pos (Nat.zero_lt_of_lt several)
  have already : InGroup parallelGroup dag done t (parallelGroup (tasksOf dag old)) :=
    ⟨old, isDone, sameTasks ▸ isTask, severalOld, rfl⟩
  exact not_inGroup_of_later nodup (List.mem_filter.mp isTask).1 _ already

omit names in
theorem grouped_small {gen : List V} (few : ¬ 1 < (tasksOf dag gen).length)
    (grouped : Grouped parallelGroup dag done g) : Grouped parallelGroup dag (done ++ [gen]) g := by
  have same : ∀ v h, InGroup parallelGroup dag (done ++ [gen]) v h ↔
      InGroup parallelGroup dag done v h := by
    intro v h
    rw [inGroup_concat]
    simp [few]
  constructor
  · simpa only [same] using grouped.kept
  · simpa only [same] using grouped.gone
  · intro other mem several
    rcases List.mem_append.mp mem with old | new
    · exact grouped.groups other old several
    · exact absurd (List.mem_singleton.mp new ▸ several) few
  · simpa only [same] using grouped.others
  · simpa only [same] using grouped.edges

def withGroup (parallelGroup : List V → V) (dag g : Dag V) (gen : List V) : Dag V :=
  Dag.add g (parallelGroup (tasksOf dag gen)) (groupData (tasksOf dag gen))

theorem get?_withGroup {gen : List V} (sub : done ++ [gen] ⊆ gens)
    (nodup : (done ++ [gen]).flatten.Nodup) (several : 1 < (tasksOf dag gen).length)
    (grouped : Grouped parallelGroup dag done g) (x : V) :
    (withGroup parallelGroup dag g gen).nodes.get? x =
      if x = parallelGroup (tasksOf dag gen) then some (groupData (tasksOf dag gen))
      else g.nodes.get? x := by
  apply DiGraph.get?_addNode_fresh
  intro node
  rcases grouped.others _ node with old | ⟨v, isIn⟩
  · exact names.fresh gen (sub (by simp)) several old
  · exact next_group_new names sub nodup several v isIn

theorem edge_into_next {gen : List V} (sub : done ⊆ gens)
    (nodup : (done ++ [gen]).flatten.Nodup) (nodes : ∀ n ∈ gen, dag.Node n)
    (grouped : Grouped parallelGroup dag done g) {u v : V} (mem : v ∈ gen) :
    g.Edge u v ↔ dag.Edge u v := by
  rw [grouped.edges]
  constructor
  · rintro (⟨edge, _⟩ | ⟨x, _, isIn⟩)
    · exact edge
    · exact absurd (nodes v mem) (group_not_node names sub isIn)
  · exact fun edge => .inl ⟨edge, not_inGroup_of_later nodup mem⟩

section Moved

variable {gen : List V} {h : Dag V} (sub : done ++ [gen] ⊆ gens)
  (nodup : (done ++ [gen]).flatten.Nodup) (nodes : ∀ n ∈ gen, dag.Node n)
  (several : 1 < (tasksOf dag gen).length) (grouped : Grouped parallelGroup dag done g)
  (moved : Moved (parallelGroup (tasksOf dag gen)) (tasksOf dag gen)
    (withGroup parallelGroup dag g gen) h)

omit names in
theorem mem_of_tasksOf {v : V} (isTask : v ∈ tasksOf dag gen) : v ∈ gen :=
  (List.mem_filter.mp isTask).1

include names sub nodup several grouped moved

theorem get?_moved (x : V) :
    h.nodes.get? x = if x ∈ tasksOf dag gen then none
      else if x = parallelGroup (tasksOf dag gen) then some (groupData (tasksOf dag gen))
      else g.nodes.get? x := by
  rw [moved.nodes, get?_withGroup names sub nodup several grouped]

theorem get?_moved_old {x : V} (node : dag.Node x) (off : x ∉ tasksOf dag gen) :
    h.nodes.get? x = g.nodes.get? x := by
  have notGroup : x ≠ parallelGroup (tasksOf dag gen) := by
    rintro rfl
    exact names.fresh gen (sub (by simp)) several node
  rw [get?_moved names sub nodup several grouped moved, if_neg off, if_neg notGroup]

theorem gone_moved {v name : V} (isIn : InGroup parallelGroup dag (done ++ [gen]) v name) :
    ¬ h.Node v := by
  intro isNode
  obtain ⟨data, found⟩ := (node_iff h v).mp isNode
  by_cases isTask : v ∈ tasksOf dag gen
  · rw [moved.nodes, if_pos isTask] at found
    cases found
  · rcases inGroup_concat.mp isIn with before | ⟨isTask', _⟩
    · rw [get?_moved_old names sub nodup several grouped moved (node_of_inGroup before) isTask] at found
      exact grouped.gone v name before ((node_iff g v).mpr ⟨data, found⟩)
    · exact isTask isTask'

theorem others_moved {x : V} (node : h.Node x) :
    dag.Node x ∨ ∃ v, InGroup parallelGroup dag (done ++ [gen]) v x := by
  obtain ⟨data, found⟩ := (node_iff h x).mp node
  rw [get?_moved names sub nodup several grouped moved] at found
  split at found
  · cases found
  · split at found
    · rename_i isGroup
      obtain ⟨t, isTask⟩ := List.exists_mem_of_length_pos (Nat.zero_lt_of_lt several)
      exact .inr ⟨t, inGroup_concat.mpr (.inr ⟨isTask, several, isGroup⟩)⟩
    · rcases grouped.others x ((node_iff g x).mpr ⟨data, found⟩) with node | ⟨v, isIn⟩
      · exact .inl node
      · exact .inr ⟨v, inGroup_concat.mpr (.inl isIn)⟩

include nodes

theorem groups_moved {other : List V} (mem : other ∈ done ++ [gen])
    (severalOther : 1 < (tasksOf dag other).length) :
    h.nodes.get? (parallelGroup (tasksOf dag other)) = some (groupData (tasksOf dag other)) := by
  have off : parallelGroup (tasksOf dag other) ∉ tasksOf dag gen := fun isTask =>
    names.fresh other (sub mem) severalOther (nodes _ (mem_of_tasksOf isTask))
  rw [get?_moved names sub nodup several grouped moved, if_neg off]
  by_cases same : parallelGroup (tasksOf dag other) = parallelGroup (tasksOf dag gen)
  · rw [if_pos same,
      names.distinct other (sub mem) gen (sub (by simp)) severalOther several same]
  · rw [if_neg same]
    rcases List.mem_append.mp mem with before | new
    · exact grouped.groups other before severalOther
    · exact absurd (by rw [List.mem_singleton.mp new]) same

theorem edges_moved (u w : V) :
    h.Edge u w ↔
      dag.Edge u w ∧ (∀ name, ¬ InGroup parallelGroup dag (done ++ [gen]) w name) ∨
        ∃ v, dag.Edge u v ∧ InGroup parallelGroup dag (done ++ [gen]) v w := by
  have subDone : done ⊆ gens := fun old mem => sub (List.mem_append_left _ mem)
  have sameEdges : ∀ a b, (withGroup parallelGroup dag g gen).Edge a b ↔ g.Edge a b :=
    fun _ _ => Iff.rfl
  have intoNext : ∀ {v}, v ∈ tasksOf dag gen → (g.Edge u v ↔ dag.Edge u v) :=
    fun isTask => edge_into_next names subDone nodup nodes grouped (mem_of_tasksOf isTask)
  rw [moved.edges]
  simp only [sameEdges]
  constructor
  · rintro (⟨edge, off⟩ | ⟨rfl, v, isTask, edge⟩)
    · rcases (grouped.edges u w).mp edge with ⟨edge, free⟩ | ⟨v, edge, isIn⟩
      · refine .inl ⟨edge, fun name isIn => ?_⟩
        rcases inGroup_concat.mp isIn with before | ⟨isTask, _⟩
        · exact free name before
        · exact off isTask
      · exact .inr ⟨v, edge, inGroup_concat.mpr (.inl isIn)⟩
    · exact .inr ⟨v, (intoNext isTask).mp edge, inGroup_concat.mpr (.inr ⟨isTask, several, rfl⟩)⟩
  · rintro (⟨edge, free⟩ | ⟨v, edge, isIn⟩)
    · refine .inl ⟨(grouped.edges u w).mpr (.inl ⟨edge, fun name isIn => ?_⟩), fun isTask => ?_⟩
      · exact free name (inGroup_concat.mpr (.inl isIn))
      · exact free _ (inGroup_concat.mpr (.inr ⟨isTask, several, rfl⟩))
    · rcases inGroup_concat.mp isIn with before | ⟨isTask, _, rfl⟩
      · refine .inl ⟨(grouped.edges u w).mpr (.inr ⟨v, edge, before⟩), fun isTask => ?_⟩
        exact group_not_node names subDone before (nodes w (mem_of_tasksOf isTask))
      · exact .inr ⟨rfl, v, isTask, (intoNext isTask).mpr edge⟩

theorem grouped_of_moved : Grouped parallelGroup dag (done ++ [gen]) h where
  kept := fun v node free => by
    have off : v ∉ tasksOf dag gen :=
      fun isTask => free _ (inGroup_concat.mpr (.inr ⟨isTask, several, rfl⟩))
    rw [get?_moved_old names sub nodup several grouped moved node off]
    exact grouped.kept v node fun h isIn => free h (inGroup_concat.mpr (.inl isIn))
  gone := fun _ _ isIn => gone_moved names sub nodup several grouped moved isIn
  groups := fun _ mem severalOther =>
    groups_moved names sub nodup nodes several grouped moved mem severalOther
  others := fun _ node => others_moved names sub nodup several grouped moved node
  edges := edges_moved names sub nodup nodes several grouped moved

end Moved

theorem grouped_next {gen : List V} (sub : done ++ [gen] ⊆ gens)
    (nodup : (done ++ [gen]).flatten.Nodup) (nodes : ∀ n ∈ gen, dag.Node n)
    (typed : ∀ n ∈ gen, ∃ t, typeOf dag n = some t) (grouped : Grouped parallelGroup dag done g) :
    ∃ h, optimizeGeneration parallelGroup g gen = .ok h ∧
      Grouped parallelGroup dag (done ++ [gen]) h := by
  have untouched : ∀ n ∈ gen, g.nodes.get? n = dag.nodes.get? n :=
    fun n mem => grouped.kept n (nodes n mem) (not_inGroup_of_later nodup mem)
  have sinks := successors_grouped grouped
  have chosen := independentTasks_eq gen untouched sinks typed
  rw [optimizeGeneration, chosen, bind_ok]
  by_cases several : 1 < (tasksOf dag gen).length
  · rw [if_pos several]
    have get := get?_withGroup names sub nodup several grouped
    have isGroup : (withGroup parallelGroup dag g gen).Node (parallelGroup (tasksOf dag gen)) :=
      (node_iff _ _).mpr ⟨_, (get _).trans (if_pos rfl)⟩
    have movable : ∀ task ∈ tasksOf dag gen, Movable (parallelGroup (tasksOf dag gen))
        (withGroup parallelGroup dag g gen) task := by
      intro task isTask
      obtain ⟨inGen, isChosen⟩ := List.mem_filter.mp isTask
      have isSink : dag.successors task = [] := (of_decide_eq_true isChosen).2
      have other : task ≠ parallelGroup (tasksOf dag gen) :=
        fun same => names.fresh gen (sub (by simp)) several (same ▸ nodes task inGen)
      refine ⟨?_, (successors_nil_iff g task).mp ((sinks task).mpr isSink), other⟩
      rw [node_iff, get, if_neg other, untouched task inGen, ← node_iff]
      exact nodes task inGen
    have nodupTasks : (tasksOf dag gen).Nodup := by
      rw [List.flatten_append, List.nodup_append] at nodup
      exact (by simpa using nodup.2.1 : gen.Nodup).filter _
    obtain ⟨h, ran, moved⟩ := regroup_all isGroup List.not_mem_nil
      ⟨fun _ => rfl, fun _ _ => by simp⟩ (tasksOf dag gen) movable nodupTasks
    exact ⟨h, ran, grouped_of_moved names sub nodup nodes several grouped moved⟩
  · rw [if_neg several]
    exact ⟨g, rfl, grouped_small several grouped⟩

theorem grouped_all (rest : List (List V)) (sub : done ++ rest ⊆ gens)
    (nodup : (done ++ rest).flatten.Nodup) (nodes : ∀ n ∈ rest.flatten, dag.Node n)
    (typed : ∀ v, dag.Node v → ∃ t, typeOf dag v = some t)
    (grouped : Grouped parallelGroup dag done g) :
    ∃ h, rest.foldlM (optimizeGeneration parallelGroup) g = .ok h ∧
      Grouped parallelGroup dag (done ++ rest) h := by
  induction rest generalizing done g with
  | nil => exact ⟨g, rfl, (List.append_nil done).symm ▸ grouped⟩
  | cons gen rest ih =>
    rw [List.append_cons] at sub nodup ⊢
    have nodesGen : ∀ n ∈ gen, dag.Node n := fun n mem => nodes n (by simp [mem])
    have subGen : done ++ [gen] ⊆ gens := fun x mem => sub (List.mem_append_left _ mem)
    have nodupGen : (done ++ [gen]).flatten.Nodup := by
      rw [List.flatten_append, List.nodup_append] at nodup
      exact nodup.1
    obtain ⟨mid, ran, groupedMid⟩ := grouped_next names subGen nodupGen nodesGen
      (fun n mem => typed n (nodesGen n mem)) grouped
    obtain ⟨h, rested, groupedAll⟩ := ih sub nodup
      (fun n mem => nodes n (by rw [List.flatten_cons]; exact List.mem_append_right _ mem)) groupedMid
    exact ⟨h, by rw [List.foldlM_cons, ran]; exact rested, groupedAll⟩

end Grouping

section Preservation

def layerIndex (layers : List (List V)) (v : V) : Nat := layers.findIdx fun layer => v ∈ layer

/-- Topological layers: every node is in one of them, edges lead to later layers,
and a node after the first layer has a predecessor in the layer before its own. -/
structure StandardLayers (dag : Dag V) (layers : List (List V)) : Prop where
  partition : layers.flatten.Perm dag.nodes.keys
  forward : ∀ e ∈ dag.edges.keys, layerIndex layers e.1 < layerIndex layers e.2
  supported : ∀ v ∈ dag.nodes.keys, layerIndex layers v ≠ 0 →
    ∃ u ∈ dag.predecessors v, layerIndex layers u + 1 = layerIndex layers v

def Lists (dag result : Dag V) (h v : V) : Prop :=
  ¬ dag.Node h ∧ ∃ data tasks, result.nodes.get? h = some data ∧ data.tasks = some tasks ∧ v ∈ tasks

/-- The result is the workflow with some of its final tasks put into groups. -/
structure Preserves (dag result : Dag V) : Prop where
  placed : ∀ v, dag.Node v → result.Node v ∧ (∀ h, ¬ Lists dag result h v) ∨
    ¬ result.Node v ∧ ∃ h, Lists dag result h v ∧ ∀ h', Lists dag result h' v → h' = h
  kept : ∀ v, dag.Node v → result.Node v → result.nodes.get? v = dag.nodes.get? v
  tasks : ∀ h v, Lists dag result h v →
    dag.Node v ∧ typeOf dag v = some "task" ∧ ∀ w, ¬ dag.Edge v w
  edges : ∀ u w, result.Edge u w ↔
    dag.Edge u w ∧ result.Node w ∨ ∃ v, dag.Edge u v ∧ Lists dag result w v
  acyclic : Acyclic result.Edge

variable {parallelGroup : List V → V} {dag : Dag V} {gens : List (List V)} {result : Dag V}

theorem lists_iff (names : FreshGroups parallelGroup dag gens)
    (grouped : Grouped parallelGroup dag gens result) (h v : V) :
    Lists dag result h v ↔ InGroup parallelGroup dag gens v h := by
  constructor
  · rintro ⟨new, data, tasks, found, listed, mem⟩
    rcases grouped.others h ((node_iff result h).mpr ⟨data, found⟩) with old | ⟨t, isIn⟩
    · exact absurd old new
    · obtain ⟨gen, isGen, _, several, rfl⟩ := isIn
      rw [grouped.groups gen isGen several] at found
      cases found
      cases listed
      exact ⟨gen, isGen, mem, several, rfl⟩
  · intro isIn
    refine ⟨group_not_node names (List.Subset.refl gens) isIn, ?_⟩
    obtain ⟨gen, isGen, mem, several, rfl⟩ := isIn
    exact ⟨_, _, grouped.groups gen isGen several, rfl, mem⟩

theorem inGroup_unique (nodup : gens.flatten.Nodup) {v h h' : V}
    (isIn : InGroup parallelGroup dag gens v h) (isIn' : InGroup parallelGroup dag gens v h') :
    h' = h := by
  obtain ⟨gen, isGen, mem, _, rfl⟩ := isIn
  obtain ⟨other, isOther, mem', _, rfl⟩ := isIn'
  have same : gen = other := by
    by_contra apart
    have symmetric : Std.Symm (@List.Disjoint V) := ⟨fun _ _ apart => apart.symm⟩
    have disjoint := (List.nodup_flatten.mp nodup).2.forall isGen isOther apart
    exact disjoint (List.mem_filter.mp mem).1 (List.mem_filter.mp mem').1
  rw [same]

theorem node_or_inGroup (grouped : Grouped parallelGroup dag gens result) {v : V}
    (node : dag.Node v) (gone : ¬ result.Node v) : ∃ h, InGroup parallelGroup dag gens v h := by
  by_contra free
  apply gone
  rw [node_iff, grouped.kept v node (fun h isIn => free ⟨h, isIn⟩), ← node_iff]
  exact node

theorem edges_of_grouped (names : FreshGroups parallelGroup dag gens)
    (grouped : Grouped parallelGroup dag gens result) (u w : V) :
    result.Edge u w ↔
      dag.Edge u w ∧ result.Node w ∨ ∃ v, dag.Edge u v ∧ Lists dag result w v := by
  simp only [lists_iff names grouped]
  rw [grouped.edges]
  constructor
  · rintro (⟨edge, free⟩ | moved)
    · refine .inl ⟨edge, ?_⟩
      by_contra gone
      obtain ⟨h, isIn⟩ := node_or_inGroup grouped (dag.closed u w edge).2 gone
      exact free h isIn
    · exact .inr moved
  · rintro (⟨edge, node⟩ | moved)
    · exact .inl ⟨edge, fun h isIn => grouped.gone w h isIn node⟩
    · exact .inr moved

theorem acyclic_of_grouped (acyclic : Acyclic dag.Edge) (names : FreshGroups parallelGroup dag gens)
    (grouped : Grouped parallelGroup dag gens result) : Acyclic result.Edge := by
  have edges := edges_of_grouped names grouped
  apply acyclic.of_continued
  intro a b c edge next
  have node : dag.Node b := by
    rcases (edges b c).mp next with ⟨edge, _⟩ | ⟨v, edge, _⟩
    · exact (dag.closed b c edge).1
    · exact (dag.closed b v edge).1
  rcases (edges a b).mp edge with ⟨edge, _⟩ | ⟨v, _, new, _⟩
  · exact edge
  · exact absurd node new

theorem preserves_of_grouped (acyclic : Acyclic dag.Edge) (nodup : gens.flatten.Nodup)
    (names : FreshGroups parallelGroup dag gens)
    (grouped : Grouped parallelGroup dag gens result) : Preserves dag result where
  placed := fun v node => by
    simp only [lists_iff names grouped]
    by_cases stays : result.Node v
    · exact .inl ⟨stays, fun h isIn => grouped.gone v h isIn stays⟩
    · obtain ⟨h, isIn⟩ := node_or_inGroup grouped node stays
      exact .inr ⟨stays, h, isIn, fun h' isIn' => inGroup_unique nodup isIn isIn'⟩
  kept := fun v node stays => grouped.kept v node fun h isIn => grouped.gone v h isIn stays
  tasks := fun h v isListed => by
    have isIn := (lists_iff names grouped h v).mp isListed
    obtain ⟨type, sink⟩ := task_of_inGroup isIn
    exact ⟨node_of_inGroup isIn, type, (successors_nil_iff dag v).mp sink⟩
  edges := edges_of_grouped names grouped
  acyclic := acyclic_of_grouped acyclic names grouped

/-- On an acyclic graph of typed nodes the optimizer returns, and what it returns
preserves the workflow. -/
theorem optimize_preserves (topologicalGenerations : Dag V → Except Exn (List (List V)))
    (acyclic : Acyclic dag.Edge) (typed : ∀ v, dag.Node v → ∃ t, typeOf dag v = some t)
    (layered : topologicalGenerations dag = .ok gens) (layers : StandardLayers dag gens)
    (names : FreshGroups parallelGroup dag gens) :
    ∃ result, optimize topologicalGenerations parallelGroup dag = .ok result ∧
      Preserves dag result := by
  have nodup : gens.flatten.Nodup := layers.partition.nodup_iff.mpr dag.nodes.nodup
  have nodes : ∀ n ∈ gens.flatten, dag.Node n := fun n mem => layers.partition.mem_iff.mp mem
  obtain ⟨result, ran, grouped⟩ := grouped_all names gens (by simp) (by simpa using nodup) nodes
    typed grouped_nil
  refine ⟨result, ?_, preserves_of_grouped acyclic nodup names grouped⟩
  rw [optimize, layered]
  exact ran

def typedNode (type : String) : NodeData String := { NodeData.blank with type := some type }

def fork : Dag String :=
  let nodes := [("split", "decision"), ("left", "task"), ("right", "task")].foldl
    (fun dag (v, type) => Dag.add dag v (typedNode type)) DiGraph.empty
  Dag.join (Dag.join nodes "split" "left") "split" "right"

theorem fork_preserved : ∃ result,
    optimize (fun _ => .ok [["split"], ["left", "right"]]) (fun _ => "parallel_group_0") fork =
      .ok result ∧ Preserves fork result := by
  have typed : ∀ v ∈ fork.nodes.keys, (typeOf fork v).isSome := by decide +kernel
  refine optimize_preserves (fun _ => .ok [["split"], ["left", "right"]]) ?_
    (fun v node => Option.isSome_iff_exists.mp (typed v node)) rfl ?_ ?_
  · exact fork.isDirectedAcyclic_iff.mp (by decide +kernel)
  · exact ⟨by decide +kernel, by decide +kernel, by decide +kernel⟩
  · exact ⟨by decide +kernel, by decide +kernel⟩

end Preservation

end KuvaAI.Workflow
