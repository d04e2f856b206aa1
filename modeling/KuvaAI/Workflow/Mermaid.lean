import KuvaAI.Lib.TextCuts
import KuvaAI.Workflow.Grouping

/-! The visualizer of the workflow parser: the text that it makes of a graph, when it makes one,
and what can be told from it. Nothing in the text is escaped. -/
namespace KuvaAI.Workflow
open Python TextCuts

/-- The edges in the order of networkx: node after node. -/
def edgesOf (dag : Dag String) : List (String × String) :=
  dag.nodes.keys.flatMap fun n => (dag.successors n).map fun successor => (n, successor)

def toMermaid (dag : Dag String) : Except Exn String := do
  let nodeLines ← dag.nodes.keys.mapM fun node => do
    let type ← nodeType dag node
    return "    " ++ node ++ "[" ++ type ++ "]"
  let edgeLines := (edgesOf dag).map fun edge => "    " ++ edge.1 ++ " --> " ++ edge.2
  return "\n".intercalate ("graph TD" :: (nodeLines ++ edgeLines))

section Lines

inductive Line where
  | node (id type : List Char)
  | edge (source target : List Char)

namespace Line

def text : Line → List Char
  | node id type => '\n' :: ("    ".toList ++ (id ++ '[' :: (type ++ [']'])))
  | edge source target => '\n' :: ("    ".toList ++ (source ++ " --".toList ++ '>' :: ' ' :: target))

def node? : Line → Option (String × String)
  | node id type => some (.ofList id, .ofList type)
  | edge _ _ => none

def edge? : Line → Option (String × String)
  | node _ _ => none
  | edge source target => some (.ofList source, .ofList target)

def Mark (c : Char) : Prop := c = '[' ∨ c = '>'

/-- Neither a break nor the first mark of a line is in an identifier, and a type is closed once. -/
def Plain : Line → Prop
  | node id type => (∀ c ∈ id, ¬ Mark c) ∧ ']' ∉ type
  | edge source target => (∀ c ∈ source, ¬ Mark c) ∧ '\n' ∉ target

theorem breaks_flatMap (lines : List Line) : Breaks '\n' (lines.flatMap text) := by
  cases lines with
  | nil => exact .inl rfl
  | cons line rest => cases line <;> exact .inr ⟨_, rfl⟩

theorem mark_free {source : List Char} (plain : ∀ c ∈ source, ¬ Mark c) :
    ∀ c ∈ source ++ " --".toList, ¬ Mark c := by
  intro c mem
  rcases List.mem_append.mp mem with front | dashes
  · exact plain c front
  · have neither : ∀ c ∈ " --".toList, c ≠ '[' ∧ c ≠ '>' := by simp
    exact not_or.mpr (neither c dashes)

theorem text_unique {line line' : Line} {rest rest' : List Char} (plain : line.Plain)
    (plain' : line'.Plain) (breaks : Breaks '\n' rest) (breaks' : Breaks '\n' rest')
    (same : line.text ++ rest = line'.text ++ rest') : line = line' ∧ rest = rest' := by
  have apart : ∀ id source tail tail' : List Char, (∀ c ∈ id, ¬ Mark c) → (∀ c ∈ source, ¬ Mark c) →
      id ++ '[' :: tail ≠ source ++ " --".toList ++ '>' :: tail' := fun _ _ _ _ plain plain' same =>
    absurd (first_mark plain (mark_free plain') (.inl rfl) (.inr rfl) same).2.1 (by decide)
  cases line with
  | node id type =>
    cases line' with
    | node id' type' =>
      have same : id ++ '[' :: (type ++ ']' :: rest) = id' ++ '[' :: (type' ++ ']' :: rest') := by
        simpa [text] using same
      obtain ⟨rfl, -, same⟩ := first_mark plain.1 plain'.1 (.inl rfl) (.inl rfl) same
      obtain ⟨rfl, -, rfl⟩ := first_mark (p := (· = ']')) (fun c mem closes => plain.2 (closes ▸ mem))
        (fun c mem closes => plain'.2 (closes ▸ mem)) rfl rfl same
      exact ⟨rfl, rfl⟩
    | edge source target =>
      refine (apart id source (type ++ ']' :: rest) (' ' :: target ++ rest') plain.1 plain'.1 ?_).elim
      simpa [text] using same
  | edge source target =>
    cases line' with
    | node id type =>
      refine (apart id source (type ++ ']' :: rest') (' ' :: target ++ rest) plain'.1 plain.1 ?_).elim
      simpa [text] using same.symm
    | edge source' target' =>
      have same : (source ++ " --".toList) ++ '>' :: (' ' :: (target ++ rest)) =
          (source' ++ " --".toList) ++ '>' :: (' ' :: (target' ++ rest')) := by
        simpa [text] using same
      obtain ⟨sources, -, same⟩ := first_mark (mark_free plain.1) (mark_free plain'.1) (.inr rfl)
        (.inr rfl) same
      obtain ⟨rfl, rfl⟩ := line_end plain.2 plain'.2 breaks breaks' (List.cons.inj same).2
      rw [List.append_cancel_right sources]
      exact ⟨rfl, rfl⟩

theorem lines_unique {lines lines' : List Line} (plain : ∀ line ∈ lines, line.Plain)
    (plain' : ∀ line ∈ lines', line.Plain) (same : lines.flatMap text = lines'.flatMap text) :
    lines = lines' := by
  induction lines generalizing lines' with
  | nil =>
    cases lines' with
    | nil => rfl
    | cons line' rest' => cases line' <;> exact nomatch same
  | cons line rest ih =>
    cases lines' with
    | nil => cases line <;> exact nomatch same
    | cons line' rest' =>
      obtain ⟨rfl, others⟩ := text_unique (plain _ List.mem_cons_self) (plain' _ List.mem_cons_self)
        (breaks_flatMap rest) (breaks_flatMap rest') same
      rw [ih (fun line mem => plain line (List.mem_cons_of_mem _ mem))
        (fun line mem => plain' line (List.mem_cons_of_mem _ mem)) others]

end Line

end Lines

section Rendering

variable {dag dag' : Dag String}

def linesOf (dag : Dag String) : List Line :=
  dag.nodes.keys.map (fun n => .node n.toList ((typeOf dag n).getD "").toList) ++
    (edgesOf dag).map fun edge => .edge edge.1.toList edge.2.toList

theorem nodeType_eq_ok_iff (n type : String) :
    nodeType dag n = .ok type ↔ typeOf dag n = some type := by
  rw [nodeType, typeOf]
  cases dag.nodes.get? n with
  | none => simp
  | some data => cases isType : data.type <;> simp [isType]

theorem toList_lines (first : String) (lines : List String) :
    ("\n".intercalate (first :: lines)).toList =
      first.toList ++ lines.flatMap fun line => '\n' :: line.toList := by
  rw [String.toList_intercalate]
  induction lines generalizing first with
  | nil => simp
  | cons line rest ih => simp_all [List.intercalate]

theorem toMermaid_ok {text : String} (rendered : toMermaid dag = .ok text) :
    (∀ v, dag.Node v → ∃ type, typeOf dag v = some type) ∧
      text.toList = "graph TD".toList ++ (linesOf dag).flatMap Line.text := by
  obtain ⟨nodeLines, mapped, ended⟩ := bind_eq_ok rendered
  obtain rfl := Except.ok.inj ended
  have shown : ∀ n line, (do
      let type ← nodeType dag n
      return "    " ++ n ++ "[" ++ type ++ "]" : Except Exn String) = .ok line →
      line = "    " ++ n ++ "[" ++ (typeOf dag n).getD "" ++ "]" := by
    intro n line ok
    obtain ⟨type, isType, ok⟩ := bind_eq_ok ok
    rw [(nodeType_eq_ok_iff n type).mp isType, Option.getD_some]
    exact (Except.ok.inj ok).symm
  refine ⟨fun v node => ?_, ?_⟩
  · obtain ⟨line, ok⟩ := exists_mapM_iff.mp ⟨nodeLines, mapped⟩ v node
    obtain ⟨type, isType, -⟩ := bind_eq_ok ok
    exact ⟨type, (nodeType_eq_ok_iff v type).mp isType⟩
  · rw [mapM_eq_map shown mapped, toList_lines, linesOf, List.flatMap_append, List.flatMap_append]
    simp [List.flatMap_map, Line.text]

theorem toMermaid_ok_iff :
    (∃ text, toMermaid dag = .ok text) ↔ ∀ v, dag.Node v → ∃ type, typeOf dag v = some type := by
  constructor
  · rintro ⟨text, rendered⟩
    exact (toMermaid_ok rendered).1
  · intro typed
    have mapped : ∃ nodeLines, dag.nodes.keys.mapM (fun node => do
        let type ← nodeType dag node
        return "    " ++ node ++ "[" ++ type ++ "]" : String → Except Exn String) =
        .ok nodeLines := by
      refine exists_mapM_iff.mpr fun v node => ?_
      obtain ⟨type, isType⟩ := typed v node
      exact ⟨_, by rw [(nodeType_eq_ok_iff v type).mpr isType]; rfl⟩
    obtain ⟨nodeLines, mapped⟩ := mapped
    exact ⟨_, by rw [toMermaid, mapped]; rfl⟩

/-- Identifiers without a break and a mark, and types without the bracket that closes one. -/
structure PlainGraph (dag : Dag String) : Prop where
  ids : ∀ v ∈ dag.nodes.keys, ∀ c ∈ v.toList, c ≠ '\n' ∧ c ≠ '[' ∧ c ≠ '>'
  types : ∀ v ∈ dag.nodes.keys, ']' ∉ ((typeOf dag v).getD "").toList

theorem edge_iff_mem (u v : String) : dag.Edge u v ↔ (u, v) ∈ edgesOf dag := by
  rw [edgesOf, List.mem_flatMap]
  constructor
  · intro edge
    refine ⟨u, (dag.closed u v edge).1, List.mem_map.mpr ⟨v, (dag.mem_successors u v).mpr edge, rfl⟩⟩
  · rintro ⟨w, -, mem⟩
    obtain ⟨x, isNext, same⟩ := List.mem_map.mp mem
    cases same
    exact (dag.mem_successors u v).mp isNext

theorem PlainGraph.lines (plain : PlainGraph dag) : ∀ line ∈ linesOf dag, line.Plain := by
  have unmarked : ∀ v, dag.Node v → ∀ c ∈ v.toList, ¬ Line.Mark c := fun v node c mem mark =>
    mark.elim (plain.ids v node c mem).2.1 (plain.ids v node c mem).2.2
  intro line mem
  rcases List.mem_append.mp mem with isNode | isEdge
  · obtain ⟨v, node, rfl⟩ := List.mem_map.mp isNode
    exact ⟨unmarked v node, plain.types v node⟩
  · obtain ⟨⟨u, v⟩, edge, rfl⟩ := List.mem_map.mp isEdge
    obtain ⟨source, target⟩ := dag.closed u v ((edge_iff_mem u v).mpr edge)
    exact ⟨unmarked u source, fun breaks => (plain.ids v target '\n' breaks).1 rfl⟩

theorem linesOf_unique (same : linesOf dag = linesOf dag') :
    dag.nodes.keys = dag'.nodes.keys ∧ edgesOf dag = edgesOf dag' ∧
      ∀ v, dag.Node v → (typeOf dag v).getD "" = (typeOf dag' v).getD "" := by
  have nodes : dag.nodes.keys.map (fun v => (v, (typeOf dag v).getD "")) =
      dag'.nodes.keys.map fun v => (v, (typeOf dag' v).getD "") := by
    simpa [linesOf, List.filterMap_map, Function.comp_def, Line.node?] using
      congrArg (List.filterMap Line.node?) same
  have edges : edgesOf dag = edgesOf dag' := by
    simpa [linesOf, List.filterMap_map, Function.comp_def, Line.edge?] using
      congrArg (List.filterMap Line.edge?) same
  have keys : dag.nodes.keys = dag'.nodes.keys := by
    simpa [Function.comp_def] using congrArg (List.map Prod.fst) nodes
  refine ⟨keys, edges, fun v node => ?_⟩
  rw [keys] at nodes
  exact (Prod.mk.inj (List.map_inj_left.mp nodes v (keys ▸ node))).2

/-- The text tells a graph whose identifiers and types are plain. -/
theorem mermaid_determines {text : String} (plain : PlainGraph dag) (plain' : PlainGraph dag')
    (rendered : toMermaid dag = .ok text) (rendered' : toMermaid dag' = .ok text) :
    dag.nodes.keys = dag'.nodes.keys ∧ (∀ v, dag.Node v → typeOf dag v = typeOf dag' v) ∧
      ∀ u v, dag.Edge u v ↔ dag'.Edge u v := by
  obtain ⟨typed, shown⟩ := toMermaid_ok rendered
  obtain ⟨typed', shown'⟩ := toMermaid_ok rendered'
  have same := Line.lines_unique plain.lines plain'.lines
    (List.append_cancel_left (shown.symm.trans shown'))
  obtain ⟨nodes, edges, types⟩ := linesOf_unique same
  refine ⟨nodes, fun v node => ?_, fun u v => by rw [edge_iff_mem, edge_iff_mem, edges]⟩
  obtain ⟨type, isType⟩ := typed v node
  obtain ⟨type', isType'⟩ := typed' v (nodes ▸ node : v ∈ dag'.nodes.keys)
  have known := types v node
  rw [isType, isType'] at known ⊢
  exact congrArg some known

def sparkFork : Dag String :=
  let nodes := [("split", "decision"), ("left", "task"), ("right", "task")].foldl
    (fun dag (v, type) => Dag.add dag v { typedNode type with executor := some "spark" })
    DiGraph.empty
  Dag.join (Dag.join nodes "split" "left") "split" "right"

theorem fork_plain : PlainGraph fork := by
  have ids : fork.nodes.keys = ["split", "left", "right"] := by decide +kernel
  exact ⟨by simp [ids], by decide +kernel⟩

theorem sparkFork_plain : PlainGraph sparkFork := by
  have ids : sparkFork.nodes.keys = ["split", "left", "right"] := by decide +kernel
  exact ⟨by simp [ids], by decide +kernel⟩

theorem forks_told : ∃ text, toMermaid fork = .ok text ∧ toMermaid sparkFork = .ok text ∧
    fork.nodes.keys = sparkFork.nodes.keys ∧
    (∀ v, fork.Node v → typeOf fork v = typeOf sparkFork v) ∧
    ∀ u v, fork.Edge u v ↔ sparkFork.Edge u v := by
  have shown : toMermaid fork = .ok ("\n".intercalate ["graph TD", "    split[decision]",
      "    left[task]", "    right[task]", "    split --> left", "    split --> right"]) := by
    decide +kernel
  have shown' : toMermaid sparkFork = toMermaid fork := by decide +kernel
  exact ⟨_, shown, shown'.trans shown,
    mermaid_determines fork_plain sparkFork_plain shown (shown'.trans shown)⟩

end Rendering

section Optimized

variable {dag : Dag String} {topologicalGenerations : Dag String → Except Exn (List (List String))}
  {parallelGroup : List String → String} {gens : List (List String)}

theorem data_of_grouped {result : Dag String} (grouped : Grouped parallelGroup dag gens result)
    {v : String} (node : result.Node v) :
    dag.Node v ∧ typeOf result v = typeOf dag v ∨
      typeOf result v = some "parallel" ∧ ∃ tasks, v = parallelGroup tasks := by
  by_cases isIn : ∃ task, InGroup parallelGroup dag gens task v
  · obtain ⟨task, gen, mem, isTask, several, rfl⟩ := isIn
    refine .inr ⟨?_, _, rfl⟩
    rw [typeOf, grouped.groups gen mem several]
    rfl
  · rcases grouped.others v node with old | isGroup
    · refine .inl ⟨old, ?_⟩
      rw [typeOf, grouped.kept v old fun h member => grouped.gone v h member node, ← typeOf]
    · exact absurd isGroup isIn

/-- What the optimizer makes of a plain graph that is rendered is one, too. -/
theorem optimized_rendered (rendered : ∃ text, toMermaid dag = .ok text) (plain : PlainGraph dag)
    (layered : topologicalGenerations dag = .ok gens) (layers : StandardLayers dag gens)
    (names : FreshGroups parallelGroup dag gens)
    (plainNames : ∀ tasks, ∀ c ∈ (parallelGroup tasks).toList, c ≠ '\n' ∧ c ≠ '[' ∧ c ≠ '>') :
    ∃ result text, optimize topologicalGenerations parallelGroup dag = .ok result ∧
      toMermaid result = .ok text ∧ PlainGraph result := by
  have typed := toMermaid_ok_iff.mp rendered
  have nodup : gens.flatten.Nodup := layers.partition.nodup_iff.mpr dag.nodes.nodup
  have nodes : ∀ n ∈ gens.flatten, dag.Node n := fun n mem => layers.partition.mem_iff.mp mem
  obtain ⟨result, ran, grouped⟩ := grouped_all names gens (by simp) (by simpa using nodup) nodes
    typed grouped_nil
  have shown : ∃ text, toMermaid result = .ok text := by
    refine toMermaid_ok_iff.mpr fun v node => ?_
    rcases data_of_grouped grouped node with ⟨old, same⟩ | ⟨isGroup, -⟩
    · exact same ▸ typed v old
    · exact ⟨_, isGroup⟩
  obtain ⟨text, shown⟩ := shown
  refine ⟨result, text, by rw [optimize, layered]; exact ran, shown, fun v node => ?_,
    fun v node => ?_⟩
  · rcases data_of_grouped grouped node with ⟨old, -⟩ | ⟨-, tasks, rfl⟩
    · exact plain.ids v old
    · exact plainNames tasks
  · rcases data_of_grouped grouped node with ⟨old, same⟩ | ⟨isGroup, -⟩
    · exact same ▸ plain.types v old
    · rw [isGroup]
      decide

theorem fork_optimized : ∃ result text,
    optimize (fun _ => .ok [["split"], ["left", "right"]]) (fun _ => "parallel_group_0") fork =
      .ok result ∧ toMermaid result = .ok text ∧ PlainGraph result := by
  refine optimized_rendered (toMermaid_ok_iff.mpr fun v node => ?_)
    fork_plain rfl
    ⟨by decide +kernel, by decide +kernel, by decide +kernel⟩ ⟨by decide +kernel, by decide +kernel⟩
    fun _ => by simp
  have typed : ∀ v ∈ fork.nodes.keys, (typeOf fork v).isSome := by decide +kernel
  exact Option.isSome_iff_exists.mp (typed v node)

end Optimized

end KuvaAI.Workflow
