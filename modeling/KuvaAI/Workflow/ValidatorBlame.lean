import KuvaAI.Lib.Runs
import KuvaAI.Workflow.CycleValidator

/-! Whom a validator blames. Its import graph grows over its lifetime, and a cycle
anywhere in it is held against the module that is validated. -/
namespace KuvaAI.Validator
open Python Relation

section Blame

variable (env : Surroundings)

def ImportEdge (m : Module) (a b : String) : Prop :=
  a = m.name ∧ ∃ nodes, m.imports = .ok nodes ∧ b ∈ moduleImports nodes

def UnionEdge (modules : List Module) (a b : String) : Prop := ∃ m ∈ modules, ImportEdge m a b

/-- No import cycle is reachable from the module in the union of the import graphs. -/
def Blameless (modules : List Module) (m : Module) : Prop :=
  ∀ a, ReflTransGen (UnionEdge modules) m.name a → ¬ TransGen (UnionEdge modules) a a

def afterModule (v : CycleValidator) (m : Module) : CycleValidator := (validate env (.module m) v).2

def Readable (m : Module) : Prop := ∃ nodes, m.imports = .ok nodes

theorem edge_foldl (name : String) (paths : List String) (g : Graph) (a b : String) :
    (paths.foldl (fun g path => Graph.addEdge g name path) g).Edge a b ↔
      a = name ∧ b ∈ paths ∨ g.Edge a b := by
  induction paths generalizing g with
  | nil => simp
  | cons path paths ih =>
    rw [List.foldl_cons, ih, Graph.edge_addEdge, List.mem_cons]
    tauto

theorem buildModuleGraph_ok {m : Module} {g g' : Graph} (built : buildModuleGraph m g = .ok g') :
    Readable m ∧ ∀ a b, g'.Edge a b ↔ ImportEdge m a b ∨ g.Edge a b := by
  unfold buildModuleGraph at built
  cases read : m.imports with
  | error e => simp [read] at built
  | ok nodes =>
    simp only [read, Except.ok.injEq] at built
    subst built
    refine ⟨⟨nodes, read⟩, fun a b => ?_⟩
    rw [edge_foldl]
    simp [ImportEdge, read]

theorem buildModuleGraph_readable {m : Module} (g : Graph) (readable : Readable m) :
    ∃ g', buildModuleGraph m g = .ok g' := by
  obtain ⟨nodes, read⟩ := readable
  refine ⟨(moduleImports nodes).foldl (fun g path => Graph.addEdge g m.name path) g, ?_⟩
  rw [buildModuleGraph, read]

structure Extends (v w : CycleValidator) (m : Module) : Prop where
  edges : ∀ a b, w.moduleGraph.Edge a b → v.moduleGraph.Edge a b ∨ ImportEdge m a b
  cache : ∀ name result, w.cache.get? name = some result →
    v.cache.get? name = some result ∨ result = true

theorem afterModule_extends (v : CycleValidator) (m : Module) :
    Extends v (afterModule env v m) m := by
  rw [afterModule, validate]
  rcases validateModule_cases env m v with ⟨_, _, ran⟩ | ⟨_, _, _, ran⟩ | ⟨g, _, built, verdict⟩
  · rw [ran]
    exact ⟨fun _ _ edge => .inl edge, fun _ _ hit => .inl hit⟩
  · rw [ran]
    exact ⟨fun _ _ edge => .inl edge, fun _ _ hit => .inl hit⟩
  · have edges : ∀ a b, g.Edge a b → v.moduleGraph.Edge a b ∨ ImportEdge m a b :=
      fun a b edge => (((buildModuleGraph_ok built).2 a b).mp edge).symm
    rcases verdict with ⟨_, ran⟩ | ⟨_, _, ran⟩
    · rw [ran]
      refine ⟨edges, fun name result found => ?_⟩
      rw [Dict.get?_set] at found
      split at found
      · exact .inr (Option.some.inj found).symm
      · exact .inl found
    · rw [ran]
      exact ⟨edges, fun _ _ found => .inl found⟩

theorem run_modules (modules : List Module) :
    (∀ a b, (Runs.run (afterModule env) CycleValidator.init modules).moduleGraph.Edge a b →
      UnionEdge modules a b) ∧
    ∀ name result, (Runs.run (afterModule env) CycleValidator.init modules).cache.get? name =
      some result → result = true := by
  induction modules using List.reverseRecOn with
  | nil => exact ⟨fun a b edge => (List.not_mem_nil edge).elim, fun _ _ hit => nomatch hit⟩
  | append_singleton modules m ih =>
    rw [Runs.run_append, Runs.run_cons, Runs.run_nil]
    have grown := afterModule_extends env (Runs.run (afterModule env) .init modules) m
    constructor
    · intro a b edge
      rcases grown.edges a b edge with old | new
      · obtain ⟨m', member, import_⟩ := ih.1 a b old
        exact ⟨m', List.mem_append_left _ member, import_⟩
      · exact ⟨m, by simp, new⟩
    · intro name result hit
      rcases grown.cache name result hit with old | true_
      · exact ih.2 name result old
      · exact true_

/-- A module adds a cycle to an acyclic graph only through itself. -/
theorem acyclic_of_blameless {modules : List Module} {m : Module} {g g' : Graph}
    (member : m ∈ modules) (sub : ∀ a b, g.Edge a b → UnionEdge modules a b)
    (edges : ∀ a b, g'.Edge a b ↔ ImportEdge m a b ∨ g.Edge a b) (blameless : Blameless modules m) :
    Acyclic g'.Edge ↔ Acyclic g.Edge := by
  have union : ∀ a b, g'.Edge a b → UnionEdge modules a b := by
    intro a b edge
    rcases (edges a b).mp edge with new | old
    · exact ⟨m, member, new⟩
    · exact sub a b old
  constructor
  · exact fun acyclic => acyclic.mono fun a b old => (edges a b).mpr (.inr old)
  · intro acyclic a cycle
    have leaves : ∀ a b, g'.Edge a b → g.Edge a b ∨ a = m.name := by
      intro a b edge
      rcases (edges a b).mp edge with new | old
      · exact .inr new.1
      · exact .inl old
    rcases Acyclic.through_source leaves cycle with old | ⟨front, back⟩
    · exact acyclic a old
    · exact blameless m.name .refl (TransGen.mono union _ _ (back.trans_left front))

/-- A module without a cycle of its own is accepted exactly if its name has been
accepted before, or its source can be read and no module before it closed a cycle. -/
theorem blameless_accepted_iff (earlier : List Module) (m : Module) :
    let v := Runs.run (afterModule env) CycleValidator.init earlier
    (Blameless (earlier ++ [m]) m → (validate env (.module m) v).1 = .ok true) ↔
      (¬ Blameless (earlier ++ [m]) m ∨ m.name ∈ v.cache.keys ∨
        (Readable m ∧ Acyclic v.moduleGraph.Edge)) := by
  intro v
  obtain ⟨sub, accepted⟩ := run_modules env earlier
  have union : ∀ a b, v.moduleGraph.Edge a b → UnionEdge (earlier ++ [m]) a b := by
    intro a b edge
    obtain ⟨m', member, import_⟩ := sub a b edge
    exact ⟨m', List.mem_append_left _ member, import_⟩
  by_cases blameless : Blameless (earlier ++ [m]) m
  · simp only [blameless, true_implies, not_true_eq_false, false_or, validate]
    rcases validateModule_cases env m v with
      ⟨result, hit, ran⟩ | ⟨e, fresh, unread, ran⟩ | ⟨g, fresh, built, verdict⟩
    · have cached : m.name ∈ v.cache.keys := (Dict.mem_keys_iff _ _).mpr ⟨result, hit⟩
      rw [ran, accepted m.name result hit]
      exact iff_of_true rfl (.inl cached)
    · rw [ran, or_iff_right ((Dict.get?_eq_none_iff _ _).mp fresh)]
      refine iff_of_false (by simp) fun ⟨readable, _⟩ => ?_
      obtain ⟨g, built⟩ := buildModuleGraph_readable v.moduleGraph readable
      cases unread.symm.trans built
    · obtain ⟨readable, edges⟩ := buildModuleGraph_ok built
      have member : m ∈ earlier ++ [m] := List.mem_append_right _ List.mem_cons_self
      rw [or_iff_right ((Dict.get?_eq_none_iff _ _).mp fresh), and_iff_right readable,
        ← acyclic_of_blameless member union edges blameless]
      rcases verdict with ⟨acyclic, ran⟩ | ⟨cyclic, path, ran⟩
      · rw [ran]
        exact iff_of_true rfl acyclic
      · rw [ran]
        exact iff_of_false (by simp) cyclic
  · simp only [blameless, false_implies, not_false_eq_true, true_or]

end Blame

section Instance

def plainSurroundings : Surroundings where
  lister := searchLister
  namespace_ := Dict.empty
  importModule name := .error ⟨.importError, "No module named '" ++ name ++ "'"⟩

def orders : Module := ⟨"orders", .ok [.names ["billing"]]⟩

def billing : Module := ⟨"billing", .ok [.source (some "orders.models")]⟩

def reports : Module := ⟨"reports", .ok [.names ["json"]]⟩

theorem reports_edges {a b : String} (edge : UnionEdge [orders, billing, reports] a b) :
    (a ≠ "reports" ∧ a ≠ "json") ∨ (a = "reports" ∧ b = "json") := by
  obtain ⟨m, member, rfl, nodes, read, imported⟩ := edge
  simp only [List.mem_cons, List.not_mem_nil, or_false] at member
  rcases member with rfl | rfl | rfl
  · exact .inl (by decide)
  · exact .inl (by decide)
  · cases read
    exact .inr ⟨rfl, List.mem_singleton.mp imported⟩

theorem reports_blameless : Blameless [orders, billing, reports] reports := by
  have ends : ∀ a, ReflTransGen (UnionEdge [orders, billing, reports]) "json" a → a = "json" := by
    intro a path
    rcases ReflTransGen.cases_head_iff.mp path with rfl | ⟨b, edge, _⟩
    · rfl
    · rcases reports_edges edge with ⟨_, other⟩ | ⟨same, _⟩
      · exact absurd rfl other
      · exact absurd same (by decide)
  intro a reaches cycle
  obtain ⟨b, edge, back⟩ := TransGen.head'_iff.mp cycle
  rcases reports_edges edge with ⟨other, other'⟩ | ⟨rfl, rfl⟩
  · rcases ReflTransGen.cases_head_iff.mp reaches with rfl | ⟨c, first, rest⟩
    · exact other rfl
    · rcases reports_edges first with ⟨off, _⟩ | ⟨_, rfl⟩
      · exact off rfl
      · exact other' (ends a rest)
  · exact absurd (ends _ back) (by decide)

/-- Two modules import each other; a third that imports the standard library alone is
rejected after them, with their cycle as the reason. -/
theorem innocent_blamed :
    Blameless ([orders, billing] ++ [reports]) reports ∧
      (validate plainSurroundings (.module reports)
        (Runs.run (afterModule plainSurroundings) CycleValidator.init [orders, billing])).1 =
        .error (.cycleValidationError ["billing", "orders"] "Module: reports") := by
  exact ⟨reports_blameless, by decide +kernel⟩

end Instance

end KuvaAI.Validator
