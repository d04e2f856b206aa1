import KuvaAI.Lib.Runs
import KuvaAI.Workflow.ValidatorBlame
import Mathlib.Data.Finset.Card

/-! The caching validator against the plain one. It files every verdict under one
string, so a target is answered for by whichever target had its string before. -/
namespace KuvaAI.Validator
open Python

/-! ### The call graph is complete -/

section CallGraph

variable (namespace_ : Dict String Callable)

def identifiers : Finset String :=
  (namespace_.values.filterMap fun object => object.identifier.toOption).toFinset

def unvisited (g : Graph) : Finset String := identifiers namespace_ \ g.nodes.keys.toFinset

def Returns (fuel : Nat) (visit : Callable → Graph → Option (Except Exn Graph)) : Prop :=
  ∀ object ∈ namespace_.values, ∀ g, (unvisited namespace_ g).card < fuel →
    ∃ r, visit object g = some r ∧ ∀ g', r = .ok g' → ∀ v, g.Node v → g'.Node v

variable {namespace_}

theorem unvisited_mono {g g' : Graph} (more : ∀ v, g.Node v → g'.Node v) :
    (unvisited namespace_ g').card ≤ (unvisited namespace_ g).card := by
  apply Finset.card_le_card
  apply Finset.sdiff_subset_sdiff (Finset.Subset.refl _)
  intro v mem
  exact List.mem_toFinset.mpr (more v (List.mem_toFinset.mp mem))

theorem unvisited_push {g : Graph} {v : String} (mem : v ∈ identifiers namespace_)
    (fresh : ¬ g.Node v) :
    (unvisited namespace_ (Graph.addNode g v)).card < (unvisited namespace_ g).card := by
  apply Finset.card_lt_card
  refine Finset.ssubset_iff_of_subset ?_ |>.mpr ⟨v, ?_, ?_⟩
  · apply Finset.sdiff_subset_sdiff (Finset.Subset.refl _)
    intro w old
    exact List.mem_toFinset.mpr ((Graph.node_addNode g v w).mpr (.inr (List.mem_toFinset.mp old)))
  · exact Finset.mem_sdiff.mpr ⟨mem, fun node => fresh (List.mem_toFinset.mp node)⟩
  · intro left
    exact (Finset.mem_sdiff.mp left).2
      (List.mem_toFinset.mpr ((Graph.node_addNode g v v).mpr (.inl rfl)))

theorem walkCalls_returns {fuel : Nat} {visit : Callable → Graph → Option (Except Exn Graph)}
    (returns : Returns namespace_ fuel visit) (funcId : String) (callees : List String) (g : Graph)
    (enough : (unvisited namespace_ g).card < fuel) :
    ∃ g', walkCalls namespace_ visit funcId callees g = some g' ∧ ∀ v, g.Node v → g'.Node v := by
  induction callees generalizing g with
  | nil => exact ⟨g, rfl, fun _ node => node⟩
  | cons callee rest ih =>
    have grown : ∀ v, g.Node v → (Graph.addEdge g funcId callee).Node v :=
      fun v node => Graph.node_addEdge g node
    have still := Nat.lt_of_le_of_lt (unvisited_mono grown) enough
    rw [walkCalls]
    cases bound : namespace_.get? callee with
    | none =>
      obtain ⟨g', walked, more⟩ := ih _ still
      exact ⟨g', walked, fun v node => more v (grown v node)⟩
    | some object =>
      obtain ⟨r, visited, moreR⟩ := returns object (Dict.mem_values_of_get? bound) _ still
      cases r with
      | error e =>
        refine ⟨Graph.addEdge g funcId callee, ?_, grown⟩
        simp only [visited]
      | ok h =>
        have moreH := moreR h rfl
        obtain ⟨g', walked, more⟩ := ih h (Nat.lt_of_le_of_lt (unvisited_mono moreH) still)
        refine ⟨g', ?_, fun v node => more v (moreH v (grown v node))⟩
        simp only [visited]
        exact walked

theorem buildCallGraph_succ {fuel : Nat}
    (returns : Returns namespace_ fuel (buildCallGraph namespace_ fuel)) (func : Callable) (g : Graph)
    (enough : ∀ id, func.identifier = .ok id → ¬ g.Node id →
      (unvisited namespace_ (Graph.addNode g id)).card < fuel) :
    ∃ r, buildCallGraph namespace_ (fuel + 1) func g = some r ∧
      ∀ g', r = .ok g' → ∀ v, g.Node v → g'.Node v := by
  rw [buildCallGraph]
  cases named : func.identifier with
  | error e => exact ⟨_, rfl, fun _ same => nomatch same⟩
  | ok funcId =>
    by_cases node : g.Node funcId
    · exact ⟨_, if_pos node, fun g' same v old => by cases same; exact old⟩
    · have grown : ∀ v, g.Node v → (Graph.addNode g funcId).Node v :=
        fun v old => (Graph.node_addNode g funcId v).mpr (.inr old)
      simp only [if_neg node]
      cases func.nameCalls with
      | error e => exact ⟨_, rfl, fun g' same v old => by cases same; exact grown v old⟩
      | ok callees =>
        obtain ⟨h, walked, more⟩ :=
          walkCalls_returns returns funcId callees _ (enough funcId named node)
        refine ⟨.ok h, by simp only [walked, Option.map_some], ?_⟩
        intro g' same v old
        cases same
        exact more v (grown v old)

theorem buildCallGraph_returns (fuel : Nat) :
    Returns namespace_ fuel (buildCallGraph namespace_ fuel) := by
  induction fuel with
  | zero => exact fun _ _ g enough => absurd enough (Nat.not_lt_zero _)
  | succ fuel ih =>
    intro object member g enough
    refine buildCallGraph_succ ih object g ?_
    intro id named fresh
    have mem : id ∈ identifiers namespace_ := by
      refine List.mem_toFinset.mpr (List.mem_filterMap.mpr ⟨object, member, ?_⟩)
      rw [named]
      rfl
    have smaller := unvisited_push mem fresh
    omega

theorem buildCallGraph_named {fuel : Nat} {func : Callable} {g : Graph} {funcId : String} {e : Exn}
    (named : func.identifier = .ok funcId) :
    buildCallGraph namespace_ fuel func g ≠ some (.error e) := by
  cases fuel with
  | zero => simp [buildCallGraph]
  | succ fuel =>
    rw [buildCallGraph, named]
    by_cases node : g.Node funcId
    · simp [node]
    · cases func.nameCalls <;> simp [node]

variable (namespace_) in
/-- The fuel of `callGraph` is enough: no identifier is entered twice. -/
theorem callGraph_complete (f : Function) : ∃ g, callGraph namespace_ f = some (.ok g) := by
  have enough : (unvisited namespace_ (Graph.addNode DiGraph.empty f.identifier)).card <
      namespace_.values.length + 1 := by
    have few : (identifiers namespace_).card ≤ namespace_.values.length :=
      (List.toFinset_card_le _).trans (List.length_filterMap_le _ _)
    have fewer := Finset.card_le_card (Finset.sdiff_subset (s := identifiers namespace_)
      (t := (Graph.addNode DiGraph.empty f.identifier).nodes.keys.toFinset))
    exact Nat.lt_succ_of_le (fewer.trans few)
  obtain ⟨r, built, _⟩ := buildCallGraph_succ (buildCallGraph_returns _) f.callable DiGraph.empty
    (fun id named _ => by cases named; exact enough)
  cases r with
  | ok g => exact ⟨g, built⟩
  | error e => exact absurd built (buildCallGraph_named rfl)

end CallGraph

section Cache

variable (env : Surroundings)

/-- What the plain validator accepts without reading an import: a module that it has
accepted, or a class or function whose own graph has no cycle. -/
def Recognised (v : CycleValidator) : Target → Prop
  | .module m => m.name ∈ v.cache.keys
  | .cls c => Acyclic (classGraph c).Edge
  | .function f => ∃ g, callGraph env.namespace_ f = some (.ok g) ∧ Acyclic g.Edge
  | .text s => isPythonFile s = true ∧ ∃ m, importTwice env s = .ok m ∧ m.name ∈ v.cache.keys
  | .other _ _ => False

def OwnAnswer (v : PerformanceOptimizedValidator) (target : Target) : Prop :=
  targetIdentifier target ∈ v.analysisCache.keys → Recognised env v.base target

structure AllTrue (v : PerformanceOptimizedValidator) : Prop where
  analyses : ∀ key result, v.analysisCache.get? key = some result → result = true
  modules : ∀ name result, v.base.cache.get? name = some result → result = true

theorem validateFunction_cases (f : Function) :
    ∃ g, callGraph env.namespace_ f = some (.ok g) ∧
      validateFunction env f = checkCycles env.lister g ("Function: " ++ f.name) := by
  obtain ⟨g, built⟩ := callGraph_complete env.namespace_ f
  exact ⟨g, built, by rw [validateFunction, built]⟩

variable {env}

theorem recognised_accepted {v : CycleValidator}
    (modules : ∀ name result, v.cache.get? name = some result → result = true) {target : Target}
    (recognised : Recognised env v target) : validate env target v = (.ok true, v) := by
  have cached : ∀ m : Module, m.name ∈ v.cache.keys → validateModule env m v = (.ok true, v) := by
    intro m member
    obtain ⟨result, hit⟩ := (Dict.mem_keys_iff _ _).mp member
    rw [validateModule_cached hit, modules m.name result hit]
  cases target with
  | module m => exact cached m recognised
  | cls c =>
    simp only [validate, validateClass, checkCycles_acyclic env recognised]
  | function f =>
    obtain ⟨g, built, acyclic⟩ := recognised
    obtain ⟨g', built', checked⟩ := validateFunction_cases env f
    rw [built] at built'
    cases built'
    simp only [validate, checked, checkCycles_acyclic env acyclic]
  | text s =>
    obtain ⟨file, m, imported, member⟩ := recognised
    simp only [validate, file, if_true, validateFile, imported, cached m member]
  | other id type => cases recognised

theorem checkCycles_true {graph : Graph} {context : String} {result : Bool}
    (accepted : checkCycles env.lister graph context = .ok result) : result = true := by
  unfold checkCycles at accepted
  split at accepted
  · exact (Except.ok.inj accepted).symm
  · cases accepted

structure Affirms (outcome : Outcome) (v : CycleValidator) : Prop where
  result : ∀ result, outcome = .ok result → result = true
  modules : ∀ name result, v.cache.get? name = some result → result = true

theorem Affirms.raised {e : Raised} {v : CycleValidator}
    (modules : ∀ name result, v.cache.get? name = some result → result = true) :
    Affirms (.error e) v where
  result result same := by cases same
  modules := modules

theorem validateModule_affirms {v : CycleValidator}
    (modules : ∀ name result, v.cache.get? name = some result → result = true) (m : Module) :
    Affirms (validateModule env m v).1 (validateModule env m v).2 := by
  rcases validateModule_cases env m v with ⟨_, hit, ran⟩ | ⟨_, _, _, ran⟩ | ⟨_, _, _, ⟨_, ran⟩ | ⟨_, _, ran⟩⟩
  · rw [ran]
    exact ⟨fun r same => by cases same; exact modules _ _ hit, modules⟩
  · rw [ran]
    exact .raised modules
  · rw [ran]
    refine ⟨fun r same => (Except.ok.inj same).symm, fun name result found => ?_⟩
    rw [Dict.get?_set] at found
    split at found
    · exact (Option.some.inj found).symm
    · exact modules name result found
  · rw [ran]
    exact .raised modules

theorem validateDag_affirms {v : CycleValidator}
    (modules : ∀ name result, v.cache.get? name = some result → result = true) (s : String) :
    Affirms (validateDag env s v).1 (validateDag env s v).2 := by
  unfold validateDag
  split
  · exact .raised modules
  · exact .raised modules
  · split
    · exact .raised modules
    · refine ⟨fun r same => ?_, modules⟩
      dsimp only at same
      split at same
      · exact (Except.ok.inj same).symm
      · exact checkCycles_true same

variable (env) in
theorem validate_affirms {v : CycleValidator}
    (modules : ∀ name result, v.cache.get? name = some result → result = true) (target : Target) :
    Affirms (validate env target v).1 (validate env target v).2 := by
  cases target with
  | module m => exact validateModule_affirms modules m
  | cls c => exact ⟨fun r same => checkCycles_true same, modules⟩
  | function f =>
    obtain ⟨g, _, checked⟩ := validateFunction_cases env f
    exact ⟨fun r same => checkCycles_true (checked.symm.trans same), modules⟩
  | text s =>
    rw [validate]
    split
    · unfold validateFile
      split
      · exact .raised modules
      · exact validateModule_affirms modules _
    · exact validateDag_affirms modules s
  | other id type => exact .raised modules

variable (env) in
theorem validateCached_hit {v : PerformanceOptimizedValidator} {target : Target} {result : Bool}
    (hit : v.analysisCache.get? (targetIdentifier target) = some result) :
    validateCached env target v = (.ok result, v) := by
  simp only [validateCached, hit]

variable (env) in
structure Mirrors (target : Target) (v : PerformanceOptimizedValidator) : Prop where
  outcome : (validateCached env target v).1 = (validate env target v.base).1
  base : (validateCached env target v).2.base = (validate env target v.base).2
  allTrue : AllTrue (validateCached env target v).2

theorem validateCached_mirrors {v : PerformanceOptimizedValidator} (allTrue : AllTrue v)
    {target : Target} (own : OwnAnswer env v target) : Mirrors env target v := by
  cases hit : v.analysisCache.get? (targetIdentifier target) with
  | some result =>
    have accepted := recognised_accepted allTrue.modules
      (own ((Dict.mem_keys_iff _ _).mpr ⟨result, hit⟩))
    have cached := validateCached_hit env hit
    constructor
    · rw [cached, accepted, allTrue.analyses _ _ hit]
    · rw [cached, accepted]
    · rw [cached]
      exact allTrue
  | none =>
    have affirms := validate_affirms env allTrue.modules target
    cases ran : validate env target v.base with
    | mk outcome base =>
      rw [ran] at affirms
      cases outcome with
      | error e =>
        have cached : validateCached env target v = (.error e, { v with base }) := by
          simp only [validateCached, hit, ran]
        constructor
        · rw [cached, ran]
        · rw [cached, ran]
        · rw [cached]
          exact ⟨allTrue.analyses, affirms.modules⟩
      | ok result =>
        have cached : validateCached env target v =
            (.ok result, ⟨base, v.analysisCache.set (targetIdentifier target) result⟩) := by
          simp only [validateCached, hit, ran]
        constructor
        · rw [cached, ran]
        · rw [cached, ran]
        · rw [cached]
          refine ⟨fun key r found => ?_, affirms.modules⟩
          rw [Dict.get?_set] at found
          split at found
          · rw [← Option.some.inj found]
            exact affirms.result result rfl
          · exact allTrue.analyses key r found

variable (env)

def afterCached (v : PerformanceOptimizedValidator) (target : Target) :
    PerformanceOptimizedValidator :=
  (validateCached env target v).2

def afterPlain (v : CycleValidator) (target : Target) : CycleValidator := (validate env target v).2

theorem run_mirrors (targets : List Target)
    (own : Runs.Each (afterCached env) (OwnAnswer env) .init targets) :
    AllTrue (Runs.run (afterCached env) .init targets) ∧
      (Runs.run (afterCached env) .init targets).base = Runs.run (afterPlain env) .init targets := by
  induction targets using List.reverseRecOn with
  | nil => exact ⟨⟨fun _ _ hit => (nomatch hit), fun _ _ hit => (nomatch hit)⟩, rfl⟩
  | append_singleton targets target ih =>
    obtain ⟨allTrue, same⟩ := ih fun first t begins =>
      own first t (begins.trans (List.prefix_append _ _))
    have mirrors := validateCached_mirrors allTrue (own targets target (List.prefix_refl _))
    simp only [Runs.run_append, Runs.run_cons, Runs.run_nil]
    refine ⟨mirrors.allTrue, mirrors.base.trans ?_⟩
    rw [same]
    rfl

/-- While no target is answered for by another, each call of the caching validator
ends as the plain one's does. -/
theorem cached_agrees (targets : List Target)
    (own : Runs.Each (afterCached env) (OwnAnswer env) .init targets) (first : List Target)
    (target : Target) (begins : first ++ [target] <+: targets) :
    (validateCached env target (Runs.run (afterCached env) .init first)).1 =
      (validate env target (Runs.run (afterPlain env) .init first)).1 := by
  obtain ⟨allTrue, same⟩ := run_mirrors env first fun before t starts =>
    own before t (starts.trans ((List.prefix_append _ _).trans begins))
  rw [(validateCached_mirrors allTrue (own first target begins)).outcome, same]

theorem validate_idle {v : CycleValidator} (idle : v.currentAnalysis = none) (target : Target) :
    (validate env target v).2.currentAnalysis = none := by
  have modules : ∀ m, (validateModule env m v).2.currentAnalysis = none := by
    intro m
    rcases validateModule_cases env m v with ⟨_, _, ran⟩ | ⟨_, _, _, ran⟩ | ⟨_, _, _, ⟨_, ran⟩ | ⟨_, _, ran⟩⟩
    all_goals
      rw [ran]
      exact idle
  cases target with
  | module m => exact modules m
  | cls c => exact idle
  | function f => exact idle
  | text s =>
    rw [validate]
    split
    · unfold validateFile
      split
      · exact idle
      · exact modules _
    · rw [validateDag, idle]
      exact idle
  | other id type => exact idle

theorem run_idle (targets : List Target) :
    (Runs.run (afterPlain env) .init targets).currentAnalysis = none := by
  have keeps : ∀ v target, CycleValidator.currentAnalysis v = none →
      (afterPlain env v target).currentAnalysis = none :=
    fun v target idle => validate_idle env idle target
  exact Runs.invariant keeps .init targets rfl

def ReadsModule : Target → Prop
  | .module _ => True
  | .text s => isPythonFile s = true
  | _ => False

/-- The condition is needed: the first target with another's answer is accepted, and
the plain validator does not accept it, unless it would have read a module instead. -/
theorem cached_differs (targets : List Target)
    (own : Runs.Each (afterCached env) (OwnAnswer env) .init targets) {target : Target}
    (stranger : ¬ OwnAnswer env (Runs.run (afterCached env) .init targets) target)
    (noModule : ¬ ReadsModule target) :
    (validateCached env target (Runs.run (afterCached env) .init targets)).1 = .ok true ∧
      (validate env target (Runs.run (afterPlain env) .init targets)).1 ≠ .ok true := by
  obtain ⟨allTrue, same⟩ := run_mirrors env targets own
  have idle := run_idle env targets
  obtain ⟨member, unknown⟩ := not_forall.mp stranger
  rw [same] at unknown
  obtain ⟨result, hit⟩ := (Dict.mem_keys_iff _ _).mp member
  constructor
  · rw [validateCached_hit env hit, allTrue.analyses _ _ hit]
  · cases target with
    | module m => exact absurd trivial noModule
    | cls c =>
      obtain ⟨path, raised⟩ := checkCycles_cyclic env unknown ("Class: " ++ c.name)
      simp only [validate, validateClass, raised, ne_eq, reduceCtorEq, not_false_eq_true]
    | function f =>
      obtain ⟨g, built, checked⟩ := validateFunction_cases env f
      have cyclic : ¬ Acyclic g.Edge := fun acyclic => unknown ⟨g, built, acyclic⟩
      obtain ⟨path, raised⟩ := checkCycles_cyclic env cyclic ("Function: " ++ f.name)
      simp only [validate, checked, raised, ne_eq, reduceCtorEq, not_false_eq_true]
    | text s =>
      have dag : isPythonFile s = false := Bool.eq_false_iff.mpr noModule
      simp only [validate, dag, validateDag, idle, underAnalysis, Bool.false_eq_true, if_false, ne_eq,
        reduceCtorEq, not_false_eq_true]
    | other id type => simp [validate]

end Cache

section Instance

theorem reports_twice :
    (validateCached plainSurroundings (.module reports)
        (Runs.run (afterCached plainSurroundings) .init [.module reports])).1 =
      (validate plainSurroundings (.module reports)
        (Runs.run (afterPlain plainSurroundings) .init [.module reports])).1 := by
  refine cached_agrees plainSurroundings [.module reports, .module reports] ?_ [.module reports]
    (.module reports) (List.prefix_refl _)
  rw [Runs.each_cons, Runs.each_cons]
  refine ⟨fun filed => (List.not_mem_nil filed).elim, fun _ => ?_, Runs.each_nil⟩
  change "reports" ∈ _
  decide +kernel

def engineModule : Module := ⟨"core.Engine", .ok [.names ["json"]]⟩

def engineClass : PyClass :=
  .mk "Engine" "core" "Engine" [.mk "Engine" "vendor" "Engine" [.mk "object" "builtins" "object" [] []] []]
    []

/-- A class is accepted unseen after the submodule that has its dotted name. -/
theorem class_taken_for_module :
    (validateCached plainSurroundings (.cls engineClass)
        (Runs.run (afterCached plainSurroundings) .init [.module engineModule])).1 = .ok true ∧
      (validate plainSurroundings (.cls engineClass)
        (Runs.run (afterPlain plainSurroundings) .init [.module engineModule])).1 =
        .error (.cycleValidationError ["Engine"] "Class: Engine") := by
  constructor <;> decide +kernel

end Instance

end KuvaAI.Validator
