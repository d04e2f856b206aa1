import KuvaAI.Workflow.ValidatorCache

/-! Cycles of calls and the graph that is to show them. A caller goes by its module and
qualified name, a callee by the plain name in the call: no edge starts where another ends. -/
namespace KuvaAI.Validator
open Python Relation

/-- What the language promises of an object: an identifier is a module and a qualified
name with a dot between, and the name in a call of a plain name has no dot. -/
structure Callable.Named (object : Callable) : Prop where
  identifier : ∀ id, object.identifier = .ok id → ∃ module qualname, id = module ++ "." ++ qualname
  calls : ∀ callees, object.nameCalls = .ok callees → ∀ callee ∈ callees, ¬ Dotted callee

/-- The functions are globals of the validator's module under their own names. -/
structure Visible (namespace_ : Dict String Callable) (functions : List Function) : Prop where
  bound : ∀ f ∈ functions, namespace_.get? f.name = some f.callable
  named : ∀ object ∈ namespace_.values, object.Named

def Calls (functions : List Function) (f g : Function) : Prop :=
  f ∈ functions ∧ g ∈ functions ∧ ∃ callees, f.nameCalls = .ok callees ∧ g.name ∈ callees

def CycleReachable (functions : List Function) (f : Function) : Prop :=
  ∃ g, ReflTransGen (Calls functions) f g ∧ TransGen (Calls functions) g g

def RaisesCycle (env : Surroundings) (f : Function) : Prop :=
  ∃ path context, validateFunction env f = .error (.cycleValidationError path context)

/-- The analysis of the function ends, and it raises exactly if a cycle is reachable. -/
def DetectsCycles (env : Surroundings) (functions : List Function) (f : Function) : Prop :=
  (∃ graph, callGraph env.namespace_ f = some (.ok graph)) ∧
    (RaisesCycle env f ↔ CycleReachable functions f)

def Crossing (g : Graph) : Prop := ∀ a b, g.Edge a b → Dotted a ∧ ¬ Dotted b

theorem Crossing.acyclic {g : Graph} (crossing : Crossing g) : Acyclic g.Edge := by
  apply Acyclic.of_rank fun v => if Dotted v then 0 else 1
  intro a b edge
  obtain ⟨dotted, plain⟩ := crossing a b edge
  simp [dotted, plain]

theorem Crossing.addEdge {g : Graph} (crossing : Crossing g) {u v : String} (dotted : Dotted u)
    (plain : ¬ Dotted v) : Crossing (Graph.addEdge g u v) := by
  intro a b edge
  rcases (Graph.edge_addEdge g u v a b).mp edge with ⟨rfl, rfl⟩ | old
  · exact ⟨dotted, plain⟩
  · exact crossing a b old

theorem Crossing.addNode {g : Graph} (crossing : Crossing g) (v : String) :
    Crossing (Graph.addNode g v) := crossing

section Graph

variable {namespace_ : Dict String Callable}

def KeepsCrossing (visit : Callable → Graph → Option (Except Exn Graph)) : Prop :=
  ∀ object, object.Named → ∀ g g', Crossing g → visit object g = some (.ok g') → Crossing g'

theorem walkCalls_crossing {visit : Callable → Graph → Option (Except Exn Graph)}
    (named : ∀ object ∈ namespace_.values, object.Named) (keeps : KeepsCrossing visit)
    {funcId : String} (dotted : Dotted funcId) {callees : List String}
    (plain : ∀ callee ∈ callees, ¬ Dotted callee) {g g' : Graph} (crossing : Crossing g)
    (walked : walkCalls namespace_ visit funcId callees g = some g') : Crossing g' := by
  induction callees generalizing g with
  | nil =>
    cases Option.some.inj walked
    exact crossing
  | cons callee rest ih =>
    have added := crossing.addEdge dotted (plain callee List.mem_cons_self)
    have later : ∀ h, Crossing h → walkCalls namespace_ visit funcId rest h = some g' → Crossing g' :=
      fun h => ih fun callee member => plain callee (List.mem_cons_of_mem _ member)
    unfold walkCalls at walked
    cases found : namespace_.get? callee with
    | none =>
      simp only [found] at walked
      exact later _ added walked
    | some object =>
      simp only [found] at walked
      split at walked
      · cases walked
      · cases Option.some.inj walked
        exact added
      · rename_i h visited
        have object_named := named object (Dict.mem_values_of_get? found)
        exact later h (keeps object object_named _ h added visited) walked

theorem buildCallGraph_crossing (named : ∀ object ∈ namespace_.values, object.Named)
    (fuel : Nat) : KeepsCrossing (buildCallGraph namespace_ fuel) := by
  induction fuel with
  | zero =>
    intro object _ g g' _ built
    cases built
  | succ fuel ih =>
    intro object object_named g g' crossing built
    unfold buildCallGraph at built
    cases identified : object.identifier with
    | error e => simp [identified] at built
    | ok funcId =>
      simp only [identified] at built
      split at built
      · cases Except.ok.inj (Option.some.inj built)
        exact crossing
      · cases read : object.nameCalls with
        | error e =>
          simp only [read, Option.some.injEq, Except.ok.injEq] at built
          subst built
          exact crossing
        | ok callees =>
          simp only [read, Option.map_eq_some_iff, Except.ok.injEq, exists_eq_right] at built
          obtain ⟨module, qualname, rfl⟩ := object_named.identifier funcId identified
          exact walkCalls_crossing named ih (dotted_join module qualname)
            (object_named.calls callees read) (crossing.addNode _) built

end Graph

section Verdicts

variable {env : Surroundings} {functions : List Function} {f : Function}

theorem callGraph_acyclic (visible : Visible env.namespace_ functions) (member : f ∈ functions)
    {graph : Graph} (built : callGraph env.namespace_ f = some (.ok graph)) : Acyclic graph.Edge := by
  have self := visible.named f.callable (Dict.mem_values_of_get? (visible.bound f member))
  have empty : Crossing (DiGraph.empty : Graph) := fun _ _ edge => (List.not_mem_nil edge).elim
  exact (buildCallGraph_crossing visible.named _ f.callable self _ graph empty built).acyclic

theorem validateFunction_accepts (visible : Visible env.namespace_ functions)
    (member : f ∈ functions) : validateFunction env f = .ok true := by
  obtain ⟨graph, built, checked⟩ := validateFunction_cases env f
  rw [checked]
  exact checkCycles_acyclic env (callGraph_acyclic visible member built) _

/-- Cycles of calls are found exactly where there is none to find. -/
theorem detectsCycles_iff (visible : Visible env.namespace_ functions) (member : f ∈ functions) :
    DetectsCycles env functions f ↔ ¬ CycleReachable functions f := by
  have quiet : ¬ RaisesCycle env f := by
    rintro ⟨path, context, raised⟩
    rw [validateFunction_accepts visible member] at raised
    cases raised
  constructor
  · intro detects reachable
    exact quiet (detects.2.mpr reachable)
  · intro free
    exact ⟨callGraph_complete env.namespace_ f, iff_of_false quiet free⟩

end Verdicts

section Globals

def globalsOf (functions : List Function) (distinct : (functions.map Function.name).Nodup) :
    Dict String Callable where
  entries := functions.map fun f => (f.name, f.callable)
  nodup := by
    rw [List.map_map]
    exact distinct

theorem globalsOf_visible {functions : List Function}
    (distinct : (functions.map Function.name).Nodup)
    (plain : ∀ f ∈ functions, ∀ callees, f.nameCalls = .ok callees →
      ∀ callee ∈ callees, ¬ Dotted callee) :
    Visible (globalsOf functions distinct) functions where
  bound f member := Dict.get?_of_mem (List.mem_map.mpr ⟨f, member, rfl⟩)
  named object member := by
    obtain ⟨⟨name, _⟩, entry, rfl⟩ := List.mem_map.mp member
    obtain ⟨f, listed, same⟩ := List.mem_map.mp entry
    cases same
    constructor
    · intro id identified
      cases Except.ok.inj identified
      exact ⟨f.module, f.qualname, rfl⟩
    · exact plain f listed

def withGlobals (functions : List Function) (distinct : (functions.map Function.name).Nodup) :
    Surroundings :=
  { plainSurroundings with namespace_ := globalsOf functions distinct }

def globalFunction (name : String) (callees : List String) : Function :=
  ⟨name, "src.core.orchestration.workflow.validator", name, .ok callees⟩

def submit : Function := globalFunction "submit" ["notify"]

def notify : Function := globalFunction "notify" []

def resubmit : Function := globalFunction "resubmit" ["resubmit"]

theorem calls_submit {f g : Function} (calls : Calls [submit, notify] f g) :
    f.name = "submit" ∧ g.name = "notify" := by
  obtain ⟨member, _, callees, read, called⟩ := calls
  simp only [List.mem_cons, List.not_mem_nil, or_false] at member
  rcases member with rfl | rfl
  · cases read
    exact ⟨rfl, List.mem_singleton.mp called⟩
  · cases read
    exact (List.not_mem_nil called).elim

theorem submit_searched :
    DetectsCycles (withGlobals [submit, notify] (by decide)) [submit, notify] submit := by
  have visible : Visible (withGlobals [submit, notify] (by decide)).namespace_ [submit, notify] := by
    apply globalsOf_visible (by decide)
    intro f member callees read
    simp only [List.mem_cons, List.not_mem_nil, or_false] at member
    rcases member with rfl | rfl
    all_goals
      cases read
      decide
  apply (detectsCycles_iff visible List.mem_cons_self).mpr
  rintro ⟨g, _, cycle⟩
  refine Acyclic.of_rank (fun h : Function => if h.name = "notify" then 1 else 0) ?_ g cycle
  intro a b calls
  obtain ⟨caller, callee⟩ := calls_submit calls
  simp [caller, callee]

theorem recursion_accepted :
    Visible (withGlobals [resubmit] (by decide)).namespace_ [resubmit] ∧
      ¬ DetectsCycles (withGlobals [resubmit] (by decide)) [resubmit] resubmit := by
  constructor
  · apply globalsOf_visible (by decide)
    intro f member callees read
    cases List.mem_singleton.mp member
    cases read
    decide
  · intro detects
    have calls : Calls [resubmit] resubmit resubmit :=
      ⟨List.mem_cons_self, List.mem_cons_self, ["resubmit"], rfl, List.mem_cons_self⟩
    obtain ⟨path, context, raised⟩ := detects.2.mpr ⟨resubmit, .refl, .single calls⟩
    have accepted : validateFunction (withGlobals [resubmit] (by decide)) resubmit = .ok true := by
      decide +kernel
    rw [accepted] at raised
    cases raised

end Globals

end KuvaAI.Validator
