import KuvaAI.Agent.RegistryRuns

/-! Cycles of the recorded dependents. The registry looks for them once, when it is
initialised; afterwards each accepted registration can close one. -/
namespace KuvaAI.Registry
open Python Relation

variable {Plugin : Type}

def AgentRegistry.Edge (s : AgentRegistry Plugin) (a b : String) : Prop := b ∈ s.dependents a

section Detection

theorem mem_nodes_of_dependent {s : AgentRegistry Plugin} {d t : String}
    (dependent : t ∈ s.dependents d) : t ∈ s.nodes := by
  apply List.mem_append_right
  cases found : s.reverseDependencies.get? d with
  | none =>
    rw [AgentRegistry.dependents, found] at dependent
    exact (List.not_mem_nil dependent).elim
  | some names =>
    rw [AgentRegistry.dependents, found] at dependent
    exact List.mem_flatten.mpr ⟨names, Dict.mem_values_of_get? found, dependent⟩

/-- A path along recorded edges back to its start that comes through nothing else twice. -/
structure AgentRegistry.SimpleCycle (s : AgentRegistry Plugin) (cycle : List String) : Prop where
  edges : cycle.IsChain s.Edge
  long : 2 ≤ cycle.length
  closes : cycle.head? = cycle.getLast?
  distinct : cycle.dropLast.Nodup

/-- The detection returns, reports nothing exactly when no cycle can be reached from a
registered type, and reports simple cycles only. -/
theorem detect_spec (order : SetOrder) (s : AgentRegistry Plugin) :
    ∃ cycles, detectCircularDependencies order s = some cycles ∧
      (cycles = [] ↔ ∀ t, (s.registry.get? t).isSome → ∀ v, ReflTransGen s.Edge t v →
        ¬ TransGen s.Edge v v) ∧
      ∀ cycle ∈ cycles, s.SimpleCycle cycle := by
  let succ : String → List String := fun node => order.order (s.dependents node)
  have within : ∀ v ∈ s.nodes.toFinset, ∀ next ∈ succ v, next ∈ s.nodes.toFinset := by
    intro v _ next edge
    exact List.mem_toFinset.mpr (mem_nodes_of_dependent ((order.perm _).mem_iff.mp edge))
  have enough : s.nodes.toFinset.card < s.nodes.length + 1 :=
    Nat.lt_succ_of_le (List.toFinset_card_le _)
  have inside : ∀ root ∈ s.registry.keys, root ∈ s.nodes.toFinset :=
    fun root mem => List.mem_toFinset.mpr (List.mem_append_left _ mem)
  have same : CycleSearch.Edge succ = s.Edge := by
    funext a b
    exact propext (order.perm _).mem_iff
  obtain ⟨found, searched, sound, none⟩ :=
    CycleSearch.search_spec s.nodes.toFinset within enough s.registry.keys inside
  rw [same] at none
  have returned : detectCircularDependencies order s = some found.cycles := by
    rw [detectCircularDependencies, searched]
    rfl
  refine ⟨found.cycles, returned, none.trans ?_, fun cycle mem => ?_⟩
  · apply forall_congr'
    intro t
    rw [Dict.mem_keys_iff, Option.isSome_iff_exists]
  · obtain ⟨walk, distinct⟩ := sound cycle mem
    exact ⟨same ▸ walk.chain, walk.long, walk.closed, distinct⟩

/-- Whatever has been recorded, and in whatever order it is walked. -/
theorem cycle_detection_correct (order : SetOrder) (s : AgentRegistry Plugin) :
    ∃ cycles, detectCircularDependencies order s = some cycles ∧
      (cycles = [] ↔ ¬ ∃ t v, (s.registry.get? t).isSome ∧ ReflTransGen s.Edge t v ∧
        TransGen s.Edge v v) ∧
      ∀ cycle ∈ cycles, s.SimpleCycle cycle := by
  obtain ⟨cycles, returned, none, simple⟩ := detect_spec order s
  refine ⟨cycles, returned, none.trans ?_, simple⟩
  constructor
  · rintro free ⟨t, v, registered, path, cycle⟩
    exact free t registered v path cycle
  · intro free t registered v path cycle
    exact free ⟨t, v, registered, path, cycle⟩

def Anchored (s : AgentRegistry Plugin) : Prop :=
  ∀ v, TransGen s.Edge v v →
    ∃ u, (s.registry.get? u).isSome ∧ ReflTransGen s.Edge v u ∧ ReflTransGen s.Edge u v

theorem detect_nil_iff (order : SetOrder) {s : AgentRegistry Plugin} (anchored : Anchored s) :
    detectCircularDependencies order s = some [] ↔ Acyclic s.Edge := by
  obtain ⟨cycles, returned, none, _⟩ := detect_spec order s
  rw [returned, Option.some_inj, none]
  constructor
  · intro free v cycle
    obtain ⟨u, registered, _, back⟩ := anchored v cycle
    exact free u registered v back cycle
  · exact fun acyclic _ _ v _ => acyclic v

theorem edge_withEntry (s : AgentRegistry Plugin) (entry : RegistryEntry Plugin) :
    (s.withEntry entry).Edge =
      Acyclic.AddInto s.Edge (fun d => d ∈ entry.cls.declared) entry.cls.name := by
  funext a b
  apply propext
  rw [AgentRegistry.Edge, mem_dependents_withEntry, and_comm (a := b = _)]
  rfl

theorem anchored_withEntry {s : AgentRegistry Plugin} (anchored : Anchored s)
    (entry : RegistryEntry Plugin) : Anchored (s.withEntry entry) := by
  intro v cycle
  have stays : ∀ a b, s.Edge a b → (s.withEntry entry).Edge a b :=
    fun a b edge => (mem_dependents_withEntry s entry a b).mpr (.inl edge)
  have path := cycle
  rw [edge_withEntry] at path
  rcases Acyclic.through_target path with old | ⟨front, back⟩
  · obtain ⟨u, registered, front, back⟩ := anchored v old
    refine ⟨u, ?_, ReflTransGen.mono stays _ _ front, ReflTransGen.mono stays _ _ back⟩
    rw [AgentRegistry.withEntry, Dict.get?_set]
    split
    · rfl
    · exact registered
  · rw [← edge_withEntry] at front back
    refine ⟨entry.cls.name, ?_, front, back⟩
    rw [AgentRegistry.withEntry, Dict.get?_set_same]
    rfl

theorem anchored_without {s : AgentRegistry Plugin} (anchored : Anchored s) {t : String}
    (removable : s.Removable t) : Anchored (s.without t) := by
  intro v cycle
  obtain ⟨u, registered, front, back⟩ := anchored v cycle
  refine ⟨u, ?_, front, back⟩
  have onCycle : TransGen s.Edge u u := (TransGen.trans_right back cycle).trans_left front
  have other : u ≠ t := by
    rintro rfl
    obtain ⟨w, edge, _⟩ := TransGen.head'_iff.mp onCycle
    rw [AgentRegistry.Edge, removable.2] at edge
    exact List.not_mem_nil edge
  rw [AgentRegistry.without, Dict.get?_erase, if_neg other]
  exact registered

theorem anchored_init : Anchored (AgentRegistry.init : AgentRegistry Plugin) := by
  intro v cycle
  obtain ⟨w, edge, _⟩ := TransGen.head'_iff.mp cycle
  exact (List.not_mem_nil edge).elim

variable (specs : PluginSpecs Plugin) (order : SetOrder)

theorem anchored_after (s : AgentRegistry Plugin) (call : Call Plugin) (anchored : Anchored s) :
    Anchored (after specs order s call) := by
  rcases after_cases s specs order call with same | ⟨entry, same⟩ | ⟨t, removable, same⟩
  · rw [same]
    exact anchored
  · rw [same]
    exact anchored_withEntry anchored entry
  · rw [same]
    exact anchored_without anchored removable

/-- An accepted call adds no dependency on the type itself or on one that depends
on it already. -/
def Open (s : AgentRegistry Plugin) : Call Plugin → Prop
  | .register cls pluginMeta override =>
    (∃ entry, newEntry specs s cls pluginMeta override = .ok entry) →
      ∀ d ∈ cls.declared, ¬ ReflTransGen s.Edge cls.name d
  | .unregister _ => True

theorem acyclic_after {s : AgentRegistry Plugin} (acyclic : Acyclic s.Edge) (call : Call Plugin) :
    Acyclic (after specs order s call).Edge ↔ Open specs s call := by
  cases call with
  | register cls pluginMeta override =>
    rcases after_register_cases s specs order cls pluginMeta override with
      ⟨rejected, same⟩ | ⟨entry, made, rfl, stored⟩
    · rw [same]
      exact iff_of_true acyclic fun accepted => absurd accepted rejected
    · have closes : Acyclic (s.withEntry entry).Edge ↔ Acyclic s.Edge ∧
          ∀ d, d ∈ entry.cls.declared → ¬ ReflTransGen s.Edge entry.cls.name d := by
        rw [edge_withEntry]
        exact Acyclic.addInto_iff _ _
      rw [stored]
      constructor
      · exact fun next _ => (closes.mp next).2
      · exact fun free => closes.mpr ⟨acyclic, free ⟨entry, made⟩⟩
  | unregister t =>
    refine iff_of_true ?_ trivial
    have same : (after specs order s (.unregister t)).Edge = s.Edge := by
      simp only [after, Call.perform, unregister_eq]
      split
      · rfl
      · split <;> rfl
    rw [same]
    exact acyclic

end Detection

section Initialized

variable (specs : PluginSpecs Plugin) (order : SetOrder)

/-- An invariant of the calls that does not mention whether the registry is initialised. -/
structure Stable (Inv : AgentRegistry Plugin → Prop) : Prop where
  calls : ∀ s call, Inv s → Inv (after specs order s call)
  flag : ∀ s b, Inv s → Inv { s with initialized := b }

abbrev Keeps {α : Type} (Inv : AgentRegistry Plugin → Prop) (x : Action Plugin α) : Prop :=
  Effect.Triple Inv x (fun _ => Inv) (fun _ => Inv)

variable {specs order} {Inv : AgentRegistry Plugin → Prop} (stable : Stable specs order Inv)

theorem keeps_lift {α : Type} (result : Except Error α) :
    Keeps Inv (lift result : Action Plugin α) := by
  cases result with
  | ok a => exact fun s inv => inv
  | error e => exact fun s inv => inv

theorem validated :
    Effect.Triple Inv (validateRegistry order)
      (fun _ s => Inv s ∧ detectCircularDependencies order s = some []) (fun _ => Inv) := by
  intro s inv
  rw [validateRegistry, Effect.wp_bind, Effect.wp_get]
  split
  · exact ⟨inv, ‹_›⟩
  · exact inv
  · exact inv

include stable

theorem keeps_register (cls : AgentClass) (pluginMeta : Option Plugin) (override : Bool) :
    Keeps Inv (register specs cls pluginMeta override) := by
  intro s inv
  rw [Effect.wp_state, register_state]
  exact stable.calls s (.register cls pluginMeta override) inv

theorem keeps_registerModule (objs : List AgentClass) :
    Keeps Inv (registerModule specs objs) := by
  induction objs with
  | nil => exact fun s inv => inv
  | cons obj rest ih =>
    rw [registerModule]
    split
    · exact Effect.Triple.bind (keeps_register stable obj none false) fun _ => ih
    · exact ih

theorem keeps_importModule (module : Import Plugin) :
    Keeps Inv (importModule specs order module) := by
  intro s inv
  rw [importModule, Effect.wp_bind, Effect.wp_get, Effect.wp_bind, Effect.wp_set]
  exact keeps_lift module.result _ (Runs.invariant stable.calls s module.calls inv)

theorem keeps_loadModule (module : Import Plugin) : Keeps Inv (loadModule specs order module) :=
  (keeps_importModule stable module).bind fun objs => keeps_registerModule stable objs

theorem keeps_loadBuiltinAgents (builtin : Import Plugin) :
    Keeps Inv (loadBuiltinAgents specs order builtin) := by
  apply (keeps_loadModule stable builtin).tryCatch
  intro e
  exact Effect.Triple.ite (fun _ inv => inv) (fun _ inv => inv)

theorem keeps_discoverPlugins (plugins : List (Import Plugin)) :
    Keeps Inv (discoverPlugins specs order plugins) := by
  induction plugins with
  | nil => exact fun s inv => inv
  | cons plugin rest ih =>
    have tried : Keeps Inv (tryCatch (loadModule specs order plugin) fun _ => return ()) :=
      (keeps_loadModule stable plugin).tryCatch fun _ _ inv => inv
    exact tried.bind fun _ => ih

theorem initialized_spec {builtin : Import Plugin} {plugins : List (Import Plugin)}
    {s t : AgentRegistry Plugin} (inv : Inv s) (fresh : s.initialized = false)
    (returned : initializeRegistry specs order builtin plugins s = (.ok (), t)) :
    Inv t ∧ detectCircularDependencies order t = some [] := by
  have steps : Effect.Triple Inv (do
      loadBuiltinAgents specs order builtin
      discoverPlugins specs order plugins
      validateRegistry order
      modify fun s => { s with initialized := true })
      (fun _ s => Inv s ∧ detectCircularDependencies order s = some []) (fun _ => Inv) := by
    apply (keeps_loadBuiltinAgents stable builtin).bind
    intro _
    apply (keeps_discoverPlugins stable plugins).bind
    intro _
    apply validated.bind
    intro _ u valid
    exact ⟨stable.flag u true valid.1, valid.2⟩
  have ran : Effect.wp (initializeRegistry specs order builtin plugins)
      (fun _ s => Inv s ∧ detectCircularDependencies order s = some []) (fun _ => Inv) s := by
    rw [initializeRegistry, Effect.wp_bind, Effect.wp_get, fresh]
    exact steps s inv
  have reached := Effect.wp_of_eq_ok ran returned
  exact reached

end Initialized

section Afterwards

variable (specs : PluginSpecs Plugin) (order : SetOrder)

theorem stable_anchored : Stable specs order Anchored :=
  ⟨fun s call => anchored_after specs order s call, fun _ _ anchored => anchored⟩

theorem fresh_run (calls : List (Call Plugin)) :
    (run specs order .init calls).initialized = false := by
  have keeps : ∀ s call, s.initialized = false → (after specs order s call).initialized = false := by
    intro s call fresh
    rcases after_cases s specs order call with same | ⟨entry, same⟩ | ⟨t, _, same⟩
    · rw [same, fresh]
    · rw [same]
      exact fresh
    · rw [same]
      exact fresh
  exact Runs.invariant keeps .init calls rfl

/-- After `initialize` the detection keeps reporting nothing exactly as long as every
call is open in the state in which it is made. -/
theorem stays_acyclic_iff (builtin : Import Plugin) (plugins : List (Import Plugin))
    (before : List (Call Plugin)) (s : AgentRegistry Plugin)
    (returned : initializeRegistry specs order builtin plugins (run specs order .init before) =
      (.ok (), s)) (calls : List (Call Plugin)) :
    Runs.Always (after specs order) (fun s => detectCircularDependencies order s = some []) s calls ↔
      Runs.Each (after specs order) (Open specs) s calls := by
  have anchored : Anchored (run specs order .init before) :=
    Runs.invariant (anchored_after specs order) .init before anchored_init
  obtain ⟨anchoredS, clear⟩ := initialized_spec (stable_anchored specs order) anchored
    (fresh_run specs order before) returned
  apply Runs.always_iff_each (anchored_after specs order) _ s calls anchoredS clear
  intro s call anchored clear
  rw [detect_nil_iff order (anchored_after specs order s call anchored)]
  exact acyclic_after specs order ((detect_nil_iff order anchored).mp clear) call

theorem open_of_leaf {s : AgentRegistry Plugin} {cls : AgentClass} (leaf : s.dependents cls.name = [])
    (other : cls.name ∉ cls.declared) (pluginMeta : Option Plugin) (override : Bool) :
    Open specs s (.register cls pluginMeta override) := by
  intro _ d declares path
  rcases path.cases_head with same | ⟨t, edge, _⟩
  · exact other (same ▸ declares)
  · rw [AgentRegistry.Edge, leaf] at edge
    exact List.not_mem_nil edge

def noModule : Import Unit := ⟨[], .ok []⟩

def ready : AgentRegistry Unit := (initializeRegistry unitSpecs .asListed noModule [] .init).2

def ingest : AgentClass := agentClass "Ingest" (Dict.empty.set "sink" "Index")

def index : AgentClass := agentClass "Index" (Dict.empty.set "source" "Ingest")

theorem overridden_ingest_acyclic :
    Runs.Always (after unitSpecs .asListed)
      (fun s => detectCircularDependencies .asListed s = some [])
      ready [.register ingest none false, .register ingest none true] := by
  refine (stays_acyclic_iff unitSpecs .asListed noModule [] [] ready rfl _).mpr ?_
  refine Runs.each_cons.mpr ⟨?_, Runs.each_cons.mpr ⟨?_, Runs.each_nil⟩⟩
  · exact open_of_leaf unitSpecs (by decide) (by decide) none false
  · exact open_of_leaf unitSpecs (by decide +kernel) (by decide) none true

theorem registration_closes_cycle :
    initializeRegistry unitSpecs .asListed noModule [] .init = (.ok (), ready) ∧
      detectCircularDependencies .asListed (run unitSpecs .asListed ready
        [.register ingest none false, .register index none false]) =
          some [["Ingest", "Index", "Ingest"]] := by
  exact ⟨rfl, by decide +kernel⟩

end Afterwards

end KuvaAI.Registry
