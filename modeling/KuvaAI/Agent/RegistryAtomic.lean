import KuvaAI.Agent.RegistryRuns

/-! Whether a refused registration leaves the registry alone. Every check stands
before the first write; the dependencies of the class are read after it, one by one. -/
namespace KuvaAI.Registry
open Python

variable {Plugin : Type} (specs : PluginSpecs Plugin) (s : AgentRegistry Plugin)
  (cls : AgentClass) (pluginMeta : Option Plugin) (override : Bool)

structure PassesChecks (plugin : Plugin) : Prop where
  isClass : cls.isClass = true
  isAgent : cls.isAgent = true
  vacant : s.registry.get? cls.name = none ∨ override = true
  configModel : cls.configModel = .ok .model
  pluginOr : pluginOr specs pluginMeta = .ok plugin

theorem checkConfigModel_ok_iff : checkConfigModel cls = .ok () ↔ cls.configModel = .ok .model := by
  cases read : cls.configModel with
  | error e =>
    simp only [checkConfigModel, validateAgentConfigModel, read]
    by_cases missing : e.cls = .attributeError
    · simp [missing]
    · simp only [if_neg missing]
      split <;> simp_all
  | ok kind => cases kind <;> simp [checkConfigModel, validateAgentConfigModel, read]

theorem newEntry_ok_iff (entry : RegistryEntry Plugin) :
    newEntry specs s cls pluginMeta override = .ok entry ↔
      ∃ plugin, PassesChecks specs s cls pluginMeta override plugin ∧ entry = ⟨cls, plugin⟩ := by
  constructor
  · intro accepted
    obtain ⟨isClass, isAgent, vacant, checked, plugin, created, rfl⟩ := newEntry_accepted accepted
    have model := (checkConfigModel_ok_iff cls).mp checked
    exact ⟨plugin, ⟨isClass, isAgent, by simpa using vacant, model, created⟩, rfl⟩
  · rintro ⟨plugin, passes, rfl⟩
    have vacant : ((s.registry.get? cls.name).isNone || override) = true := by
      simpa using passes.vacant
    have checked := (checkConfigModel_ok_iff cls).mpr passes.configModel
    rw [newEntry, passes.isClass, passes.isAgent, vacant, checked, passes.pluginOr]
    rfl

theorem register_passing {plugin : Plugin} (passes : PassesChecks specs s cls pluginMeta override plugin) :
    register specs cls pluginMeta override s =
      ((cls.reading.mapError .builtin).map fun _ => cls, s.withEntry ⟨cls, plugin⟩) :=
  register_accepted s specs ((newEntry_ok_iff specs s cls pluginMeta override _).mpr ⟨plugin, passes, rfl⟩)

theorem addDependent_eq_self {agentType depType : String} {reverse : Dict String (List String)}
    (recorded : agentType ∈ (reverse.get? depType).getD []) :
    addDependent agentType reverse depType = reverse := by
  rw [addDependent, Dict.set_eq_self_iff, List.insert_of_mem recorded]
  cases found : reverse.get? depType with
  | none => simp [found] at recorded
  | some dependents => rfl

theorem recorded_iff (agentType : String) (declared : List String) (reverse : Dict String (List String)) :
    declared.foldl (addDependent agentType) reverse = reverse ↔
      ∀ d ∈ declared, agentType ∈ (reverse.get? d).getD [] := by
  constructor
  · intro same d declares
    rw [← same]
    exact (mem_foldl_addDependent agentType declared reverse d agentType).mpr (.inr ⟨rfl, declares⟩)
  · intro recorded
    induction declared with
    | nil => rfl
    | cons depType rest ih =>
      rw [List.foldl_cons, addDependent_eq_self (recorded depType List.mem_cons_self)]
      exact ih fun d later => recorded d (List.mem_cons_of_mem depType later)

/-- A call that raises leaves both maps as they were. -/
def AtomicAt : Prop :=
  ∀ e, (register specs cls pluginMeta override s).1 = .error e →
    (register specs cls pluginMeta override s).2.registry = s.registry ∧
    (register specs cls pluginMeta override s).2.reverseDependencies = s.reverseDependencies

/-- A registration is all or nothing unless the class passes the checks and its
dependencies then cannot be read, and what was written by then was not there before. -/
theorem register_atomic_iff : AtomicAt specs s cls pluginMeta override ↔
    ∀ plugin e, PassesChecks specs s cls pluginMeta override plugin → cls.reading = .error e →
      s.registry.get? cls.name = some ⟨cls, plugin⟩ ∧ ∀ d ∈ cls.declared, cls.name ∈ s.dependents d := by
  constructor
  · intro atomic plugin e passes unread
    have ran := register_passing specs s cls pluginMeta override passes
    rw [unread] at ran
    have kept := atomic (.builtin e) (by rw [ran]; rfl)
    rw [ran] at kept
    exact ⟨(s.registry.set_eq_self_iff cls.name _).mp kept.1, (recorded_iff cls.name _ _).mp kept.2⟩
  · intro stored e raised
    cases accepted : newEntry specs s cls pluginMeta override with
    | error rejection =>
      rw [register_rejected s specs accepted]
      exact ⟨rfl, rfl⟩
    | ok entry =>
      obtain ⟨plugin, passes, rfl⟩ := (newEntry_ok_iff specs s cls pluginMeta override _).mp accepted
      rw [register_passing specs s cls pluginMeta override passes] at raised ⊢
      cases unread : cls.reading with
      | ok _ =>
        rw [unread] at raised
        cases raised
      | error e =>
        obtain ⟨known, recorded⟩ := stored plugin e passes unread
        exact ⟨(s.registry.set_eq_self_iff cls.name _).mpr known, (recorded_iff cls.name _ _).mpr recorded⟩

theorem unreadable_class_stays :
    ¬ ∀ (s : AgentRegistry Unit) (cls : AgentClass) (override : Bool),
      AtomicAt unitSpecs s cls none override := by
  intro atomic
  let broken : AgentClass :=
    { agentClass "Reporter" Dict.empty with dependencies := .error ⟨.runtimeError, "no backend"⟩ }
  have kept := (atomic .init broken false (.builtin ⟨.runtimeError, "no backend"⟩) rfl).1
  have stored : (AgentRegistry.init : AgentRegistry Unit).registry.keys = ["Reporter"] := by
    rw [← kept]
    rfl
  cases stored

end KuvaAI.Registry
