import KuvaAI.Agent.Registry

/-! What each call does to the registry, and dependents over whole runs: a
registered type that a registered class declares is never removed, while a
removal may also be refused for a dependent that is gone. -/
namespace KuvaAI.Registry
open Python

variable {Plugin : Type}

def added : List DepType → List String
  | [] => []
  | .unhashable _ :: _ => []
  | .name depType :: rest => depType :: added rest

def ending (ends : Except Exn Unit) : List DepType → Except Exn Unit
  | [] => ends
  | .unhashable typeName :: _ => .error ⟨.typeError, "unhashable type: '" ++ typeName ++ "'"⟩
  | .name _ :: rest => ending ends rest

/-- The types in the map of names that `dependencies` returns. Where it returns something
else or raises, those that come before an exception. -/
def AgentClass.declared (cls : AgentClass) : List String :=
  match cls.dependencies with
  | .ok dependencies => added dependencies.depTypes
  | .error _ => []

def AgentClass.reading (cls : AgentClass) : Except Exn Unit :=
  match cls.dependencies with
  | .ok dependencies => ending dependencies.ends dependencies.depTypes
  | .error e => .error e

section Effects

variable (s : AgentRegistry Plugin)

/-- The registry with an accepted entry, whether its dependencies could be read or not. -/
def AgentRegistry.withEntry (entry : RegistryEntry Plugin) : AgentRegistry Plugin :=
  { s with
    registry := s.registry.set entry.cls.name entry
    reverseDependencies :=
      entry.cls.declared.foldl (addDependent entry.cls.name) s.reverseDependencies }

def AgentRegistry.without (agentType : String) : AgentRegistry Plugin :=
  { s with registry := s.registry.erase agentType }

def AgentRegistry.Removable (agentType : String) : Prop :=
  (s.registry.get? agentType).isSome ∧ s.dependents agentType = []

theorem mem_addDependent (agentType : String) (reverse : Dict String (List String))
    (depType d t : String) :
    t ∈ ((addDependent agentType reverse depType).get? d).getD [] ↔
      t ∈ (reverse.get? d).getD [] ∨ t = agentType ∧ d = depType := by
  rw [addDependent, Dict.get?_set]
  by_cases same : d = depType
  · subst same
    simp [or_comm]
  · simp [same]

theorem mem_foldl_addDependent (agentType : String) (declared : List String)
    (reverse : Dict String (List String)) (d t : String) :
    t ∈ ((declared.foldl (addDependent agentType) reverse).get? d).getD [] ↔
      t ∈ (reverse.get? d).getD [] ∨ t = agentType ∧ d ∈ declared := by
  induction declared generalizing reverse with
  | nil => simp
  | cons depType rest ih =>
    rw [List.foldl_cons, ih, mem_addDependent, List.mem_cons, and_or_left, or_assoc]

theorem mem_dependents_withEntry (entry : RegistryEntry Plugin) (d t : String) :
    t ∈ (s.withEntry entry).dependents d ↔
      t ∈ s.dependents d ∨ t = entry.cls.name ∧ d ∈ entry.cls.declared :=
  mem_foldl_addDependent _ _ _ _ _

@[simp] theorem dependents_without (agentType d : String) :
    (s.without agentType).dependents d = s.dependents d := rfl

variable (specs : PluginSpecs Plugin) (order : SetOrder)

theorem raiseUnless_bind {α : Type} {c : Bool} {e : Error} {next : Unit → Except Error α} {a : α}
    (accepted : (raiseUnless c e >>= next) = .ok a) : c = true ∧ next () = .ok a := by
  cases c with
  | true => exact ⟨rfl, accepted⟩
  | false => cases accepted

theorem newEntry_accepted {s : AgentRegistry Plugin} {specs : PluginSpecs Plugin} {cls : AgentClass}
    {pluginMeta : Option Plugin} {override : Bool} {entry : RegistryEntry Plugin}
    (accepted : newEntry specs s cls pluginMeta override = .ok entry) :
    cls.isClass = true ∧ cls.isAgent = true ∧
      ((s.registry.get? cls.name).isNone || override) = true ∧ checkConfigModel cls = .ok () ∧
      ∃ plugin, pluginOr specs pluginMeta = .ok plugin ∧ entry = ⟨cls, plugin⟩ := by
  rw [newEntry] at accepted
  obtain ⟨isClass, accepted⟩ := raiseUnless_bind accepted
  obtain ⟨isAgent, accepted⟩ := raiseUnless_bind accepted
  obtain ⟨vacant, accepted⟩ := raiseUnless_bind accepted
  obtain ⟨_, checked, accepted⟩ := bind_eq_ok accepted
  obtain ⟨plugin, created, accepted⟩ := bind_eq_ok accepted
  cases accepted
  exact ⟨isClass, isAgent, vacant, checked, plugin, created, rfl⟩

theorem newEntry_cls {s : AgentRegistry Plugin} {specs : PluginSpecs Plugin} {cls : AgentClass}
    {pluginMeta : Option Plugin} {override : Bool} {entry : RegistryEntry Plugin}
    (accepted : newEntry specs s cls pluginMeta override = .ok entry) : entry.cls = cls := by
  obtain ⟨-, -, -, -, plugin, -, rfl⟩ := newEntry_accepted accepted
  rfl

theorem register_rejected {cls : AgentClass} {pluginMeta : Option Plugin} {override : Bool}
    {e : Error} (rejected : newEntry specs s cls pluginMeta override = .error e) :
    register specs cls pluginMeta override s = (.error e, s) := by
  simp only [register, unsafeRegister, bind, get, getThe, MonadStateOf.get, rejected]
  rfl

theorem addDependents_eq (agentType : String) (ends : Except Exn Unit) (depTypes : List DepType) :
    addDependents agentType ends depTypes s = ((ending ends depTypes).mapError .builtin, { s with
      reverseDependencies := (added depTypes).foldl (addDependent agentType) s.reverseDependencies }) := by
  induction depTypes generalizing s with
  | nil => cases ends <;> rfl
  | cons first rest ih =>
    cases first with
    | unhashable typeName => rfl
    | name depType => exact ih _

theorem updateDependencyGraph_eq (cls : AgentClass) : updateDependencyGraph cls s =
    (cls.reading.mapError .builtin, { s with
      reverseDependencies := cls.declared.foldl (addDependent cls.name) s.reverseDependencies }) := by
  rw [updateDependencyGraph, AgentClass.reading, AgentClass.declared]
  cases cls.dependencies with
  | error e => rfl
  | ok dependencies => exact addDependents_eq s cls.name dependencies.ends dependencies.depTypes

theorem register_accepted {cls : AgentClass} {pluginMeta : Option Plugin} {override : Bool}
    {entry : RegistryEntry Plugin}
    (accepted : newEntry specs s cls pluginMeta override = .ok entry) :
    register specs cls pluginMeta override s =
      ((cls.reading.mapError .builtin).map fun _ => cls, s.withEntry entry) := by
  have same := newEntry_cls accepted
  subst same
  have updated := updateDependencyGraph_eq
    { s with registry := s.registry.set entry.cls.name entry } entry.cls
  simp only [register, unsafeRegister, bind, get, getThe, MonadStateOf.get, accepted]
  simp only [lift, pure, set, MonadStateOf.set, updated]
  cases entry.cls.reading <;> rfl

theorem unregister_eq (agentType : String) : unregister order agentType s =
    if ¬ (s.registry.get? agentType).isSome then
      (.error (.registrationError ("Agent " ++ agentType ++ " not registered")), s)
    else if s.dependents agentType ≠ [] then
      (.error (.dependencyConflictError ("Cannot unregister " ++ agentType ++ " - required by " ++
        order.text (s.dependents agentType))), s)
    else (.ok (), s.without agentType) := by
  simp only [unregister, bind, get, getThe, MonadStateOf.get]
  split
  · rfl
  · split <;> rfl

theorem unregister_removable {agentType : String} (removable : s.Removable agentType) :
    unregister order agentType s = (.ok (), s.without agentType) := by
  obtain ⟨registered, free⟩ := removable
  rw [unregister_eq, if_neg (not_not.mpr registered), if_neg (not_not.mpr free)]

theorem unregister_kept {agentType : String} (kept : ¬ s.Removable agentType) :
    ∃ e, unregister order agentType s = (.error e, s) := by
  rw [unregister_eq]
  by_cases absent : ¬ (s.registry.get? agentType).isSome
  · exact ⟨_, if_pos absent⟩
  · have needed : s.dependents agentType ≠ [] :=
      fun free => kept ⟨not_not.mp absent, free⟩
    exact ⟨_, by rw [if_neg absent, if_pos needed]⟩

theorem unregister_conflict_iff {agentType : String}
    (registered : (s.registry.get? agentType).isSome) :
    (∃ text, (unregister order agentType s).1 = .error (.dependencyConflictError text)) ↔
      s.dependents agentType ≠ [] := by
  rw [unregister_eq, if_neg (not_not.mpr registered)]
  by_cases needed : s.dependents agentType ≠ []
  · rw [if_pos needed]
    exact iff_of_true ⟨_, rfl⟩ needed
  · rw [if_neg needed]
    exact iff_of_false (by simp) needed

theorem register_state (cls : AgentClass) (pluginMeta : Option Plugin) (override : Bool) :
    (register specs cls pluginMeta override s).2 =
      after specs order s (.register cls pluginMeta override) := by
  simp only [after, Call.perform, bind]
  cases register specs cls pluginMeta override s with
  | mk result t => cases result <;> rfl

theorem after_register_cases (cls : AgentClass) (pluginMeta : Option Plugin) (override : Bool) :
    ((¬ ∃ entry, newEntry specs s cls pluginMeta override = .ok entry) ∧
      after specs order s (.register cls pluginMeta override) = s) ∨
    ∃ entry, newEntry specs s cls pluginMeta override = .ok entry ∧ entry.cls = cls ∧
      after specs order s (.register cls pluginMeta override) = s.withEntry entry := by
  rw [← register_state]
  cases made : newEntry specs s cls pluginMeta override with
  | error e =>
    refine .inl ⟨?_, by rw [register_rejected s specs made]⟩
    rintro ⟨entry, accepted⟩
    cases accepted
  | ok entry => exact .inr ⟨entry, rfl, newEntry_cls made, by rw [register_accepted s specs made]⟩

/-- A call leaves the registry alone, stores an accepted entry or removes a type
that nothing is recorded to depend on. -/
theorem after_cases (call : Call Plugin) :
    after specs order s call = s ∨
      (∃ entry, after specs order s call = s.withEntry entry) ∨
      ∃ t, s.Removable t ∧ after specs order s call = s.without t := by
  cases call with
  | register cls pluginMeta override =>
    rcases after_register_cases s specs order cls pluginMeta override with
      ⟨_, same⟩ | ⟨entry, _, _, stored⟩
    · exact .inl same
    · exact .inr (.inl ⟨entry, stored⟩)
  | unregister t =>
    by_cases removable : s.Removable t
    · exact .inr (.inr ⟨t, removable,
        congrArg Prod.snd (unregister_removable s order removable)⟩)
    · obtain ⟨e, kept⟩ := unregister_kept s order removable
      exact .inl (congrArg Prod.snd kept)

end Effects

section Dependencies

/-- Every registered class is stored under its name, and every dependency that it
declares knows of it. -/
structure Tracked (s : AgentRegistry Plugin) : Prop where
  named : ∀ t entry, s.registry.get? t = some entry → entry.cls.name = t
  recorded : ∀ t entry, s.registry.get? t = some entry →
    ∀ d ∈ entry.cls.declared, t ∈ s.dependents d

theorem tracked_init : Tracked (AgentRegistry.init : AgentRegistry Plugin) where
  named := fun _ _ stored => nomatch stored
  recorded := fun _ _ stored => nomatch stored

theorem tracked_withEntry {s : AgentRegistry Plugin} (tracked : Tracked s)
    (entry : RegistryEntry Plugin) : Tracked (s.withEntry entry) := by
  have stored : ∀ t found, (s.withEntry entry).registry.get? t = some found →
      t = entry.cls.name ∧ found = entry ∨ s.registry.get? t = some found := by
    intro t found stored
    rw [AgentRegistry.withEntry, Dict.get?_set] at stored
    split at stored
    · exact .inl ⟨‹_›, (Option.some.inj stored).symm⟩
    · exact .inr stored
  constructor
  · intro t found isStored
    rcases stored t found isStored with ⟨rfl, rfl⟩ | old
    · rfl
    · exact tracked.named t found old
  · intro t found isStored d declares
    rw [mem_dependents_withEntry]
    rcases stored t found isStored with ⟨rfl, rfl⟩ | old
    · exact .inr ⟨rfl, declares⟩
    · exact .inl (tracked.recorded t found old d declares)

theorem get?_without {s : AgentRegistry Plugin} {t u : String} {entry : RegistryEntry Plugin}
    (stored : (s.without u).registry.get? t = some entry) :
    t ≠ u ∧ s.registry.get? t = some entry := by
  rw [AgentRegistry.without, Dict.get?_erase] at stored
  split at stored
  · cases stored
  · exact ⟨‹_›, stored⟩

theorem tracked_without {s : AgentRegistry Plugin} (tracked : Tracked s) (u : String) :
    Tracked (s.without u) where
  named := fun t entry stored => tracked.named t entry (get?_without stored).2
  recorded := fun t entry stored => tracked.recorded t entry (get?_without stored).2

variable (specs : PluginSpecs Plugin) (order : SetOrder)

theorem tracked_after (s : AgentRegistry Plugin) (call : Call Plugin) (tracked : Tracked s) :
    Tracked (after specs order s call) := by
  rcases after_cases s specs order call with same | ⟨entry, same⟩ | ⟨t, _, same⟩
  · rw [same]
    exact tracked
  · rw [same]
    exact tracked_withEntry tracked entry
  · rw [same]
    exact tracked_without tracked t

theorem tracked_run (calls : List (Call Plugin)) : Tracked (run specs order .init calls) :=
  Runs.invariant (tracked_after specs order) .init calls tracked_init

theorem free_of_removable {s : AgentRegistry Plugin} (tracked : Tracked s) {x : String}
    (removable : s.Removable x) {t : String} {entry : RegistryEntry Plugin}
    (stored : s.registry.get? t = some entry) : x ∉ entry.cls.declared := by
  intro declares
  have dependent := tracked.recorded t entry stored x declares
  rw [removable.2] at dependent
  exact List.not_mem_nil dependent

theorem dependency_kept {s : AgentRegistry Plugin} (tracked : Tracked s) (call : Call Plugin)
    {t d : String} {entry : RegistryEntry Plugin} (stored : s.registry.get? t = some entry)
    (declares : d ∈ entry.cls.declared) (present : (s.registry.get? d).isSome) :
    ((after specs order s call).registry.get? d).isSome := by
  rcases after_cases s specs order call with same | ⟨new, same⟩ | ⟨x, removable, same⟩
  · rw [same]
    exact present
  · rw [same, AgentRegistry.withEntry, Dict.get?_set]
    split
    · rfl
    · exact present
  · have other : d ≠ x := by
      rintro rfl
      exact free_of_removable tracked removable stored declares
    rw [same, AgentRegistry.without, Dict.get?_erase, if_neg other]
    exact present

def AgentRegistry.Holds (s : AgentRegistry Plugin) (t : String) (cls : AgentClass) : Prop :=
  ∃ entry, s.registry.get? t = some entry ∧ entry.cls = cls

theorem dependency_stays {s : AgentRegistry Plugin} (tracked : Tracked s) {t d : String}
    {cls : AgentClass} (declares : d ∈ cls.declared) (present : (s.registry.get? d).isSome)
    (calls : List (Call Plugin))
    (holds : Runs.Always (after specs order) (fun s => s.Holds t cls) s calls) :
    ((run specs order s calls).registry.get? d).isSome := by
  induction calls generalizing s with
  | nil => exact present
  | cons call rest ih =>
    obtain ⟨now, later⟩ := Runs.always_cons.mp holds
    obtain ⟨entry, stored, rfl⟩ := now
    exact ih (tracked_after specs order s call tracked)
      (dependency_kept specs order tracked call stored declares present) later

/-- A removal that succeeds breaks no declared dependency, and a declared
dependency that is registered stays so while the declaring class does. -/
theorem dependencies_unbroken (calls : List (Call Plugin)) :
    (∀ x s, unregister order x (run specs order .init calls) = (.ok (), s) →
      ∀ t entry, s.registry.get? t = some entry → x ∉ entry.cls.declared) ∧
    ∀ t d cls later, d ∈ cls.declared →
      ((run specs order .init calls).registry.get? d).isSome →
      Runs.Always (after specs order) (fun s => s.Holds t cls) (run specs order .init calls) later →
      ((run specs order .init (calls ++ later)).registry.get? d).isSome := by
  have tracked := tracked_run specs order calls
  constructor
  · intro x s removed t entry stored
    by_cases removable : (run specs order .init calls).Removable x
    · rw [unregister_removable _ order removable] at removed
      cases removed
      exact free_of_removable tracked removable (get?_without stored).2
    · obtain ⟨e, kept⟩ := unregister_kept _ order removable
      rw [kept] at removed
      cases removed
  · intro t d cls later declares present holds
    rw [run, Runs.run_append]
    exact dependency_stays specs order tracked declares present later holds

end Dependencies

section Refusals

variable (order : SetOrder)

def AgentRegistry.DeclaredBeside (s : AgentRegistry Plugin) (t d : String) : Prop :=
  ∃ u entry, u ≠ t ∧ s.registry.get? u = some entry ∧ d ∈ entry.cls.declared

/-- A registered type is refused removal for its dependents only when the class
registered under some type declares it. -/
def Justified (s : AgentRegistry Plugin) : Prop :=
  ∀ x, (s.registry.get? x).isSome →
    (∃ text, (unregister order x s).1 = .error (.dependencyConflictError text)) →
      ∃ t entry, s.registry.get? t = some entry ∧ x ∈ entry.cls.declared

theorem justified_iff (s : AgentRegistry Plugin) : Justified order s ↔
    ∀ x, (s.registry.get? x).isSome → s.dependents x ≠ [] →
      ∃ t entry, s.registry.get? t = some entry ∧ x ∈ entry.cls.declared := by
  constructor
  · intro justified x registered needed
    exact justified x registered ((unregister_conflict_iff s order registered).mpr needed)
  · intro declared x registered refused
    exact declared x registered ((unregister_conflict_iff s order registered).mp refused)

theorem dependents_ne_nil {s : AgentRegistry Plugin} {t d : String} (dependent : t ∈ s.dependents d) :
    s.dependents d ≠ [] :=
  List.ne_nil_of_mem dependent

def AgentRegistry.Covered (s : AgentRegistry Plugin) (t : String) (elsewhere : List String) : Prop :=
  ∀ old, s.registry.get? t = some old → ∀ d ∈ old.cls.declared, (s.registry.get? d).isSome →
    d ∈ elsewhere ∨ s.DeclaredBeside t d

/-- No accepted call takes a registered type its last declarer, and none registers
a type whose recorded dependents have all gone. -/
def Clean (specs : PluginSpecs Plugin) (s : AgentRegistry Plugin) : Call Plugin → Prop
  | .register cls pluginMeta override =>
    (∃ entry, newEntry specs s cls pluginMeta override = .ok entry) →
      s.Covered cls.name cls.declared ∧
      (s.registry.get? cls.name = none → s.dependents cls.name ≠ [] →
        cls.name ∈ cls.declared ∨ s.DeclaredBeside cls.name cls.name)
  | .unregister t => s.Removable t → s.Covered t []

theorem declarer_withEntry (s : AgentRegistry Plugin) (new : RegistryEntry Plugin) (x : String) :
    (∃ t entry, (s.withEntry new).registry.get? t = some entry ∧ x ∈ entry.cls.declared) ↔
      x ∈ new.cls.declared ∨ s.DeclaredBeside new.cls.name x := by
  constructor
  · rintro ⟨t, entry, stored, declares⟩
    rw [AgentRegistry.withEntry, Dict.get?_set] at stored
    split at stored
    · cases stored
      exact .inl declares
    · exact .inr ⟨t, entry, ‹_›, stored, declares⟩
  · rintro (declares | ⟨t, entry, other, stored, declares⟩)
    · exact ⟨new.cls.name, new, Dict.get?_set_same _ _ _, declares⟩
    · exact ⟨t, entry, (Dict.get?_set_other _ _ other).trans stored, declares⟩

theorem declarer_without (s : AgentRegistry Plugin) (t x : String) :
    (∃ u entry, (s.without t).registry.get? u = some entry ∧ x ∈ entry.cls.declared) ↔
      s.DeclaredBeside t x := by
  constructor
  · rintro ⟨u, entry, stored, declares⟩
    obtain ⟨other, stored⟩ := get?_without stored
    exact ⟨u, entry, other, stored, declares⟩
  · rintro ⟨u, entry, other, stored, declares⟩
    refine ⟨u, entry, ?_, declares⟩
    rw [AgentRegistry.without, Dict.get?_erase, if_neg other]
    exact stored

theorem declared_cases {s : AgentRegistry Plugin} {x : String} (t : String)
    (declared : ∃ u entry, s.registry.get? u = some entry ∧ x ∈ entry.cls.declared) :
    (∃ old, s.registry.get? t = some old ∧ x ∈ old.cls.declared) ∨ s.DeclaredBeside t x := by
  obtain ⟨u, entry, stored, declares⟩ := declared
  by_cases same : u = t
  · exact .inl ⟨entry, same ▸ stored, declares⟩
  · exact .inr ⟨u, entry, same, stored, declares⟩

theorem justified_withEntry {s : AgentRegistry Plugin} (tracked : Tracked s)
    (justified : Justified order s) (new : RegistryEntry Plugin) :
    Justified order (s.withEntry new) ↔
      s.Covered new.cls.name new.cls.declared ∧
      (s.registry.get? new.cls.name = none → s.dependents new.cls.name ≠ [] →
        new.cls.name ∈ new.cls.declared ∨ s.DeclaredBeside new.cls.name new.cls.name) := by
  rw [justified_iff] at justified ⊢
  simp only [declarer_withEntry]
  have needed : ∀ {x t}, t ∈ s.dependents x → (s.withEntry new).dependents x ≠ [] :=
    fun dependent => dependents_ne_nil ((mem_dependents_withEntry s new _ _).mpr (.inl dependent))
  have registered : ∀ x, ((s.withEntry new).registry.get? x).isSome ↔
      x = new.cls.name ∨ (s.registry.get? x).isSome := by
    intro x
    rw [AgentRegistry.withEntry, Dict.get?_set]
    by_cases same : x = new.cls.name <;> simp [same]
  constructor
  · intro next
    constructor
    · intro old stored d declares present
      exact next d ((registered d).mpr (.inr present)) (needed (tracked.recorded _ old stored d declares))
    · intro _ recorded
      obtain ⟨t, dependent⟩ := List.exists_mem_of_ne_nil _ recorded
      exact next _ ((registered _).mpr (.inl rfl)) (needed dependent)
  · rintro ⟨covered, fresh⟩ x present recorded
    by_cases declares : x ∈ new.cls.declared
    · exact .inl declares
    have before : s.dependents x ≠ [] := by
      obtain ⟨t, dependent⟩ := List.exists_mem_of_ne_nil _ recorded
      rcases (mem_dependents_withEntry s new x t).mp dependent with old | ⟨_, added⟩
      · exact dependents_ne_nil old
      · exact absurd added declares
    by_cases known : (s.registry.get? x).isSome
    · rcases declared_cases new.cls.name (justified x known before) with ⟨old, stored, was⟩ | beside
      · exact covered old stored x was known
      · exact .inr beside
    · have same : x = new.cls.name := ((registered x).mp present).resolve_right known
      subst same
      exact fresh (Option.not_isSome_iff_eq_none.mp known) before

theorem justified_without {s : AgentRegistry Plugin} (tracked : Tracked s)
    (justified : Justified order s) {t : String} (removable : s.Removable t) :
    Justified order (s.without t) ↔ s.Covered t [] := by
  rw [justified_iff] at justified ⊢
  simp only [declarer_without, dependents_without]
  have registered : ∀ x, ((s.without t).registry.get? x).isSome ↔
      x ≠ t ∧ (s.registry.get? x).isSome := by
    intro x
    rw [AgentRegistry.without, Dict.get?_erase]
    by_cases same : x = t <;> simp [same]
  constructor
  · intro next old stored d declares present
    have other : d ≠ t := by
      rintro rfl
      exact free_of_removable tracked removable stored declares
    exact .inr (next d ((registered d).mpr ⟨other, present⟩)
      (dependents_ne_nil (tracked.recorded t old stored d declares)))
  · intro covered x present recorded
    obtain ⟨_, present⟩ := (registered x).mp present
    rcases declared_cases t (justified x present recorded) with ⟨old, stored, declares⟩ | beside
    · exact (covered old stored x declares present).resolve_left List.not_mem_nil
    · exact beside

variable (specs : PluginSpecs Plugin)

theorem justified_after {s : AgentRegistry Plugin} (tracked : Tracked s)
    (justified : Justified order s) (call : Call Plugin) :
    Justified order (after specs order s call) ↔ Clean specs s call := by
  cases call with
  | register cls pluginMeta override =>
    rcases after_register_cases s specs order cls pluginMeta override with
      ⟨rejected, same⟩ | ⟨entry, made, rfl, stored⟩
    · rw [same]
      exact iff_of_true justified fun accepted => absurd accepted rejected
    · rw [stored]
      exact (justified_withEntry order tracked justified entry).trans
        ⟨fun clean _ => clean, fun clean => clean ⟨entry, made⟩⟩
  | unregister t =>
    by_cases removable : s.Removable t
    · have removed : after specs order s (.unregister t) = s.without t :=
        congrArg Prod.snd (unregister_removable s order removable)
      rw [removed]
      exact (justified_without order tracked justified removable).trans
        ⟨fun clean _ => clean, fun clean => clean removable⟩
    · obtain ⟨e, kept⟩ := unregister_kept s order removable
      have same : after specs order s (.unregister t) = s := congrArg Prod.snd kept
      rw [same]
      exact iff_of_true justified (fun absurd_ => absurd absurd_ removable)

theorem justified_init : Justified order (AgentRegistry.init : AgentRegistry Plugin) :=
  fun _ registered => nomatch registered

/-- Refusals stay justified all through a run exactly when each of its calls is
clean in the state in which it is made. -/
theorem refusals_justified_iff (calls : List (Call Plugin)) :
    Runs.Always (after specs order) (Justified order) .init calls ↔
      Runs.Each (after specs order) (Clean specs) .init calls :=
  Runs.always_iff_each (tracked_after specs order)
    (fun _ call tracked justified => justified_after order specs tracked justified call)
    .init calls tracked_init (justified_init order)

def unitSpecs : PluginSpecs Unit := ⟨fun _ => true, .ok ()⟩

def agentClass (name : String) (dependencies : Dict String String) : AgentClass :=
  { name, text := "<class '" ++ name ++ "'>", isClass := true, isAgent := true, isBase := false
    configModel := .ok .model
    dependencies := .ok ⟨dependencies.values.map .name, .ok ()⟩ }

def storage : Call Unit := .register (agentClass "Storage" Dict.empty) none false

def reporter : Call Unit :=
  .register (agentClass "Reporter" (Dict.empty.set "storage" "Storage")) none false

/-- The reporter has been removed before its dependency is, and no class that
declares the storage is left. -/
theorem removed_dependent_refuses :
    ¬ Justified .asListed
      (run unitSpecs .asListed .init [storage, reporter, .unregister "Reporter"]) := by
  have left : (run unitSpecs .asListed .init
      [storage, reporter, .unregister "Reporter"]).registry.entries =
        [("Storage", ⟨agentClass "Storage" Dict.empty, ()⟩)] := by rfl
  intro justified
  obtain ⟨t, entry, stored, declares⟩ := justified "Storage" (by decide +kernel) ⟨_, rfl⟩
  rw [Dict.get?, left] at stored
  by_cases same : t = "Storage"
  · subst same
    cases stored
    exact List.not_mem_nil declares
  · rw [Dict.lookup_cons_other same] at stored
    cases stored

end Refusals

end KuvaAI.Registry
