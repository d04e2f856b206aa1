import KuvaAI.Agent.Factory

/-! Runs of the agent factory. The recursive call of `create` passes a dictionary to
the memo and the edges of an agent go to a function of one dependency, so that no
call returns and nothing is ever cached. -/
namespace KuvaAI.Factory
open Python Effect

variable {Obj : Type} (objects : Objects Obj)

structure Idle (s : AgentFactory Obj) : Prop where
  cache : ∀ name, s.cache.get? name = none
  memo : s.memo = []

abbrev Raises {α : Type} (x : Action Obj α) : Prop :=
  Triple Idle x (fun _ _ => False) (fun _ => Idle)

abbrev Keeps {α : Type} (x : Action Obj α) : Prop := Triple Idle x (fun _ => Idle) (fun _ => Idle)

theorem keeps_lift {α : Type} (result : Except Exn α) : Keeps (lift result : Action Obj α) := by
  cases result with
  | ok a => exact fun _ idle => idle
  | error e => exact fun _ idle => idle

theorem keeps_resolveConfig (agentType : String) (configSource : Option Obj) :
    Keeps (resolveConfig objects agentType configSource) := by
  intro s idle
  rw [resolveConfig, wp_bind, wp_get, wp_bind]
  apply wp_mono (keeps_lift _ s idle)
  · intro data t idle
    cases s.registry.get? agentType with
    | none => exact idle
    | some cls =>
      simp only
      split
      · exact idle
      · split
        · exact idle
        · exact idle
  · exact fun _ _ idle => idle

theorem keeps_registeredClass (agentType : String) :
    Keeps (registeredClass agentType : Action Obj (AgentClass Obj)) := by
  intro s idle
  rw [registeredClass, wp_bind, wp_get]
  cases s.registry.get? agentType with
  | none => exact idle
  | some cls => exact idle

section Resolution

variable {create : CreateCall Obj → Action Obj Agent} (raises : ∀ call, Raises (create call))

include raises

theorem resolveDependency_raises (context config : Obj) (depName depType : String) :
    Raises (resolveDependency objects create context config depName depType) := by
  refine @Triple.tryCatch _ _ _ _ _ _ (fun _ => Idle) _ _ ?_ fun _ _ idle => idle
  intro s idle
  have missing : (if s.config.cacheEnabled then s.cache.get? depName else none) = none := by
    rw [idle.cache, ite_self]
  rw [wp_bind, wp_get, missing]
  apply (Triple.bind (keeps_lift _) fun source => ?_) s idle
  apply (keeps_resolveConfig objects depType (some source)).bind
  intro depConfig
  apply (raises _).bind
  intro agent _ impossible
  exact impossible.elim

theorem resolveEach_spec (context config : Obj) (deps : List (String × String)) :
    Triple Idle (resolveEach objects create context config deps)
      (fun agents t => agents = [] ∧ Idle t) (fun _ => Idle) := by
  cases deps with
  | nil => exact fun s idle => ⟨rfl, idle⟩
  | cons dep rest =>
    apply (resolveDependency_raises objects raises context config dep.1 dep.2).bind
    intro agent _ impossible
    exact impossible.elim

theorem resolveDependencies_spec (agentType : String) (context config : Obj) :
    Triple Idle (resolveDependencies objects create agentType context config)
      (fun agents t => agents = [] ∧ Idle t) (fun _ => Idle) := by
  apply (keeps_registeredClass agentType).bind
  intro cls
  apply (keeps_lift cls.dependencies).bind
  intro dependencies
  exact resolveEach_spec objects raises context config dependencies.entries

theorem createAgent_raises (call : CreateCall Obj) (own : call.dependencies = none) :
    Raises (createAgent objects create call) := by
  have configured : Keeps (finalConfig objects call) := by
    rw [finalConfig]
    split
    · exact fun _ idle => idle
    · exact keeps_resolveConfig objects call.agentType call.configSource
  apply configured.bind
  intro config
  rw [resolvedDeps, own]
  apply (resolveDependencies_spec objects raises call.agentType call.context config).bind
  rintro deps s ⟨rfl, idle⟩
  apply ((keeps_registeredClass call.agentType).bind fun cls => ?_) s idle
  apply (keeps_lift _).bind
  exact fun _ _ idle => idle

end Resolution

variable [DecidableEq Obj]

omit [DecidableEq Obj] in
theorem own_of_hashable {call : CreateCall Obj} (hashed : unhashable objects call = none) :
    call.dependencies = none := by
  rw [unhashable] at hashed
  split at hashed
  · cases hashed
  · exact Option.map_eq_none_iff.mp hashed

theorem memoised_raises {body : CreateCall Obj → Action Obj Agent}
    (raises : ∀ call, call.dependencies = none → Raises (body call)) (call : CreateCall Obj) :
    Raises (memoised objects body call) := by
  rw [memoised]
  cases hashed : unhashable objects call with
  | some typeName => exact fun _ idle => idle
  | none =>
    intro s idle
    rw [wp_bind, wp_get, idle.memo]
    apply ((raises call (own_of_hashable objects hashed)).bind fun agent => ?_) s idle
    exact fun _ impossible => impossible.elim

theorem create_raises (depth : Nat) (call : CreateCall Obj) :
    Raises (create objects depth call) := by
  induction depth generalizing call with
  | zero => exact fun _ idle => idle
  | succ depth ih =>
    apply memoised_raises
    intro call own
    exact Triple.tryCatch (createAgent_raises objects ih call own) fun _ _ idle => idle

omit [DecidableEq Obj] in
theorem idle_init (config : FactoryConfig) : Idle (AgentFactory.init config : AgentFactory Obj) :=
  ⟨fun _ => rfl, rfl⟩

theorem idle_after (depth : Nat) (s : AgentFactory Obj) (call : Call Obj) (idle : Idle s) :
    Idle (after objects depth s call) := by
  have keeps : Keeps (call.perform objects depth) := by
    cases call with
    | configure config loaders => exact fun _ idle => ⟨idle.cache, idle.memo⟩
    | register cls => exact Triple.ite (fun _ idle => ⟨idle.cache, idle.memo⟩) fun _ idle => idle
    | invalidateCache agentName =>
      cases agentName with
      | none => exact fun _ idle => ⟨fun _ => rfl, idle.memo⟩
      | some agentName =>
        refine fun s idle => ⟨fun name => ?_, idle.memo⟩
        rw [Dict.get?_erase, idle.cache, ite_self]
    | create call =>
      apply (create_raises objects depth call).bind
      exact fun _ _ impossible => impossible.elim
  have kept := keeps s idle
  rwa [wp_state] at kept

def CreatesAgent (depth : Nat) (s : AgentFactory Obj) (call : CreateCall Obj) : Prop :=
  ∃ agent t cls declared, create objects depth call s = (.ok agent, t) ∧
    s.registry.get? call.agentType = some cls ∧ cls.dependencies = .ok declared ∧
    agent.cls = cls.name ∧
    (∀ name, name ∈ agent.dependencies.map Prod.fst ↔ name ∈ declared.keys) ∧
    (∀ name dep, (name, dep) ∈ agent.dependencies → declared.get? name = some dep.cls) ∧
    ∀ name, name ∈ t.dependencyGraph.getDependencies call.agentType ↔ name ∈ declared.keys

/-- No call of `create` keeps the promise, whatever the factory has been through. -/
theorem never_creates (depth : Nat) (config : FactoryConfig) (calls : List (Call Obj))
    (call : CreateCall Obj) :
    ¬ CreatesAgent objects depth (Runs.run (after objects depth) (.init config) calls) call := by
  rintro ⟨agent, t, cls, declared, returned, _⟩
  have idle := Runs.invariant (idle_after objects depth) (.init config) calls (idle_init config)
  obtain ⟨e, u, raised, _⟩ := exists_of_wp_error (create_raises objects depth call _ idle)
  rw [raised] at returned
  cases returned

/-- The factory's users keep to their part: registered types depend on registered
types without a cycle, configurations are valid and constructors succeed. -/
structure Ready (s : AgentFactory Obj) : Prop where
  declared : ∀ t cls, s.registry.get? t = some cls → ∃ deps, cls.dependencies = .ok deps ∧
    ∀ name dep, deps.get? name = some dep → (s.registry.get? dep).isSome
  acyclic : Acyclic fun a b => ∃ cls deps name, s.registry.get? a = some cls ∧
    cls.dependencies = .ok deps ∧ deps.get? name = some b
  configured : ∀ t cls source, s.registry.get? t = some cls →
    ∃ config, resolveConfig objects t source s = (.ok config, s) ∧
      ∀ deps name, cls.dependencies = .ok deps → name ∈ deps.keys →
        ∃ source, objects.configDependency config name = .ok source
  constructed : ∀ t cls config context deps, s.registry.get? t = some cls →
    cls.construct config context deps = .ok ()

def unitObjects : Objects Unit := ⟨fun _ => "object", fun _ => true, fun _ => true, fun _ _ => .ok ()⟩

def greeter : AgentClass Unit :=
  ⟨"Greeter", true, .ok Dict.empty, fun _ => .ok (), fun _ _ _ => .ok ()⟩

def greeterFactory : AgentFactory Unit :=
  Runs.run (after unitObjects 1000) (.init ⟨true, true, []⟩) [.register greeter]

theorem greeter_registered {t : String} {cls : AgentClass Unit}
    (found : greeterFactory.registry.get? t = some cls) : t = "Greeter" ∧ cls = greeter := by
  have registry : greeterFactory.registry = Dict.empty.set "Greeter" greeter := rfl
  rw [registry, Dict.get?_set] at found
  split at found
  · exact ⟨‹_›, (Option.some.inj found).symm⟩
  · cases found

theorem greeter_ready : Ready unitObjects greeterFactory where
  declared := by
    intro t cls found
    obtain ⟨_, rfl⟩ := greeter_registered found
    exact ⟨Dict.empty, rfl, fun _ _ isDep => nomatch isDep⟩
  acyclic := by
    intro a cycle
    obtain ⟨_, ⟨cls, deps, name, found, isDeps, isDep⟩, _⟩ :=
      Relation.TransGen.head'_iff.mp cycle
    obtain ⟨_, rfl⟩ := greeter_registered found
    cases isDeps
    cases isDep
  configured := by
    intro t cls source found
    obtain ⟨rfl, rfl⟩ := greeter_registered found
    refine ⟨(), ?_, fun _ _ _ _ => ⟨(), rfl⟩⟩
    cases source <;> rfl
  constructed := by
    intro t cls config context deps found
    obtain ⟨_, rfl⟩ := greeter_registered found
    rfl

theorem greeter_not_created : Ready unitObjects greeterFactory ∧
    (create unitObjects 1000 ⟨"Greeter", (), none, none, none⟩ greeterFactory).1 =
      .error (.builtin ⟨.runtimeError, "Factory system error: DependencyGraph.add_dependency() " ++
        "missing 1 required positional argument: 'dependency'"⟩) ∧
    ¬ CreatesAgent unitObjects 1000 greeterFactory ⟨"Greeter", (), none, none, none⟩ := by
  have raised : (create unitObjects 1000 ⟨"Greeter", (), none, none, none⟩ greeterFactory).1 =
      .error (.builtin ⟨.runtimeError, "Factory system error: DependencyGraph.add_dependency() " ++
        "missing 1 required positional argument: 'dependency'"⟩) := by rfl
  refine ⟨greeter_ready, raised, ?_⟩
  rintro ⟨agent, t, cls, declared, returned, _⟩
  rw [returned] at raised
  cases raised

end KuvaAI.Factory
