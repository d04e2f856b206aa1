import KuvaAI.Topology.Balancing

/-! The failover of a node on its own. Its agents are offered to the node with the least
load, which no migration changes, which may be the failed node itself and which may
refuse: an agent that is refused is not offered again. -/
namespace KuvaAI.Topology
open Python Coroutine

section Target

theorem leastBy_figures {key : NodeState → Flt}
    (figures : ∀ a b : NodeState, a.resources = b.resources → key a = key b)
    (best best' : NodeState) (states states' : List NodeState)
    (same : (best.nodeId, best.resources) = (best'.nodeId, best'.resources))
    (rest : states.map (fun a => (a.nodeId, a.resources)) =
      states'.map fun a => (a.nodeId, a.resources)) :
    (leastBy key best states).nodeId = (leastBy key best' states').nodeId := by
  induction states generalizing best best' states' with
  | nil =>
    cases states' with
    | nil => exact (Prod.mk.inj same).1
    | cons _ _ => cases rest
  | cons state states ih =>
    cases states' with
    | nil => cases rest
    | cons state' states' =>
      obtain ⟨head, tail⟩ := List.cons.inj rest
      rw [leastBy, leastBy, figures best best' (Prod.mk.inj same).2,
        figures state state' (Prod.mk.inj head).2]
      split
      · exact ih state state' states' head tail
      · exact ih best best' states' same tail

theorem mem_leastBy (key : NodeState → Flt) (best : NodeState) (states : List NodeState) :
    leastBy key best states ∈ best :: states := by
  induction states generalizing best with
  | nil => exact List.mem_cons_self
  | cons state rest ih =>
    rw [leastBy]
    split
    · exact List.mem_cons_of_mem _ (ih state)
    · rcases List.mem_cons.mp (ih best) with here | later
      · rw [here]
        exact List.mem_cons_self
      · exact List.mem_cons_of_mem _ (List.mem_cons_of_mem _ later)

def NetworkTopology.leastLoaded (t : NetworkTopology) : Option NodeId :=
  match t.nodeStates.values with
  | [] => none
  | state :: rest => some (leastBy (fun state => state.resource "cpu") state rest).nodeId

theorem leastLoaded_of_profile {s t : NetworkTopology} (same : s.profile = t.profile) :
    s.leastLoaded = t.leastLoaded := by
  have figures : s.nodeStates.values.map (fun a => (a.nodeId, a.resources)) =
      t.nodeStates.values.map fun a => (a.nodeId, a.resources) := by
    simpa [NetworkTopology.profile, Dict.values, Function.comp_def] using
      congrArg (List.map Prod.snd) same
  rw [NetworkTopology.leastLoaded, NetworkTopology.leastLoaded]
  revert figures
  cases s.nodeStates.values with
  | nil =>
    cases t.nodeStates.values with
    | nil => exact fun _ => rfl
    | cons _ _ => simp
  | cons state rest =>
    cases t.nodeStates.values with
    | nil => simp
    | cons state' rest' =>
      intro figures
      obtain ⟨head, tail⟩ := List.cons.inj figures
      refine congrArg some (leastBy_figures (fun a b same => ?_) state state' rest rest' head tail)
      rw [NodeState.resource, NodeState.resource, same]

theorem leastLoaded_known {t : NetworkTopology} {target : NodeId}
    (least : t.leastLoaded = some target) : target ∈ t.nodeStates.keys := by
  rw [NetworkTopology.leastLoaded] at least
  split at least
  · cases least
  · rename_i state rest values
    cases least
    have member := mem_leastBy (fun state => state.resource "cpu") state rest
    rw [← values] at member
    obtain ⟨e, entry, same⟩ := List.mem_map.mp member
    rw [← same, t.keyed e.1 e.2 (Dict.get?_of_mem entry)]
    exact List.mem_map.mpr ⟨e, entry, rfl⟩

theorem leastLoaded_of_known {t : NetworkTopology} {node : NodeId} (known : node ∈ t.nodeStates.keys) :
    ∃ target, t.leastLoaded = some target := by
  obtain ⟨state, found⟩ := (Dict.mem_keys_iff _ _).mp known
  have member := Dict.mem_values_of_get? found
  rw [NetworkTopology.leastLoaded]
  split
  · rename_i none
    rw [none] at member
    exact (List.not_mem_nil member).elim
  · exact ⟨_, rfl⟩

theorem ends_findOptimalNode {answer : Nat → (call : Call) → Answer call} {w : Alone}
    {post : NodeId → Alone → Prop} {exn : Interrupt → Alone → Prop} {target : NodeId}
    (least : w.state.leastLoaded = some target) (found : post target w) (agent : AgentId) :
    ends answer post exn (findOptimalNode agent "cpu") w := by
  rw [NetworkTopology.leastLoaded] at least
  rw [findOptimalNode, ends_bind, ends_get, ends_bind]
  revert least
  cases w.state.nodeStates.values with
  | nil => exact fun least => nomatch least
  | cons state rest =>
    intro least
    cases least
    exact found

end Target

structure Failing (t : NetworkTopology) (failed target : NodeId) (v : Alone) : Prop where
  profile : v.state.profile = t.profile
  placed : v.state.Placed
  offered : ∀ agent, t.On agent failed → ∀ node, v.state.On agent node ↔
    Accepted v.told agent ∧ node = target ∨ ¬ Accepted v.told agent ∧ node = failed
  others : ∀ agent, ¬ t.On agent failed → ∀ node, v.state.On agent node ↔ t.On agent node

section Loop

variable {t : NetworkTopology} {failed target : NodeId} {v w : Alone}

theorem Failing.known (failing : Failing t failed target v) {agent : AgentId}
    (on : t.On agent failed) : ∃ node, v.state.On agent node := by
  by_cases accepted : Accepted v.told agent
  · exact ⟨target, (failing.offered agent on target).mpr (.inl ⟨accepted, rfl⟩)⟩
  · exact ⟨failed, (failing.offered agent on failed).mpr (.inr ⟨accepted, rfl⟩)⟩

theorem Failing.tell (failing : Failing t failed target v) {c : Call} (plain : c.isMigrate = false)
    (a : Answer c) : Failing t failed target ⟨v.asked + 1, v.told ++ [⟨c, a⟩], v.state⟩ where
  profile := failing.profile
  placed := failing.placed
  offered agent on node := by
    rw [accepted_append, or_iff_left (not_accepted_single plain agent)]
    exact failing.offered agent on node
  others := failing.others

theorem Failing.migrate (failing : Failing t failed target v) {agent : AgentId} {accepted : Prop}
    (on : t.On agent failed) (migrated : Migrated agent target accepted v w) :
    Failing t failed target w := by
  obtain ⟨new, told, tells⟩ := migrated.tells
  have heard : ∀ other, Accepted w.told other ↔ Accepted v.told other ∨ other = agent ∧ accepted := by
    intro other
    rw [told, accepted_append, tells]
  by_cases taken : accepted
  · have moved := migrated.moved taken
    constructor
    · exact moved.profile.trans failing.profile
    · exact moved.placed failing.placed
    · intro other onOther node
      rw [moved.on, heard]
      by_cases same : other = agent
      · simp [same, taken]
      · simpa [same] using failing.offered other onOther node
    · intro other off node
      have apart : other ≠ agent := fun same => off (same ▸ on)
      rw [moved.on, if_neg apart]
      exact failing.others other off node
  · have kept := migrated.kept taken
    constructor
    · rw [kept]
      exact failing.profile
    · rw [kept]
      exact failing.placed
    · intro other onOther node
      have unheard := (heard other).trans (or_iff_left fun both => taken both.2)
      rw [kept, unheard]
      exact failing.offered other onOther node
    · rw [kept]
      exact failing.others

theorem failoverEach_spec (answer : Nat → (call : Call) → Answer call)
    (least : t.leastLoaded = some target) (rounds : Nat) {pending : Finset AgentId}
    (onFailed : ∀ agent ∈ pending, t.On agent failed) (failing : Failing t failed target v) :
    ends answer (fun _ => Failing t failed target) (fun _ _ => True)
      (failoverEach rounds pending) v := by
  induction rounds generalizing pending v with
  | zero => trivial
  | succ rounds ih =>
    rw [failoverEach, ends_bind, ends_call]
    have asked : Failing t failed target { v with asked := v.asked + 1 } :=
      ⟨failing.profile, failing.placed, failing.offered, failing.others⟩
    have listed := mem_iterated answer v.asked pending
    split
    · exact asked
    · rename_i agent rest first
      have on := onFailed agent ((listed agent).mp (first ▸ List.mem_cons_self))
      have there : target ∈ v.state.nodeStates.keys := by
        rw [keys_of_profile failing.profile]
        exact leastLoaded_known least
      rw [ends_bind]
      refine ends_findOptimalNode (w := { v with asked := v.asked + 1 })
        ((leastLoaded_of_profile failing.profile).trans least) ?_ agent
      rw [ends_bind, ends_attempt]
      apply Effect.wp_mono (migrateAgent_spec answer (w := { v with asked := v.asked + 1 }) failing.placed
        (failing.known on) there)
      · rintro _ u ⟨accepted, migrated, _⟩
        refine ih (fun other member => onFailed other ?_) (asked.migrate on migrated)
        exact Finset.mem_of_mem_erase member
      · rintro e u ⟨accepted, migrated, _⟩
        have later := asked.migrate on migrated
        cases e with
        | cancelled => trivial
        | raised e =>
          rw [ends_bind, ends_wait]
          refine (ends_bind answer _ _).mpr ((ends_ofExcept answer _).mpr ?_)
          split
          · refine ih (fun other member => ?_) (later.tell rfl _)
            rcases Finset.mem_insert.mp member with same | member
            · exact same ▸ on
            · exact onFailed other (Finset.mem_of_mem_erase member)
          · trivial

end Loop

/-- Node `failed` has been left by all its agents, and each of them is on another node. -/
structure Emptied (t : NetworkTopology) (failed : NodeId) (s : NetworkTopology) : Prop where
  left : ∀ agent, ¬ s.On agent failed
  elsewhere : ∀ agent, t.On agent failed → ∃ node, node ≠ failed ∧ s.On agent node

theorem emptied_iff {t : NetworkTopology} {failed target : NodeId} {v : Alone}
    (least : t.leastLoaded = some target) (failing : Failing t failed target v) :
    Emptied t failed v.state ↔ (∀ agent, ¬ t.On agent failed) ∨
      t.leastLoaded ≠ some failed ∧ ∀ agent, t.On agent failed → Accepted v.told agent := by
  rw [least]
  constructor
  · intro emptied
    by_cases vacant : ∀ agent, ¬ t.On agent failed
    · exact .inl vacant
    · obtain ⟨agent, on⟩ := not_forall_not.mp vacant
      have accepted : ∀ agent, t.On agent failed → Accepted v.told agent := by
        intro agent on
        by_contra refused
        exact emptied.left agent ((failing.offered agent on failed).mpr (.inr ⟨refused, rfl⟩))
      refine .inr ⟨?_, accepted⟩
      intro same
      cases same
      exact emptied.left agent ((failing.offered agent on _).mpr (.inl ⟨accepted agent on, rfl⟩))
  · rintro (vacant | ⟨other, accepted⟩)
    · refine ⟨fun agent on => ?_, fun agent on => (vacant agent on).elim⟩
      exact vacant agent ((failing.others agent (vacant agent) failed).mp on)
    · have apart : target ≠ failed := fun same => other (congrArg some same)
      constructor
      · intro agent on
        by_cases was : t.On agent failed
        · rcases (failing.offered agent was failed).mp on with ⟨_, same⟩ | ⟨refused, _⟩
          · exact apart same.symm
          · exact refused (accepted agent was)
        · exact was ((failing.others agent was failed).mp on)
      · intro agent on
        exact ⟨target, apart, (failing.offered agent on target).mpr (.inl ⟨accepted agent on, rfl⟩)⟩

/-- Whatever is answered, a failover that returns has emptied its node exactly if there was
nothing to move, or the least loaded node is another one and has accepted every agent. -/
theorem failover_empties_iff (answer : Nat → (call : Call) → Answer call) (rounds : Nat)
    (t : NetworkTopology) (placed : t.Placed) (failed : NodeId) (w : Alone)
    (returned : solo answer (failoverAgents rounds failed) (.start t) = (.ok (), w)) :
    Emptied t failed w.state ↔ (∀ agent, ¬ t.On agent failed) ∨
      t.leastLoaded ≠ some failed ∧ ∀ agent, t.On agent failed → Accepted w.told agent := by
  have spec : ends answer (fun _ v => ∃ target, t.leastLoaded = some target ∧
      Failing t failed target v) (fun _ _ => True) (failoverAgents rounds failed) (.start t) := by
    rw [failoverAgents, ends_bind]
    apply ends_nodeState
    · intro state found
      have known : failed ∈ t.nodeStates.keys := (Dict.mem_keys_iff _ _).mpr ⟨state, found⟩
      obtain ⟨target, least⟩ := leastLoaded_of_known known
      have silent : ∀ agent, ¬ Accepted ([] : Transcript Answer) agent := by
        rintro agent ⟨_, _, member⟩
        exact List.not_mem_nil member
      have start : Failing t failed target (.start t) := by
        refine ⟨rfl, placed, fun agent on node => ?_, fun agent _ node => .rfl⟩
        simp only [Solo.start, silent, false_and, false_or, not_false_iff, true_and]
        exact ⟨fun here => placed agent node failed here on, fun same => same ▸ on⟩
      have spec := failoverEach_spec answer least rounds
        (fun agent member => (on_iff_of_get? found agent).mpr member) start
      exact Effect.wp_mono spec (fun _ v failing => ⟨target, least, failing⟩) fun _ _ _ => trivial
    · exact fun _ _ => trivial
  obtain ⟨target, least, failing⟩ := Effect.wp_of_eq_ok spec returned
  exact emptied_iff least failing

def loneAnswer (n : Nat) : (call : Call) → Answer call
  | .iterate agents =>
    if vacant : agents = ∅ then ⟨[], by rw [vacant]; rfl⟩ else edgeAnswer n (.iterate agents)
  | call => edgeAnswer n call

theorem loaded_emptied :
    Emptied loaded "edge-1" (solo loneAnswer (failoverAgents 2 "edge-1") (.start loaded)).2.state := by
  refine (failover_empties_iff loneAnswer 2 loaded placed_loaded "edge-1" _
    (Prod.ext rfl rfl)).mpr (.inr ⟨by decide +kernel, ?_⟩)
  intro agent on
  have found : loaded.nodeStates.get? "edge-1" =
      some ⟨"edge-1", {"scout"}, ⟨[("cpu", .finite 90)], by decide⟩⟩ := rfl
  obtain rfl := Finset.mem_singleton.mp ((on_iff_of_get? found agent).mp on)
  exact ⟨"edge-2", "edge-1", List.mem_of_getElem? (i := 1) rfl⟩

def quiet : NetworkTopology := pair {"scout"}

/-- The first of equally loaded nodes is the target, which is the failed one itself. -/
theorem quiet_not_emptied : quiet.Placed ∧ quiet.nodeStates.keys.length = 2 ∧
    ∃ w, solo loneAnswer (failoverAgents 2 "edge-1") (.start quiet) = (.ok (), w) ∧
      ¬ Emptied quiet "edge-1" w.state := by
  refine ⟨placed_pair _, by decide, _, Prod.ext rfl rfl, fun emptied => ?_⟩
  refine emptied.left "scout" ⟨⟨"edge-1", {"scout"}, Dict.empty⟩, rfl, ?_⟩
  exact Finset.mem_singleton_self _

end KuvaAI.Topology
