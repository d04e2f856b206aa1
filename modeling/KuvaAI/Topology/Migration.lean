import KuvaAI.Lib.Solo
import KuvaAI.Topology.Placement

/-! One migration that no other task disturbs: what it asks of the target, and where
the agent is afterwards, whatever the target answers. -/
namespace KuvaAI.Topology
open Python Coroutine

abbrev Alone := Solo NetworkTopology Answer

def Accepted (told : Transcript Answer) (agent : AgentId) : Prop :=
  ∃ target source, (⟨.migrate target agent source, (.ok 202 : Except Interrupt Int)⟩ :
    Σ call, Answer call) ∈ told

/-- The answers of nodes that accept every migration. -/
structure Accepting (answer : Nat → (call : Call) → Answer call) : Prop where
  enters : ∀ n, answer n .enterSession = (.ok () : Except Interrupt Unit)
  exits : ∀ n, answer n .exitSession = (.ok () : Except Interrupt Unit)
  closes : ∀ n, answer n .exitResponse = (.ok () : Except Interrupt Unit)
  accepts : ∀ n target agent source,
    answer n (.migrate target agent source) = (.ok 202 : Except Interrupt Int)

theorem accepted_append (told new : Transcript Answer) (agent : AgentId) :
    Accepted (told ++ new) agent ↔ Accepted told agent ∨ Accepted new agent := by
  simp only [Accepted, List.mem_append, exists_or]

def Call.isMigrate : Call → Bool
  | .migrate _ _ _ => true
  | _ => false

theorem not_accepted_single {call : Call} {a : Answer call} (plain : call.isMigrate = false)
    (agent : AgentId) : ¬ Accepted [⟨call, a⟩] agent := by
  rintro ⟨target, source, member⟩
  cases List.mem_singleton.mp member
  cases plain

def NetworkTopology.profile (t : NetworkTopology) : List (NodeId × NodeId × Dict String Flt) :=
  t.nodeStates.entries.map fun e => (e.1, e.2.nodeId, e.2.resources)

theorem keys_of_profile {s t : NetworkTopology} (same : t.profile = s.profile) :
    t.nodeStates.keys = s.nodeStates.keys := by
  have keys := congrArg (List.map Prod.fst) same
  simpa [NetworkTopology.profile, Dict.keys, List.map_map, Function.comp_def] using keys

theorem profile_setState {t : NetworkTopology} {node : NodeId} {state : NodeState}
    (found : t.nodeStates.get? node = some state) (agents : Finset AgentId) :
    (t.setState { state with agents := agents }).profile = t.profile := by
  have key := t.keyed node state found
  subst key
  exact Dict.map_set found _ rfl

structure Moved (s t : NetworkTopology) (agent : AgentId) (target : NodeId) : Prop where
  graph : t.graph = s.graph
  profile : t.profile = s.profile
  on : ∀ other place, t.On other place ↔ if other = agent then place = target else s.On other place

theorem Moved.placed {s t : NetworkTopology} {agent : AgentId} {target : NodeId}
    (moved : Moved s t agent target) (placed : s.Placed) : t.Placed := by
  intro other a b onA onB
  rw [moved.on] at onA onB
  by_cases same : other = agent
  · rw [if_pos same] at onA onB
    rw [onA, onB]
  · rw [if_neg same] at onA onB
    exact placed other a b onA onB

structure Migrated (agent : AgentId) (target : NodeId) (accepted : Prop) (w v : Alone) : Prop where
  tells : ∃ new, v.told = w.told ++ new ∧ ∀ other, Accepted new other ↔ other = agent ∧ accepted
  moved : accepted → Moved w.state v.state agent target
  kept : ¬ accepted → v.state = w.state

section Steps

variable {agent : AgentId} {target : NodeId} {accepted : Prop} {w v : Alone}

theorem Migrated.nothing (w : Alone) : Migrated agent target False w w where
  tells := ⟨[], (List.append_nil _).symm, fun other => by simp [Accepted]⟩
  moved := False.elim
  kept := fun _ => rfl

theorem Migrated.tell (migrated : Migrated agent target accepted w v) {c : Call}
    (plain : c.isMigrate = false) (a : Answer c) :
    Migrated agent target accepted w ⟨v.asked + 1, v.told ++ [⟨c, a⟩], v.state⟩ where
  tells := by
    obtain ⟨new, told, tells⟩ := migrated.tells
    refine ⟨new ++ [⟨c, a⟩], by rw [told, List.append_assoc], fun other => ?_⟩
    rw [accepted_append, tells, or_iff_left (not_accepted_single plain other)]
  moved := migrated.moved
  kept := migrated.kept

theorem Migrated.refuse (migrated : Migrated agent target False w v) (source : NodeId)
    {a : Except Interrupt Int} (refused : a ≠ .ok 202) :
    Migrated agent target False w
      ⟨v.asked + 1, v.told ++ [⟨.migrate target agent source, a⟩], v.state⟩ where
  tells := by
    obtain ⟨new, told, tells⟩ := migrated.tells
    refine ⟨new ++ [⟨.migrate target agent source, a⟩], by rw [told, List.append_assoc], fun other => ?_⟩
    rw [accepted_append, tells, or_iff_left]
    rintro ⟨_, _, member⟩
    cases List.mem_singleton.mp member
    exact refused rfl
  moved := False.elim
  kept := migrated.kept

theorem Migrated.accept (migrated : Migrated agent target False w v) {source : NodeId}
    {t : NetworkTopology} (moved : Moved w.state t agent target) :
    Migrated agent target True w
      ⟨v.asked + 1, v.told ++ [⟨.migrate target agent source, (.ok 202 : Except Interrupt Int)⟩], t⟩ where
  tells := by
    obtain ⟨new, told, tells⟩ := migrated.tells
    refine ⟨_, by rw [told, List.append_assoc], fun other => ?_⟩
    rw [accepted_append, tells, and_false, false_or, and_true]
    constructor
    · rintro ⟨_, _, member⟩
      cases List.mem_singleton.mp member
      rfl
    · rintro rfl
      exact ⟨target, source, List.mem_singleton_self _⟩
  moved := fun _ => moved
  kept := fun refused => (refused trivial).elim

end Steps

theorem moved_taken {t : NetworkTopology} {source target : NodeId} {agent : AgentId}
    {left joined : NodeState} (placed : t.Placed) (found : t.nodeStates.get? source = some left)
    (member : agent ∈ left.agents)
    (foundTo : (t.setState { left with agents := left.agents.erase agent }).nodeStates.get? target =
      some joined) :
    Moved t ((t.setState { left with agents := left.agents.erase agent }).setState
      { joined with agents := insert agent joined.agents }) agent target where
  graph := rfl
  profile := by rw [profile_setState foundTo, profile_setState found]
  on other place := by
    rw [on_insert foundTo, on_erase found]
    by_cases same : other = agent
    · subst same
      rw [if_pos rfl]
      constructor
      · rintro (⟨on, off⟩ | ⟨_, here⟩)
        · exact (off ⟨rfl, placed other place source on ⟨left, found, member⟩⟩).elim
        · exact here
      · exact fun here => .inr ⟨rfl, here⟩
    · simp [same]

section Rules

variable (answer : Nat → (call : Call) → Answer call) {α β : Type} {w : Alone}
  {exn : Interrupt → Alone → Prop}

theorem ends_withAsync {post : β → Alone → Prop} (enter : Task α) (exit : Task Unit)
    (body : α → Task β) : ends answer post exn (withAsync enter exit body) w ↔
      ends answer (fun a => ends answer (fun b => ends answer (fun _ => post b) exn exit)
        (fun e => ends answer (fun _ => exn e) exn exit) (body a)) exn enter w := by
  rw [withAsync, ends_bind]
  constructor
  · intro holds
    apply Effect.wp_mono holds
    · exact fun a v within => (ends_finallyDo answer).mp within
    · exact fun _ _ raised => raised
  · intro holds
    apply Effect.wp_mono holds
    · exact fun a v within => (ends_finallyDo answer).mpr within
    · exact fun _ _ raised => raised

theorem ends_awaited {post : α → Alone → Prop} {c : Call} (read : Answer c → Except Interrupt α)
    (returned : ∀ a, read (answer w.asked c) = .ok a →
      post a ⟨w.asked + 1, w.told ++ [⟨c, answer w.asked c⟩], w.state⟩)
    (raised : ∀ e, read (answer w.asked c) = .error e →
      exn e ⟨w.asked + 1, w.told ++ [⟨c, answer w.asked c⟩], w.state⟩) :
    ends answer post exn (wait c >>= fun a => MonadExcept.ofExcept (read a)) w := by
  rw [ends_bind, ends_wait, ends_ofExcept]
  split
  · exact returned _ ‹_›
  · exact raised _ ‹_›

theorem ends_nodeState {post : NodeState → Alone → Prop} {node : NodeId}
    (present : ∀ state, w.state.nodeStates.get? node = some state → post state w)
    (absent : node ∉ w.state.nodeStates.keys → ∀ e, exn e w) :
    ends answer post exn (nodeState node) w := by
  rw [nodeState, ends_bind, ends_get]
  cases found : w.state.nodeStates.get? node with
  | none => exact absent ((Dict.get?_eq_none_iff _ _).mp found) _
  | some state => exact present state found

theorem ends_sourceNode {post : NodeId → Alone → Prop} {agent : AgentId}
    (known : ∃ node, w.state.On agent node)
    (found : ∀ node, w.state.On agent node → post node w) :
    ends answer post exn (sourceNode agent) w := by
  rw [sourceNode, ends_bind, ends_get]
  split
  · rename_i e first
    have holds := List.find?_some first
    exact found e.1 ⟨e.2, Dict.get?_of_mem (List.mem_of_find?_eq_some first), by simpa using holds⟩
  · rename_i nowhere
    obtain ⟨node, state, stored, member⟩ := known
    have absent := List.find?_eq_none.mp nowhere (node, state) (Dict.mem_of_get? stored)
    simp [member] at absent

theorem ends_moves {post : Unit → Alone → Prop} {source target : NodeId} {agent : AgentId}
    (placed : w.state.Placed) (on : w.state.On agent source)
    (known : target ∈ w.state.nodeStates.keys)
    (moves : ∀ t, Moved w.state t agent target → post () { w with state := t }) :
    ends answer post exn (do removeAgent source agent; addAgent target agent) w := by
  rw [ends_bind, removeAgent, ends_bind]
  apply ends_nodeState
  · intro left found
    have member := (on_iff_of_get? found agent).mp on
    rw [ends_bind, raiseIf, if_neg (not_not.mpr member), ends_pure, ends_modify, addAgent, ends_bind]
    apply ends_nodeState
    · intro joined foundTo
      rw [ends_modify]
      exact moves _ (moved_taken placed found member foundTo)
    · intro absent
      exact (absent ((Dict.mem_keys_set _ _ _ _).mpr (.inr known))).elim
  · intro absent
    obtain ⟨state, found, _⟩ := on
    exact (absent ((Dict.mem_keys_iff _ _).mpr ⟨state, found⟩)).elim

end Rules

section Migrate

variable (answer : Nat → (call : Call) → Answer call) {agent : AgentId} {target : NodeId} {w v : Alone}
  {whole : Prop}

def Left (agent : AgentId) (target : NodeId) (whole : Prop) (w v : Alone) : Prop :=
  ∃ accepted, Migrated agent target accepted w v ∧ (Accepting answer → accepted ∧ whole)

variable {answer}

theorem Left.tell (left : Left answer agent target whole w v) {call : Call}
    (plain : call.isMigrate = false) (a : Answer call) {still : Prop}
    (wellAnswered : Accepting answer → whole → still) :
    Left answer agent target still w ⟨v.asked + 1, v.told ++ [⟨call, a⟩], v.state⟩ := by
  obtain ⟨accepted, migrated, surely⟩ := left
  exact ⟨accepted, migrated.tell plain a, fun accepting =>
    ⟨(surely accepting).1, wellAnswered accepting (surely accepting).2⟩⟩

theorem left_exitSession (left : Left answer agent target whole w v) :
    ends answer (fun _ => Left answer agent target whole w)
      (fun _ => Left answer agent target False w) exitSession v := by
  refine ends_awaited answer (c := .exitSession) id ?_ ?_
  · exact fun _ _ => left.tell rfl _ fun _ holds => holds
  · intro e raised
    refine left.tell rfl _ fun accepting _ => ?_
    rw [id, accepting.exits] at raised
    cases raised

theorem left_exitResponse (left : Left answer agent target whole w v) :
    ends answer (fun _ => Left answer agent target whole w)
      (fun _ => Left answer agent target False w) exitResponse v := by
  refine ends_awaited answer (c := .exitResponse) id ?_ ?_
  · exact fun _ _ => left.tell rfl _ fun _ holds => holds
  · intro e raised
    refine left.tell rfl _ fun accepting _ => ?_
    rw [id, accepting.closes] at raised
    cases raised

theorem left_exits (left : Left answer agent target whole w v) :
    ends answer (fun _ v => ends answer (fun _ => Left answer agent target whole w)
        (fun _ => Left answer agent target False w) exitSession v)
      (fun _ v => ends answer (fun _ => Left answer agent target False w)
        (fun _ => Left answer agent target False w) exitSession v) exitResponse v := by
  apply Effect.wp_mono (left_exitResponse left)
  · exact fun _ _ left => left_exitSession left
  · exact fun _ _ left => left_exitSession left

variable (answer) in
/-- Whatever the answers, an agent that is on one node has moved to a node of the table
exactly if a request for it was accepted. -/
theorem migrateAgent_spec (placed : w.state.Placed) (known : ∃ node, w.state.On agent node)
    (there : target ∈ w.state.nodeStates.keys) :
    ends answer (fun _ => Left answer agent target True w)
      (fun _ => Left answer agent target False w) (migrateAgent agent target) w := by
  rw [migrateAgent, ends_bind]
  apply ends_sourceNode answer known
  intro source on
  have untouched : Migrated agent target False w w := .nothing w
  rw [ends_withAsync]
  refine ends_awaited answer (c := .enterSession) id ?_ ?_
  · intro _ _
    have entered := untouched.tell (c := .enterSession) rfl (answer w.asked .enterSession)
    rw [ends_withAsync]
    refine ends_awaited answer (c := .migrate target agent source) id ?_ ?_
    · intro status answered
      apply ends_ite
      · rintro rfl
        have told : answer (w.asked + 1) (.migrate target agent source) =
            (.ok 202 : Except Interrupt Int) := answered
        rw [told]
        refine ends_moves answer (w := ⟨_, _, w.state⟩) placed on there fun t moved => ?_
        exact left_exits ⟨True, entered.accept moved, fun _ => ⟨trivial, trivial⟩⟩
      · intro other
        have refused := entered.refuse source (a := answer (w.asked + 1) (.migrate target agent source))
          fun told => other (Except.ok.inj (answered.symm.trans told))
        have unwilling : ¬ Accepting answer := by
          intro accepting
          exact other (Except.ok.inj (answered.symm.trans (accepting.accepts _ _ _ _)))
        have left : ∀ whole, Left answer agent target whole w _ :=
          fun whole => ⟨False, refused, fun accepting => (unwilling accepting).elim⟩
        rw [ends_bind]
        refine ends_awaited answer (c := .text) id ?_ ?_
        · exact fun _ _ => left_exits ((left True).tell rfl _ fun _ holds => holds)
        · exact fun _ _ => left_exits ((left False).tell rfl _ fun _ holds => holds)
    · intro e raised
      have refused := entered.refuse source (a := answer (w.asked + 1) (.migrate target agent source))
        fun told => nomatch raised.symm.trans told
      refine left_exitSession ⟨False, refused, fun accepting => ?_⟩
      cases raised.symm.trans (accepting.accepts _ _ _ _)
  · intro e raised
    refine ⟨False, untouched.tell rfl _, fun accepting => ?_⟩
    cases raised.symm.trans (accepting.enters _)

end Migrate

end KuvaAI.Topology
