import KuvaAI.Lib.StepGuarantee
import KuvaAI.Topology.Manager

/-! What a class of programs has to contain to contain the topology's tasks: the
updates, the migrations and the changes of the lock. All else only reads. -/
namespace KuvaAI.Topology
open Python Coroutine

variable {K : ∀ {α : Type}, Task α → Prop}

section Pieces

variable (closed : Closed K) {α β : Type}

include closed

theorem closed_withAsync {enter : Task α} {exit : Task Unit} {body : α → Task β} (entered : K enter)
    (exited : K exit) (within : ∀ a, K (body a)) : K (withAsync enter exit body) :=
  closed.bind entered fun a => closed.finallyDo (within a) exited

theorem closed_enterSession : K enterSession := closed.awaited fun _ => closed.ofExcept _

theorem closed_exitSession : K exitSession := closed.awaited fun _ => closed.ofExcept _

theorem closed_exitResponse : K exitResponse := closed.awaited fun _ => closed.ofExcept _

theorem closed_responseText : K responseText := closed.awaited fun _ => closed.ofExcept _

theorem closed_raise (e : Exn) : K (raise e : Task α) := closed.throw _

theorem closed_raiseIf (c : Prop) [Decidable c] (e : Exn) : K (raiseIf c e) :=
  Closed.ite (closed_raise closed e) (closed.pure _)

theorem closed_lift (result : Except Exn α) : K (lift result) := by
  cases result with
  | ok a => exact closed.pure a
  | error e => exact closed_raise closed e

theorem closed_nodeState (node : NodeId) : K (nodeState node) := by
  refine closed.bind closed.get fun t => ?_
  split
  · exact closed.pure _
  · exact closed_raise closed _

theorem closed_checkKeywords (function : String) (parameters : List String) (keywords : Attributes) :
    K (checkKeywords function parameters keywords) := by
  rw [checkKeywords]
  split
  · exact closed.pure _
  · exact closed_raise closed _

theorem closed_sourceNode (agent : AgentId) : K (sourceNode agent) := by
  refine closed.bind closed.get fun t => ?_
  split
  · exact closed.pure _
  · exact closed_raise closed _

theorem closed_minBy (key : NodeState → Flt) (states : List NodeState) : K (minBy key states) := by
  cases states with
  | nil => exact closed_raise closed _
  | cons state rest => exact closed.pure _

theorem closed_findOptimalNode (agent : AgentId) (pressure : String) :
    K (findOptimalNode agent pressure) :=
  closed.bind closed.get fun _ => closed.bind (closed_minBy closed _ _) fun _ => closed.pure _

theorem closed_agentsOf (states : List NodeState) : K (agentsOf states) := by
  induction states with
  | nil => exact closed.pure _
  | cons state rest ih => exact closed.called fun _ => closed.bind ih fun _ => closed.pure _

theorem closed_nodeAt (nodes : List NodeId) (i : Nat) : K (nodeAt nodes i) := by
  rw [nodeAt]
  split
  · exact closed.pure _
  · exact closed_raise closed _

theorem closed_checkSize (size : Nat) : K (checkSize size) :=
  closed.bind closed.get fun _ => closed_raiseIf closed _ _

theorem closed_autoScaleNodes (config : TopologyConfig) : K (autoScaleNodes config) := by
  refine Closed.ite ?_ (closed.pure _)
  refine closed.bind closed.get fun _ => closed.bind (closed_raiseIf closed _ _) fun _ => ?_
  refine closed.called fun _ => Closed.ite ?_ (Closed.ite ?_ (closed.pure _))
  · exact closed.bind closed.get fun _ => closed.called fun _ => closed.pure _
  · exact closed.bind closed.get fun _ => closed.bind (closed_minBy closed _ _) fun _ =>
      closed.called fun _ => closed.pure _

theorem closed_checkHealth (node : NodeId) : K (checkHealth node) := by
  refine closed_withAsync closed (closed_enterSession closed) (closed_exitSession closed) fun _ => ?_
  refine closed_withAsync closed (closed.awaited fun _ => closed.ofExcept _)
    (closed_exitResponse closed) fun status => ?_
  exact Closed.ite (closed.pure _)
    (closed.bind (closed_responseText closed) fun _ => closed_raise closed _)

theorem closed_acquire
    (locks : ∀ locked, K (modify fun t => { t with locked := locked } : Task PUnit)) : K acquire :=
  closed.bind closed.get fun _ =>
    Closed.ite (closed.awaited fun _ => closed.bind (closed.ofExcept _) fun _ => locks true) (locks true)

end Pieces

section Tasks

variable (closed : Closed K) (migrates : ∀ agent target, K (migrateAgent agent target))

include closed migrates

theorem closed_evictAgents (node : NodeId) (pressure : String) : K (evictAgents node pressure) := by
  have each : ∀ agents, K (evictEach pressure agents) := by
    intro agents
    induction agents with
    | nil => exact closed.pure _
    | cons agent rest ih =>
      exact closed.bind (closed_findOptimalNode closed agent pressure) fun target =>
        closed.bind (migrates agent target) fun _ => ih
  exact closed.bind (closed_nodeState closed node) fun _ => closed.called fun _ => each _

theorem closed_distribute (nodes : List NodeId) (n : Nat) (agents : List AgentId) :
    K (distribute nodes n agents) := by
  induction agents generalizing n with
  | nil => exact closed.pure _
  | cons agent rest ih =>
    refine closed.bind (closed_nodeAt closed nodes n) fun target =>
      closed.bind (closed_nodeState closed target) fun state => ?_
    exact Closed.ite (closed.bind (migrates agent target) fun _ => ih (n + 1)) (ih (n + 1))

theorem closed_relieveFrom (size left : Nat) : K (relieveFrom size left) := by
  induction left with
  | zero => exact closed_checkSize closed size
  | succ left ih =>
    refine closed.bind (closed_checkSize closed size) fun _ => closed.bind closed.get fun t => ?_
    split
    · exact closed.pure _
    · exact closed.bind (Closed.ite (closed_evictAgents closed migrates _ _) (closed.pure _)) fun _ => ih

theorem closed_rebalanceClusters (config : TopologyConfig) : K (rebalanceClusters config) := by
  rw [rebalanceClusters]
  split
  · exact closed.bind closed.get fun _ => closed.bind (closed_agentsOf closed _) fun _ =>
      closed_distribute closed migrates _ _ _
  · exact closed_raise closed _
  · exact closed.bind closed.get fun _ => closed_relieveFrom closed migrates _ _
  · exact closed.pure _

theorem closed_failoverEach (rounds : Nat) (agents : Finset AgentId) : K (failoverEach rounds agents) := by
  induction rounds generalizing agents with
  | zero => exact closed.throw _
  | succ rounds ih =>
    refine closed.called fun listed => ?_
    split
    · exact closed.pure _
    · rename_i agent _ _
      refine closed.bind (closed_findOptimalNode closed agent "cpu") fun target => ?_
      refine closed.bind (closed.attempt (migrates agent target)) fun ended => ?_
      split
      · exact ih _
      · exact closed.throw _
      · exact closed.awaited fun _ => closed.bind (closed.ofExcept _) fun _ => ih _

theorem closed_handleNodeFailure (rounds : Nat) (node : NodeId) : K (handleNodeFailure rounds node) := by
  refine closed.called fun _ => closed.bind (closed_lift closed _) fun tripped =>
    Closed.ite (closed.pure _) ?_
  refine closed.tryCatch (closed_checkHealth closed node) fun e => ?_
  split
  · exact closed.called fun _ => closed.bind (closed_lift closed _) fun _ =>
      closed.bind (closed_nodeState closed node) fun _ => closed_failoverEach closed migrates rounds _
  · exact closed.throw _

theorem closed_updateTopology (config : TopologyConfig) (update : TopologyUpdate)
    (locks : ∀ locked, K (modify fun t => { t with locked := locked } : Task PUnit))
    (applied : K (applyUpdate update)) : K (updateTopology config update) :=
  closed_withAsync closed (closed_acquire closed locks) (locks false) fun _ =>
    closed.bind applied fun _ => closed.bind (closed_rebalanceClusters closed migrates config) fun _ =>
      closed_autoScaleNodes closed config

end Tasks

end KuvaAI.Topology
