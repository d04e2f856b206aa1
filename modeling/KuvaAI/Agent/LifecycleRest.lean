import KuvaAI.Agent.LifecycleFrames

/-! The transitional states, over every interleaving of a manager's tasks. An exception
inside an operation is handled by way of the error state. A cancellation is not, nor is
an exception of the event that announces a transitional state. -/
namespace KuvaAI.LifecycleTasks
open Coroutine
open Lifecycle (LifecyclePhase AgentState LifecycleConfig AgentType LifecycleEvent Raised Interrupt)

def Transitional (state : AgentState) : Prop :=
  state ∈ [AgentState.initializing, .starting, .pausing, .resuming, .stopping]

instance (state : AgentState) : Decidable (Transitional state) :=
  inferInstanceAs (Decidable (state ∈ _))

def Resting (s : Shared) : Prop := ¬ Transitional s.manager.state

/-- The ends of an await that no handler of an operation turns into the error state. -/
def Escapes : Await → Interrupt → Prop
  | .awaitTask, .cancelled => False
  | _, .cancelled => True
  | .emit event, .raised _ => Transitional event.state
  | _, .raised _ => False

def Caught (i : Nat) : (query : Query) → Answer query → Shared → Prop
  | .awaits point, .error e, s => s.manager.holder = some i → Escapes point e → Resting s
  | _, _, _ => True

theorem escapes_cancelled {point : Await} (other : point ≠ .awaitTask) :
    Escapes point .cancelled := by
  cases point with
  | awaitTask => exact (other rfl).elim
  | _ => trivial

theorem escapes_emit {event : LifecycleEvent} (transitional : Transitional event.state)
    (e : Interrupt) : Escapes (.emit event) e := by
  cases e with
  | raised e => exact transitional
  | cancelled => trivial

/-- Outside the operations the manager rests, and the task that holds the lock is inside
one. A task that holds it relies on the others to leave a resting state at rest. -/
def atRest : Discipline Shared Answer where
  allowed := fun i query answer s => served i query answer s ∧ Caught i query answer s
  inv := fun s => (s.manager.holder = none → Resting s) ∧
    ∀ j, s.manager.holder = some j → j ∈ s.operating
  rely := fun i s t => (s.manager.holder = some i ↔ t.manager.holder = some i) ∧
    (s.manager.holder = some i → Resting s → Resting t) ∧
    t.operating.count i = s.operating.count i
  idle := fun i s => s.manager.holder ≠ some i ∧ s.operating.count i = 0
  rely_refl := fun _ _ => ⟨Iff.rfl, fun _ rest => rest, rfl⟩
  rely_trans := fun _ _ _ _ first second => ⟨first.1.trans second.1,
    fun held rest => second.2.1 (first.1.mp held) (first.2.1 held rest), second.2.2.trans first.2.2⟩
  idle_stable := fun _ _ _ moved idle =>
    ⟨fun held => idle.1 (moved.1.mpr held), moved.2.2.trans idle.2⟩

structure Outside (i n : Nat) (s : Shared) : Prop where
  inv : atRest.inv s
  holder : s.manager.holder ≠ some i
  count : s.operating.count i = n

structure Within (i n : Nat) (s : Shared) : Prop where
  inv : atRest.inv s
  holder : s.manager.holder = some i
  count : s.operating.count i = n

def WithinRest (i n : Nat) (s : Shared) : Prop := Within i n s ∧ Resting s

def Stopped (i n : Nat) (e : Interrupt) (s : Shared) : Prop :=
  Within i n s ∧ (e = .cancelled → Resting s)

section Frames

theorem rely_minor {f : Manager → Manager} (minor : Minor f) (j : Nat) (s : Shared) :
    atRest.rely j s (s.edit f) := by
  refine ⟨?_, fun _ rest => ?_, rfl⟩
  · rw [Shared.edit, minor.holder]
  · rw [Resting, Shared.edit, minor.state]
    exact rest

theorem inv_minor {f : Manager → Manager} (minor : Minor f) {s : Shared} (inv : atRest.inv s) :
    atRest.inv (s.edit f) := by
  refine ⟨fun free => ?_, fun j held => ?_⟩
  · rw [Resting, Shared.edit, minor.state]
    exact inv.1 (minor.holder _ ▸ free)
  · exact inv.2 j (minor.holder _ ▸ held)

theorem Within.moved {i n : Nat} {s t : Shared} (within : Within i n s) (moved : atRest.rely i s t)
    (inv : atRest.inv t) : Within i n t :=
  ⟨inv, moved.1.mp within.holder, moved.2.2.trans within.count⟩

theorem Within.minor {i n : Nat} {s : Shared} (within : Within i n s) {f : Manager → Manager}
    (minor : Minor f) : Within i n (s.edit f) :=
  ⟨inv_minor minor within.inv, (minor.holder _).trans within.holder, within.count⟩

theorem frame_within (i n : Nat) : Frame atRest i (Within i n) (Stopped i n) where
  inv := fun _ within => within.inv
  moved := fun _ _ within moved inv => within.moved moved inv
  raised := fun _ _ within => ⟨within, fun impossible => nomatch impossible⟩
  cancelled := fun _ _ other within allowed =>
    ⟨within, fun _ => allowed.2 within.holder (escapes_cancelled other)⟩
  minor := fun _ s minor within => ⟨fun j _ => rely_minor minor j s, within.minor minor⟩

theorem frame_withinRest (i n : Nat) :
    Frame atRest i (WithinRest i n) (fun _ => WithinRest i n) where
  inv := fun _ within => within.1.inv
  moved := fun _ _ within moved inv =>
    ⟨within.1.moved moved inv, moved.2.1 within.1.holder within.2⟩
  raised := fun _ _ within => within
  cancelled := fun _ _ _ within _ => within
  minor := fun _ s minor within => ⟨fun j _ => rely_minor minor j s, within.1.minor minor,
    (rely_minor minor i s).2.1 within.1.holder within.2⟩

theorem frame_outside (i n : Nat) : Frame atRest i (Outside i n) (fun _ => Outside i n) where
  inv := fun _ outside => outside.inv
  moved := fun _ _ outside moved inv =>
    ⟨inv, fun held => outside.holder (moved.1.mpr held), moved.2.2.trans outside.count⟩
  raised := fun _ _ outside => outside
  cancelled := fun _ _ _ outside _ => outside
  minor := fun _ s minor outside => ⟨fun j _ => rely_minor minor j s,
    inv_minor minor outside.inv, fun held => outside.holder (minor.holder _ ▸ held), outside.count⟩

end Frames

def Constructs (env : Env) : Prop :=
  ∀ agentType state, ∃ event, env.transition agentType state = .ok event ∧ event.state = state

def entered (newState : AgentState) (event : LifecycleEvent) (m : Manager) : Manager :=
  { m with state := newState, lifecycleEvents := Lifecycle.appendEvent m.lifecycleEvents event }

section Transitions

variable {env : Env} (constructs : Constructs env)

include constructs

theorem triple_setState {D : Discipline Shared Answer} {i : Nat} {P Q : Shared → Prop}
    {E : Interrupt → Shared → Prop} {newState : AgentState}
    (enters : ∀ event s, P s →
      (∀ j, j ≠ i → D.rely j s (s.edit (entered newState event))) ∧ Q (s.edit (entered newState event)))
    (emits : ∀ event, event.state = newState →
      Triple D i Q (awaiting (.emit event)) (fun _ => Q) E) :
    Triple D i P (setState env newState) (fun _ => Q) E := by
  intro s holds
  obtain ⟨event, built, names⟩ := constructs s.manager.agentType newState
  have emitted : Triple D i Q (if s.manager.observability then awaiting (.emit event) else pure ())
      (fun _ => Q) E :=
    .ite (fun _ => emits event names) (fun _ _ later => later)
  obtain ⟨moved, later⟩ := enters event s holds
  rw [setState, wp_bind]
  change wp D i _ E (lift (env.transition s.manager.agentType newState) >>= _) s
  rw [built, wp_bind]
  exact ⟨moved, emitted _ later⟩

variable {i n : Nat}

omit constructs in
theorem within_entered {newState : AgentState} (event : LifecycleEvent) {s : Shared}
    (within : Within i n s) :
    (∀ j, j ≠ i → atRest.rely j s (s.edit (entered newState event))) ∧
      Within i n (s.edit (entered newState event)) := by
  have held : ∀ j, s.manager.holder = some j → j = i := fun j held =>
    Option.some.inj (held.symm.trans within.holder)
  refine ⟨fun j other => ⟨Iff.rfl, fun mine => (other (held j mine)).elim, rfl⟩, ?_, within.holder,
    within.count⟩
  exact ⟨fun free => (nomatch within.holder.symm.trans free), within.inv.2⟩

theorem triple_settle {target : AgentState} (settled : ¬ Transitional target) :
    Triple atRest i (Within i n) (setState env target) (fun _ => WithinRest i n)
      (fun _ => WithinRest i n) := by
  refine triple_setState constructs (fun event s within => ?_)
    (fun event _ => framed_awaiting (frame_withinRest i n) Await.noConfusion)
  obtain ⟨moved, later⟩ := within_entered event within
  exact ⟨moved, later, settled⟩

theorem triple_transit (transit : AgentState) :
    Triple atRest i (Within i n) (setState env transit) (fun _ => Within i n)
      (fun _ => WithinRest i n) := by
  by_cases transitional : Transitional transit
  · refine triple_setState constructs (fun event s within => within_entered event within) ?_
    intro event names
    refine (triple_awaiting (frame_within i n) _).conseq (fun _ within => within)
      (fun _ _ within => within) ?_
    rintro e t ⟨within, allowed⟩
    exact ⟨within, allowed.2 within.holder (escapes_emit (names ▸ transitional) e)⟩
  · exact (triple_settle constructs transitional).conseq (fun _ within => within)
      (fun _ _ later => later.1) (fun _ _ later => later)

theorem triple_failing_outside :
    Framed atRest i (Outside i n) (fun _ => Outside i n) (setState env .error) := by
  refine triple_setState constructs (fun event s outside => ?_)
    (fun event _ => framed_awaiting (frame_outside i n) Await.noConfusion)
  have settled : ¬ Transitional .error := by decide
  exact ⟨fun j _ => ⟨Iff.rfl, fun _ _ => settled, rfl⟩, ⟨fun _ => settled, outside.inv.2⟩,
    outside.holder, outside.count⟩

end Transitions

section Calls

variable {env : Env} {i n : Nat}

theorem rely_push {j : Nat} (other : j ≠ i) (s : Shared) :
    atRest.rely j s { s with operating := i :: s.operating } :=
  ⟨Iff.rfl, fun _ rest => rest, List.count_cons_of_ne other.symm⟩

theorem rely_drop {j : Nat} (other : j ≠ i) (s : Shared) :
    atRest.rely j s { s with operating := s.operating.erase i } :=
  ⟨Iff.rfl, fun _ rest => rest, List.count_erase_of_ne other⟩

theorem inv_push {s : Shared} (inv : atRest.inv s) :
    atRest.inv { s with operating := i :: s.operating } :=
  ⟨inv.1, fun j held => List.mem_cons_of_mem i (inv.2 j held)⟩

theorem count_push {s : Shared} (count : s.operating.count i = n) :
    (i :: s.operating).count i = n + 1 := by
  rw [List.count_cons_self, count]

theorem count_drop {s : Shared} (count : s.operating.count i = n + 1) :
    (s.operating.erase i).count i = n := by
  rw [List.count_erase_self, count, Nat.add_sub_cancel]

theorem framed_operating {P : Nat → Shared → Prop}
    (enters : ∀ s, P n s → P (n + 1) { s with operating := i :: s.operating })
    (leaves : ∀ s, P (n + 1) s → P n { s with operating := s.operating.erase i })
    {call : Task Unit} (runs : Framed atRest i (P (n + 1)) (fun _ => P (n + 1)) call) :
    Framed atRest i (P n) (fun _ => P n) (operating i call) := by
  have left : Triple atRest i (P (n + 1))
      (modify fun s => { s with operating := s.operating.erase i } : Task PUnit)
      (fun _ => P n) (fun _ => P n) :=
    Triple.modify fun s holds => ⟨fun _ other => rely_drop other s, leaves s holds⟩
  refine Triple.bind (Triple.modify fun s holds =>
    ⟨fun _ other => rely_push other s, enters s holds⟩) fun _ => ?_
  exact Triple.finallyDo runs (fun _ => left) (fun _ => left)

theorem Outside.push {s : Shared} (outside : Outside i n s) :
    Outside i (n + 1) { s with operating := i :: s.operating } :=
  ⟨inv_push outside.inv, outside.holder, count_push outside.count⟩

theorem Outside.drop {s : Shared} (outside : Outside i (n + 1) s) :
    Outside i n { s with operating := s.operating.erase i } := by
  refine ⟨⟨outside.inv.1, fun j held => ?_⟩, outside.holder, count_drop outside.count⟩
  have other : j ≠ i := fun same => outside.holder (same ▸ held)
  exact (List.mem_erase_of_ne other).mpr (outside.inv.2 j held)

theorem WithinRest.push {s : Shared} (within : WithinRest i n s) :
    WithinRest i (n + 1) { s with operating := i :: s.operating } :=
  ⟨⟨inv_push within.1.inv, within.1.holder, count_push within.1.count⟩, within.2⟩

theorem WithinRest.drop (inside : 0 < n) {s : Shared} (within : WithinRest i (n + 1) s) :
    WithinRest i n { s with operating := s.operating.erase i } := by
  have count := count_drop within.1.count
  refine ⟨⟨⟨within.1.inv.1, fun j held => ?_⟩, within.1.holder, count⟩, within.2⟩
  cases Option.some.inj (held.symm.trans within.1.holder)
  exact List.count_pos_iff.mp (count ▸ inside)

theorem Outside.take (inside : 0 < n) {s : Shared} (outside : Outside i n s)
    (free : s.manager.holder = none) :
    (∀ j, j ≠ i → atRest.rely j s (s.edit fun m => { m with holder := some i })) ∧
      WithinRest i n (s.edit fun m => { m with holder := some i }) := by
  have unheld : ∀ j, s.manager.holder ≠ some j := fun j held => nomatch free.symm.trans held
  have others : ∀ j, j ≠ i → atRest.rely j s (s.edit fun m => { m with holder := some i }) := by
    intro j other
    refine ⟨⟨fun held => (unheld j held).elim, fun mine => ?_⟩,
      fun held => (unheld j held).elim, rfl⟩
    exact (other (Option.some.inj mine).symm).elim
  have inv : atRest.inv (s.edit fun m => { m with holder := some i }) := by
    refine ⟨fun taken => (nomatch taken), fun j mine => ?_⟩
    cases mine
    exact List.count_pos_iff.mp (outside.count ▸ inside)
  exact ⟨others, ⟨inv, rfl, outside.count⟩, outside.inv.1 free⟩

theorem WithinRest.give {s : Shared} (within : WithinRest i n s) :
    (∀ j, j ≠ i → atRest.rely j s (s.edit fun m => { m with holder := none })) ∧
      Outside i n (s.edit fun m => { m with holder := none }) := by
  have held : ∀ j, s.manager.holder = some j → j = i := fun j held =>
    Option.some.inj (held.symm.trans within.1.holder)
  have others : ∀ j, j ≠ i → atRest.rely j s (s.edit fun m => { m with holder := none }) :=
    fun j other => ⟨⟨fun mine => (other (held j mine)).elim, fun mine => (nomatch mine)⟩,
      fun _ _ => within.2, rfl⟩
  have inv : atRest.inv (s.edit fun m => { m with holder := none }) :=
    ⟨fun _ => within.2, fun j mine => (nomatch mine)⟩
  exact ⟨others, inv, fun mine => (nomatch mine), within.1.count⟩

theorem framed_withLock {body : Task Unit} (inside : 0 < n)
    (runs : Framed atRest i (WithinRest i n) (fun _ => WithinRest i n) body) :
    Framed atRest i (Outside i n) (fun _ => Outside i n) (withLock i body) := by
  have passed : ∀ m, Triple atRest i (fun s => Outside i n s ∧ m = s.manager)
      (raiseIf (m.holder = some i)
        (.builtin ⟨.runtimeError, "Attempted to acquire an already held Lock"⟩))
      (fun _ => Outside i n) (fun _ => Outside i n) := by
    rintro m s ⟨outside, rfl⟩
    rw [raiseIf, if_neg outside.holder]
    exact outside
  have acquired := (awaiting_spec (frame_outside i n) .acquire).conseq (fun _ outside => outside)
    (fun _ _ ended => ended) (fun _ _ failed => failed.1)
  refine Triple.bind triple_manager fun m => Triple.bind (passed m) fun _ => ?_
  refine Triple.bind acquired fun reply => ?_
  refine Triple.bind (Triple.modify fun s ended => ended.1.take inside ended.2.1) fun _ => ?_
  exact runs.finallyDo (fun _ => Triple.modify fun _ within => within.give)
    (fun _ => Triple.modify fun _ within => within.give)

theorem framed_restartWith {P : Shared → Prop} (frame : Frame atRest i P (fun _ => P))
    (records : ∀ restarting checks s, P s →
      (∀ j, j ≠ i → atRest.rely j s { s with restarting := restarting, checks := checks }) ∧
        P { s with restarting := restarting, checks := checks })
    (counts : ∀ (count : Nat) s, P s →
      (∀ j, j ≠ i → atRest.rely j s (s.edit fun m => { m with restartCount := count })) ∧
        P (s.edit fun m => { m with restartCount := count }))
    {stop init start : Task Unit} (stops : Framed atRest i P (fun _ => P) stop)
    (inits : Framed atRest i P (fun _ => P) init) (starts : Framed atRest i P (fun _ => P) start) :
    Framed atRest i P (fun _ => P) (restartWith i stop init start) := by
  have restarted : Framed atRest i P (fun _ => P) (do
      stop
      init
      start
      edit fun m => { m with restartCount := 0 }) :=
    stops.bind fun _ => inits.bind fun _ => starts.bind fun _ =>
      Triple.modify fun s holds => counts _ s holds
  refine framed_manager.bind fun m => (framed_raiseIf frame _ _).bind fun _ => ?_
  refine Triple.bind (Triple.modify fun s holds => records _ _ s holds) fun _ => ?_
  refine Triple.finallyDo (restarted.tryCatch fun e => ?_)
    (fun _ => Triple.modify fun s holds => records _ _ s holds)
    (fun _ => Triple.modify fun s holds => records _ _ s holds)
  split
  · refine Triple.bind (Triple.modify fun s holds => counts _ s holds) fun _ => ?_
    exact framed_manager.bind fun m => framed_raise frame _
  · exact fun _ holds => holds

/-- The lock is held already, so nothing happens but that the call raises. -/
theorem framed_relock (inside : 0 < n) :
    Framed atRest i (WithinRest i n) (fun _ => WithinRest i n)
      (operating i (withLock i (return ()))) := by
  refine framed_operating (P := WithinRest i) (fun _ within => within.push)
    (fun _ within => within.drop inside) fun s holds => ?_
  rw [withLock, wp_bind]
  change wp atRest i _ _ (raiseIf (s.manager.holder = some i) _ >>= _) s
  rw [wp_bind, raiseIf, if_pos holds.1.holder]
  exact holds

theorem framed_restartWithin (inside : 0 < n) :
    Framed atRest i (WithinRest i n) (fun _ => WithinRest i n) (restartWithin i) :=
  framed_restartWith (frame_withinRest i n)
    (fun _ _ _ holds => ⟨fun _ _ => ⟨Iff.rfl, fun _ rest => rest, rfl⟩,
      ⟨holds.1.inv, holds.1.holder, holds.1.count⟩, holds.2⟩)
    (fun _ _ holds => ⟨fun _ _ => ⟨Iff.rfl, fun _ rest => rest, rfl⟩,
      ⟨holds.1.inv, holds.1.holder, holds.1.count⟩, holds.2⟩)
    (framed_relock inside) (framed_relock inside) (framed_relock inside)

section Operations

variable (constructs : Constructs env)

include constructs

/-- What ends a body is either handled, which leaves the error state, or a cancellation
that met a state at rest. -/
theorem triple_guarded (inside : 0 < n) (failure : String) {body : Task Unit}
    (runs : Triple atRest i (Within i n) body (fun _ => WithinRest i n) (Stopped i n)) :
    Triple atRest i (Within i n) (guarded env i failure body) (fun _ => WithinRest i n)
      (fun _ => WithinRest i n) := by
  have settled : ¬ Transitional .error := by decide
  have edits : ∀ f, Minor f → Framed atRest i (Within i n) (fun _ => WithinRest i n) (edit f) :=
    fun f minor => Triple.modify fun s within => (frame_within i n).minor f s minor within
  have handled : Triple atRest i (Within i n) (handleErrorWith env (restartWithin i))
      (fun _ => WithinRest i n) (fun _ => WithinRest i n) :=
    triple_handleErrorWith edits (triple_settle constructs settled) (frame_withinRest i n)
      (framed_restartWithin inside)
  refine runs.tryCatch fun e => ?_
  cases e with
  | raised e =>
    refine Triple.bind (handled.conseq (fun _ stopped => stopped.1) (fun _ _ later => later)
      (fun _ _ later => later)) fun _ => ?_
    exact framed_raise (frame_withinRest i n) _
  | cancelled => exact fun _ stopped => ⟨stopped.1, stopped.2 rfl⟩

theorem framed_operation (refused : AgentState → Option Raised) (transit : AgentState)
    (failure : String) {body : Task Unit}
    (runs : Triple atRest i (Within i (n + 1)) body (fun _ => WithinRest i (n + 1))
      (Stopped i (n + 1))) :
    Framed atRest i (Outside i n) (fun _ => Outside i n)
      (operation env i refused transit failure body) := by
  refine framed_operating (P := Outside i) (fun _ outside => outside.push)
    (fun _ outside => outside.drop) (framed_withLock n.succ_pos ?_)
  refine framed_manager.bind fun m => ?_
  refine (framed_rejectIf (frame_withinRest i (n + 1)) _).bind fun _ => ?_
  have passed := (triple_transit (i := i) (n := n + 1) constructs transit).bind fun _ =>
    triple_guarded constructs n.succ_pos failure runs
  exact passed.conseq (fun _ within => within.1) (fun _ _ later => later) (fun _ _ later => later)

theorem settles (target : AgentState)
    (final : target ∈ [AgentState.initialized, .running, .stopped, .paused]) :
    Triple atRest i (Within i n) (setState env target) (fun _ => WithinRest i n) (Stopped i n) := by
  have settled : ¬ Transitional target := by
    simp only [List.mem_cons, List.not_mem_nil, or_false] at final
    rcases final with rfl | rfl | rfl | rfl <;> decide
  exact (triple_settle constructs settled).conseq (fun _ within => within) (fun _ _ later => later)
    (fun _ _ later => ⟨later.1, fun _ => later.2⟩)

theorem jobFrame : JobFrame atRest i (Outside i n) env := by
  have within := frame_within i (n + 1)
  have final := settles (i := i) (n := n + 1) constructs
  have rule : ∀ refused transit failure body,
      Triple atRest i (Within i (n + 1)) body (fun _ => WithinRest i (n + 1)) (Stopped i (n + 1)) →
      Framed atRest i (Outside i n) (fun _ => Outside i n)
        (operation env i refused transit failure body) :=
    fun refused transit failure _ runs => framed_operation constructs refused transit failure runs
  have stops := framed_stop within final rule
  have initializes := framed_initializeAgent within final rule
  have starts := framed_start within final rule
  exact
    { frame := frame_outside i n
      failing := triple_failing_outside constructs
      initializes, starts, stops
      pauses := framed_pause within final rule
      resumes := framed_resume within final rule
      restarts := framed_restartWith (frame_outside i n)
        (fun _ _ _ holds => ⟨fun _ _ => ⟨Iff.rfl, fun _ rest => rest, rfl⟩,
          holds.inv, holds.holder, holds.count⟩)
        (fun _ _ holds => ⟨fun _ _ => ⟨Iff.rfl, fun _ rest => rest, rfl⟩,
          holds.inv, holds.holder, holds.count⟩)
        stops initializes starts }

end Operations

end Calls

/-- Whatever the tasks do, the manager rests whenever no task is inside an operation,
if no await inside one ends in a way that the operation does not handle. -/
theorem rests_between_operations (env : Env) (constructs : Constructs env) (agentType : AgentType)
    (config : LifecycleConfig) (observability stateStore : Bool) (middlewares : Nat)
    (c : Config Shared Answer Interrupt Unit)
    (reached : Reachable (fun i query answer s => served i query answer s ∧ Caught i query answer s)
      (Started env) (fresh agentType config observability stateStore middlewares) c)
    (none : c.shared.operating = []) : ¬ Transitional c.shared.manager.state := by
  have created : atRest.inv (fresh agentType config observability stateStore middlewares) :=
    ⟨fun _ => (by decide : ¬ Transitional .created), fun _ held => (nomatch held)⟩
  have kept : atRest.inv c.shared := by
    refine reachable_inv (P := fun i => Outside i 0) ?_ (fun _ _ inv idle => ⟨inv, idle.1, idle.2⟩)
      (fun _ _ later => ⟨later.inv, later.holder, later.count⟩) created
      (fun _ => ⟨fun held => (nomatch held), rfl⟩) reached
    rintro i x ⟨job, rfl⟩
    exact framed_job (jobFrame (n := 0) constructs) job
  cases held : c.shared.manager.holder with
  | none => exact kept.1 held
  | some j =>
    have inside := kept.2 j held
    rw [none] at inside
    cases inside

def persistent : LifecycleConfig := ⟨0, .parallel, true, true⟩

def constructing : Env where
  transition := fun _ state => .ok ⟨.preInit, "agents.ledger.LedgerAgent", state⟩
  isCoroutine := fun _ => true

theorem constructing_constructs : Constructs constructing := fun _ _ => ⟨_, rfl, rfl⟩

theorem failed_load_rests : ∃ c,
    Reachable (fun i query answer s => served i query answer s ∧ Caught i query answer s)
      (Started constructing) (fresh ledgerAgent persistent false true 0) c ∧
    c.shared.manager.state = .error ∧ ¬ Transitional c.shared.manager.state := by
  have idle : Reachable (fun i query answer s => served i query answer s ∧ Caught i query answer s)
      (Started constructing) (fresh ledgerAgent persistent false true 0) _ := .refl
  have locked := (idle.spawn 0 syncAnswer rfl ⟨.init, rfl⟩).resume 0 (.awaits .acquire) (.ok ())
    syncAnswer rfl ⟨rfl, trivial⟩
  have ended := locked.resume 0 (.awaits .load)
    (.error (.raised (.builtin ⟨.oSError, "state store unavailable"⟩))) syncAnswer rfl
    ⟨trivial, fun _ escapes => escapes.elim⟩
  exact ⟨_, ended, rfl, rests_between_operations constructing constructing_constructs ledgerAgent
    persistent false true 0 _ ended rfl⟩

/-- A cancellation while the state store is read: no task is left, and the manager is
INITIALIZING for good. -/
theorem cancelled_load_sticks : Constructs constructing ∧ ∃ c,
    Reachable served (Started constructing) (fresh ledgerAgent persistent false true 0) c ∧
    (∀ i, c.tasks i = none) ∧ c.shared.operating = [] ∧ Transitional c.shared.manager.state := by
  have idle : Reachable served (Started constructing) (fresh ledgerAgent persistent false true 0) _ :=
    .refl
  have locked := (idle.spawn 0 syncAnswer rfl ⟨.init, rfl⟩).resume 0 (.awaits .acquire) (.ok ())
    syncAnswer rfl rfl
  have ended := locked.resume 0 (.awaits .load) (.error .cancelled) syncAnswer rfl trivial
  refine ⟨constructing_constructs, _, ended, fun i => ?_, rfl, by decide⟩
  by_cases first : i = 0
  · subst first
    rfl
  · simp [Config.put, Config.init, first]

end KuvaAI.LifecycleTasks
