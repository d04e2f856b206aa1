import KuvaAI.EventStream.Publisher

/-! Whether a pool's transactions keep apart from its other messages, over every
interleaving of its tasks. -/
namespace KuvaAI.Publisher
open Python Coroutine EventStream

variable {Payload : Type}

def served (_ : Nat) : (call : Call Payload) → Answer call → KafkaPublisherPool → Prop
  | .poolLock, .ok (), g => g.locked = false
  | .serializerLock, .ok (), g => g.schemas.locked = false
  | _, _, _ => True

def Reaches (c : Config KafkaPublisherPool (@Answer Payload) Interrupt Unit) : Prop :=
  Reachable served (fun _ x => ∃ operation : Operation Payload, x = operation.run) .init c

/-- A message of an active transaction is produced on the producer of that, and no
message without a transaction is discarded. -/
def Event.Isolated : Event → Prop
  | .published _ _ bound _ on => ∀ producer, bound = some producer → on = some producer
  | .aborted _ discarded => none ∉ discarded
  | _ => True

/-- A publish picks the producer of its active transaction, and without a transaction it
picks a producer that has none open. -/
def Event.WellPicked : Event → Prop
  | .published transactionId picked bound inTransaction _ =>
    (∀ producer, bound = some producer → picked = producer) ∧
      (transactionId = none → inTransaction = false)
  | _ => True

def WellPicked (history : List Event) : Prop := ∀ event ∈ history, event.WellPicked

section Invariant

def Unmixed (opened : Nat → Option (List (Option String))) : Prop :=
  ∀ producer messages, opened producer = some messages → none ∉ messages

def Apart (g : KafkaPublisherPool) : Prop :=
  WellPicked g.history → (∀ event ∈ g.history, event.Isolated) ∧ Unmixed g.opened

variable {g : KafkaPublisherPool} {producer : Nat}

theorem Apart.note (apart : Apart g) {event : Event}
    (isolated : event.WellPicked → Unmixed g.opened → event.Isolated) : Apart (g.note event) := by
  intro picked
  obtain ⟨before, unmixed⟩ := apart fun event member => picked event (List.mem_append_left _ member)
  refine ⟨fun other member => ?_, unmixed⟩
  rcases List.mem_append.mp member with old | new
  · exact before other old
  · cases List.mem_singleton.mp new
    exact isolated (picked event (List.mem_append_right _ List.mem_cons_self)) unmixed

theorem Apart.update (apart : Apart g) {messages : Option (List (Option String))}
    (unmixed : WellPicked g.history → Unmixed g.opened → ∀ list, messages = some list → none ∉ list) :
    Apart { g with opened := Function.update g.opened producer messages } := by
  intro picked
  obtain ⟨isolated, before⟩ := apart picked
  refine ⟨isolated, fun other list found => ?_⟩
  change Function.update g.opened producer messages other = some list at found
  by_cases same : other = producer
  · rw [same, Function.update_self] at found
    exact unmixed picked before list found
  · rw [Function.update_of_ne same] at found
    exact before other list found

theorem Apart.opens (apart : Apart g) : Apart (g.opens producer) := by
  refine apart.update fun _ unmixed list found => ?_
  cases found
  cases opened : g.opened producer with
  | none => simp
  | some messages => exact unmixed producer messages opened

theorem Apart.closes (apart : Apart g) : Apart (g.closes producer) :=
  apart.update fun _ _ _ found => nomatch found

theorem Apart.aborted (apart : Apart g) :
    Apart (g.note (.aborted producer ((g.opened producer).getD []))) := by
  refine apart.note fun _ unmixed => ?_
  cases opened : g.opened producer with
  | none => simp [Event.Isolated]
  | some messages => exact unmixed producer messages opened

theorem Apart.adds (apart : Apart g) {transactionId : Option String}
    (plain : WellPicked g.history → transactionId = none → g.opened producer = none) :
    Apart (g.adds producer transactionId) := by
  refine apart.update fun picked unmixed list found => ?_
  obtain ⟨messages, opened, rfl⟩ := Option.map_eq_some_iff.mp found
  intro member
  rcases List.mem_append.mp member with old | new
  · exact unmixed producer messages opened old
  · have none := plain picked (List.mem_singleton.mp new).symm
    rw [opened] at none
    cases none

end Invariant

section Tasks

abbrev KeepsApart {α : Type} (x : Task Payload α) : Prop := Preserves served Apart x

theorem closed_apart : Closed fun {_} (x : Task Payload _) => KeepsApart x := Preserves.closed served Apart

theorem apart_modify {f : KafkaPublisherPool → KafkaPublisherPool} (history : ∀ g, (f g).history = g.history)
    (opened : ∀ g, (f g).opened = g.opened) : KeepsApart (modify f : Task Payload PUnit) := by
  refine .modify fun g apart => ?_
  rwa [Apart, history, opened]

theorem apart_record {event : Event} (isolated : event.Isolated) :
    KeepsApart (record event : Task Payload Unit) :=
  .modify fun _ apart => apart.note fun _ _ => isolated

theorem apart_getProducer : KeepsApart (getProducer : Task Payload Nat) :=
  closed_apart.bind closed_apart.get fun _ => closed_apart.called fun _ =>
    closed_apart.bind (closed_raiseIf closed_apart _ _) fun _ => closed_apart.pure _

theorem apart_getSerializer (topic : String) : KeepsApart (getSerializer topic : Task Payload Unit) :=
  closed_getCodec schemas _ _ closed_apart (fun _ => apart_modify (fun _ => rfl) fun _ => rfl)
    (closed_apart.awaited fun _ => closed_outcome closed_apart _)
    (fun _ => closed_apart.called fun _ => closed_orRaise closed_apart _) topic

theorem apart_withLock {body : Task Payload Unit} (kept : KeepsApart body) : KeepsApart (withLock body) := by
  have locks : ∀ locked : Bool, KeepsApart (modify fun g => { g with locked := locked } : Task Payload PUnit) :=
    fun _ => apart_modify (fun _ => rfl) fun _ => rfl
  have holds := closed_apart.bind (locks true) fun _ => closed_apart.finallyDo kept (locks false)
  refine closed_apart.bind closed_apart.get fun g => Closed.ite ?_ holds
  exact closed_apart.awaited fun _ => closed_apart.bind (closed_outcome closed_apart _) fun _ => holds

theorem apart_beginTransaction (transactionId : String) :
    KeepsApart (beginTransaction transactionId : Task Payload Unit) := by
  refine apart_withLock (closed_apart.bind closed_apart.get fun _ =>
    closed_apart.bind (closed_raiseIf closed_apart _ _) fun _ =>
      closed_apart.bind apart_getProducer fun _ => closed_apart.called fun _ =>
        closed_apart.bind (closed_orRaise closed_apart _) fun _ => ?_)
  refine closed_apart.bind (apart_record (by trivial)) fun _ => closed_apart.bind ?_ fun _ => ?_
  · exact .modify fun _ apart => apart.opens
  · exact apart_modify (fun _ => rfl) fun _ => rfl

theorem apart_commit (producer : Nat) : KeepsApart (commit producer : Task Payload Unit) :=
  closed_apart.called fun _ => closed_apart.bind (closed_orRaise closed_apart _) fun _ =>
    closed_apart.bind (apart_record (by trivial)) fun _ => .modify fun _ apart => apart.closes

theorem apart_abort (producer : Nat) : KeepsApart (abort producer : Task Payload Unit) := by
  refine closed_apart.called fun _ => closed_apart.bind (closed_orRaise closed_apart _) fun _ => ?_
  intro i g apart
  rw [wp_bind, wp_get, wp_bind]
  exact ⟨fun _ _ => trivial, fun _ _ => trivial, apart.aborted.closes⟩

theorem apart_endTransaction (transactionId : String) {finish : Nat → Task Payload Unit}
    (kept : ∀ producer, KeepsApart (finish producer)) : KeepsApart (endTransaction transactionId finish) := by
  refine apart_withLock (closed_apart.bind closed_apart.get fun g => ?_)
  split
  · exact closed_raise closed_apart _
  · exact closed_apart.finallyDo (kept _) (apart_modify (fun _ => rfl) fun _ => rfl)

theorem apart_flushing (picked : Nat) : KeepsApart (do
    orRaise (← call (Call.poll picked))
    let left ← orRaise (← call (Call.flushNow picked))
    if 0 < left then
      orRaise (← call (Call.flush picked))
    else
      return () : Task Payload Unit) := by
  refine closed_apart.called fun _ => closed_apart.bind (closed_orRaise closed_apart _) fun _ =>
    closed_apart.called fun _ => closed_apart.bind (closed_orRaise closed_apart _) fun left =>
      Closed.ite ?_ (closed_apart.pure _)
  exact closed_apart.called fun _ => closed_orRaise closed_apart _

theorem apart_produceOn (picked : Nat) (topic : String) (message : Message Payload)
    (transactionId : Option String) (headers : List (String × String)) :
    KeepsApart (produceOn picked topic message transactionId headers) := by
  refine closed_apart.called fun _ => closed_apart.bind (closed_orRaise closed_apart _) fun value => ?_
  intro i g apart
  rw [wp_bind, wp_get, wp_ite]
  split
  · rename_i refused
    refine wp_modify_bind (fun _ _ => trivial) (apart.note ?_)
    rintro ⟨same, _⟩ _ producer bound
    exact (refused.2 (same producer bound ▸ bound)).elim
  · have placed : Apart (g.note (.published transactionId picked (transactionId.bind g.activeTransactions.get?)
        (g.opened picked).isSome (some picked))) :=
      apart.note fun well _ producer bound => congrArg some (well.1 producer bound)
    have plain : WellPicked (g.note (.published transactionId picked
          (transactionId.bind g.activeTransactions.get?) (g.opened picked).isSome (some picked))).history →
        transactionId = none → g.opened picked = none := by
      intro well absent
      have picks := well _ (List.mem_append_right _ List.mem_cons_self)
      exact Option.isSome_eq_false_iff.mp (picks.2 absent) |> Option.isNone_iff_eq_none.mp
    refine wp_modify_bind (fun _ _ => trivial) ((wp_bind _ _ _).mpr fun answer => (wp_bind _ _ _).mpr ?_)
    refine wp_orRaise (fun _ _ => wp_modify_bind (fun _ _ => trivial) ?_) fun _ _ => placed
    exact apart_flushing picked i _ (placed.adds plain)

theorem apart_closeProducer (producer : Nat) : KeepsApart (closeProducer producer : Task Payload Unit) := by
  refine closed_exceptException closed_apart (closed_apart.bind closed_apart.get fun g => ?_)
    fun _ => closed_apart.pure _
  have flushes : KeepsApart (do
      orRaise (← call (Call.flush producer))
      orRaise (← call (Call.closeProducer producer)) : Task Payload Unit) :=
    closed_apart.called fun _ => closed_apart.bind (closed_orRaise closed_apart _) fun _ =>
      closed_apart.called fun _ => closed_orRaise closed_apart _
  exact Closed.ite (closed_apart.bind (apart_abort producer) fun _ => flushes) flushes

theorem apart_operation (operation : Operation Payload) : KeepsApart operation.run := by
  cases operation with
  | enter maxConnections =>
    induction maxConnections with
    | zero => exact closed_apart.pure _
    | succ connections ih =>
      exact closed_apart.called fun _ => closed_apart.bind (closed_orRaise closed_apart _) fun _ =>
        closed_apart.bind (apart_modify (fun _ => rfl) fun _ => rfl) fun _ => ih
  | beginTransaction transactionId => exact apart_beginTransaction transactionId
  | commitTransaction transactionId => exact apart_endTransaction transactionId apart_commit
  | abortTransaction transactionId => exact apart_endTransaction transactionId apart_abort
  | publish topic message transactionId headers =>
    refine closed_asyncWith closed_apart (closed_apart.awaited fun _ => closed_outcome closed_apart _)
      (closed_apart.awaited fun _ => closed_outcome closed_apart _) ?_
    exact closed_apart.bind apart_getProducer fun picked =>
      closed_apart.bind (apart_getSerializer topic) fun _ =>
        apart_produceOn picked topic message transactionId headers
  | close =>
    refine apart_withLock (closed_apart.bind closed_apart.get fun g => Closed.ite (closed_apart.pure _) ?_)
    exact closed_apart.bind (apart_modify (fun _ => rfl) fun _ => rfl) fun _ =>
      closed_apart.forM fun producer _ => apart_closeProducer producer

end Tasks

/-- As long as each publish picks well, messages of active transactions are produced on
their producers and no message without a transaction is discarded by an abort. -/
theorem transactions_isolated (c : Config KafkaPublisherPool (@Answer Payload) Interrupt Unit)
    (reached : Reaches c) (picked : ∀ event ∈ c.shared.history, event.WellPicked) :
    ∀ event ∈ c.shared.history, event.Isolated := by
  have apart : Apart c.shared := by
    refine reachable_invariant (fun i x isTask => ?_) (fun _ => ⟨fun _ member => ?_, fun _ _ found => ?_⟩) reached
    · obtain ⟨operation, rfl⟩ := isTask
      exact apart_operation operation
    · exact (List.not_mem_nil member).elim
    · cases found
  exact (apart picked).1

section Examples

def clockAnswer (clock : Nat) (_ : Nat) : (call : Call String) → Answer call
  | .createProducer => .ok ()
  | .poolLock => .ok ()
  | .monotonicNs => clock
  | .beginTransaction _ => .ok ()
  | .commitTransaction _ => .ok ()
  | .abortTransaction _ => .ok ()
  | .breakerEnter => .ok ()
  | .breakerExit => .ok false
  | .serializerLock => .ok ()
  | .createSerializer _ => .ok ()
  | .serialize _ _ => .ok []
  | .produce _ _ _ _ _ => .ok ()
  | .poll _ => .ok ()
  | .flushNow _ => .ok (0 : Nat)
  | .flush _ => .ok ()
  | .closeProducer _ => .ok ()

def order : Message String := ⟨none, "order"⟩

def publishOrder (transactionId : Option String) : Operation String := .publish "orders" order transactionId []

def begun : Config KafkaPublisherPool (@Answer String) Interrupt Unit :=
  let entered := (Config.init .init).put 0 (advance (initializePool 3) (clockAnswer 0) 0 .init)
  entered.put 1 (advance (beginTransaction "txn") (clockAnswer 1) 0 entered.shared)

theorem reaches_begun : Reaches begun := by
  have idle : Reaches (.init .init : Config KafkaPublisherPool (@Answer String) Interrupt Unit) := .refl
  exact (idle.spawn 0 (clockAnswer 0) rfl ⟨.enter 3, rfl⟩).spawn 1 (clockAnswer 1) rfl
    ⟨.beginTransaction "txn", rfl⟩

theorem well_picked_isolated : ∃ c : Config KafkaPublisherPool (@Answer String) Interrupt Unit,
    Reaches c ∧ .aborted 0 [some "txn"] ∈ c.shared.history ∧
      ∀ event ∈ c.shared.history, event.Isolated := by
  have first := (reaches_begun.spawn 2 (clockAnswer 1) rfl ⟨publishOrder (some "txn"), rfl⟩).resume 2
    .breakerEnter (.ok ()) (clockAnswer 1) rfl trivial
  have second := (first.spawn 3 (clockAnswer 2) rfl ⟨publishOrder none, rfl⟩).resume 3
    .breakerEnter (.ok ()) (clockAnswer 2) rfl trivial
  have aborted := second.spawn 4 (clockAnswer 0) rfl ⟨.abortTransaction "txn", rfl⟩
  refine ⟨_, aborted, List.mem_of_getElem? (i := 3) rfl, transactions_isolated _ aborted ?_⟩
  have history : ∀ event ∈ [.began "txn" 0, .published (some "txn") 0 (some 0) true (some 0),
      .published none 1 none false (some 1), .aborted 0 [some "txn"]], Event.WellPicked event := by
    simp [Event.WellPicked]
  exact history

/-- The message of the transaction is refused, and the abort discards the other one. -/
theorem plain_order_discarded : ∃ c : Config KafkaPublisherPool (@Answer String) Interrupt Unit,
    Reaches c ∧ .published (some "txn") 1 (some 0) false none ∈ c.shared.history ∧
      .aborted 0 [none] ∈ c.shared.history ∧ ¬ ∀ event ∈ c.shared.history, event.Isolated := by
  have first := (reaches_begun.spawn 2 (clockAnswer 2) rfl ⟨publishOrder (some "txn"), rfl⟩).resume 2
    .breakerEnter (.ok ()) (clockAnswer 2) rfl trivial
  have second := (first.spawn 3 (clockAnswer 1) rfl ⟨publishOrder none, rfl⟩).resume 3
    .breakerEnter (.ok ()) (clockAnswer 1) rfl trivial
  have aborted := second.spawn 4 (clockAnswer 0) rfl ⟨.abortTransaction "txn", rfl⟩
  refine ⟨_, aborted, List.mem_of_getElem? (i := 1) rfl, List.mem_of_getElem? (i := 3) rfl,
    fun isolated => ?_⟩
  exact isolated (.aborted 0 [none]) (List.mem_of_getElem? (i := 3) rfl) List.mem_cons_self

end Examples

end KuvaAI.Publisher
