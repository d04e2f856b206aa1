import KuvaAI.EventStream.SubscriberBook

/-! What a subscriber commits and how often it calls the handler, over every interleaving
of its tasks. -/
namespace KuvaAI.Subscriber
open Python Coroutine EventStream

variable {Parsed : Type}

def served (_ : Nat) : (call : Call Parsed) → Answer call → KafkaSubscriber → Prop
  | .lock, .ok (), g => g.schemas.locked = false
  | .acquirePermit, .ok (), g => 0 < g.permits
  | _, _, _ => True

/-- No message that lies before this one in its partition waits, is being processed or
was lost, unless it has been handled. -/
def Clear (b : Book) (delivery : Delivery) : Prop :=
  ∀ other, Outstanding b other → other.message.SamePartition delivery.message →
    other.message.offset < delivery.message.offset → Settled b.history other.message.position

/-- The handler succeeds with the messages of a partition in their order. -/
def servedInOrder (task : Nat) (call : Call Parsed) (answer : Answer call) (g : KafkaSubscriber) : Prop :=
  served task call answer g ∧
    match call, answer with
    | .messageHandler delivery _, .ok () => Clear g.toBook delivery
    | _, _ => True

def Reaches (allowed : Nat → (call : Call Parsed) → Answer call → KafkaSubscriber → Prop)
    (config : SubscriberConfig) (c : Config KafkaSubscriber (@Answer Parsed) Interrupt Unit) : Prop :=
  Reachable allowed (fun task x => ∃ operation : Operation, x = operation.task config task) (.init config) c

section Discipline

structure Sound (cautious : Prop) (limit : Nat) (b : Book) : Prop where
  ledger : Ledger limit b
  conserved : Conserved b
  frontier : cautious → History.Each Frontier b.history

structure Untouched (task : Nat) (b b' : Book) : Prop where
  processing : b'.processing task = b.processing task
  grown : b.history ⊆ b'.history
  invocations : ∀ delivery, b.processing task = some delivery →
    invocations b'.history delivery.number = invocations b.history delivery.number

def custody (allowed : Nat → (call : Call Parsed) → Answer call → KafkaSubscriber → Prop)
    (cautious : Prop) (limit : Nat) : Discipline KafkaSubscriber (@Answer Parsed) where
  allowed := allowed
  inv g := Sound cautious limit g.toBook
  rely task g h := Untouched task g.toBook h.toBook
  idle task g := g.processing task = none
  rely_refl _ _ := ⟨rfl, List.Subset.refl _, fun _ _ => rfl⟩
  rely_trans _ _ _ _ first second := ⟨second.processing.trans first.processing,
    List.Subset.trans first.grown second.grown, fun delivery busy =>
      (second.invocations delivery (first.processing.trans busy)).trans (first.invocations delivery busy)⟩
  idle_stable _ _ _ moved idle := moved.processing.trans idle

variable {cautious : Prop} {limit task spent : Nat} {delivery : Delivery} {b : Book}

structure Busy (cautious : Prop) (limit task spent : Nat) (delivery : Delivery) (b : Book) : Prop where
  sound : Sound cautious limit b
  processing : b.processing task = some delivery
  within : Within limit spent b.history delivery

structure Idle (cautious : Prop) (limit task : Nat) (b : Book) : Prop where
  sound : Sound cautious limit b
  processing : b.processing task = none

theorem Within.later {b' : Book} (within : Within limit spent b.history delivery)
    (same : invocations b'.history delivery.number = invocations b.history delivery.number) :
    Within limit spent b'.history delivery := by
  obtain ⟨attempt, header, few, spent⟩ := within
  exact ⟨attempt, header, few, same ▸ spent⟩

theorem Busy.stable {b' : Book} (busy : Busy cautious limit task spent delivery b)
    (moved : Untouched task b b') (sound : Sound cautious limit b') :
    Busy cautious limit task spent delivery b' :=
  ⟨sound, moved.processing.trans busy.processing,
    busy.within.later (moved.invocations delivery busy.processing)⟩

theorem Sound.note (sound : Sound cautious limit b) {event : Event}
    (silent : ∀ number, event.invokes number = false) (other : ∀ delivery, event ≠ .polled delivery)
    (frontier : cautious → Frontier b.history event) : Sound cautious limit (b.note event) where
  ledger := sound.ledger.note silent
  conserved := sound.conserved.note event other
  frontier yes := History.each_snoc.mpr ⟨sound.frontier yes, frontier yes⟩

theorem untouched_note {event : Event}
    (silent : ∀ delivery, b.processing task = some delivery → event.invokes delivery.number = false) :
    Untouched task b (b.note event) where
  processing := rfl
  grown := List.subset_append_left _ _
  invocations delivery busy := by simp [Book.note, invocations_snoc, silent delivery busy]

theorem untouched_of_same {b' : Book} (processing : b'.processing task = b.processing task)
    (history : b'.history = b.history) : Untouched task b b' :=
  ⟨processing, fun _ member => history ▸ member, fun _ _ => by rw [history]⟩

theorem Busy.note (busy : Busy cautious limit task spent delivery b) {event : Event}
    (silent : ∀ number, event.invokes number = false) (other : ∀ delivery, event ≠ .polled delivery)
    (frontier : cautious → Frontier b.history event) :
    Busy cautious limit task spent delivery (b.note event) :=
  ⟨busy.sound.note silent other frontier, busy.processing, busy.within.note (silent _)⟩

theorem Busy.invoke (busy : Busy cautious limit task 0 delivery b) :
    Busy cautious limit task 1 delivery (b.note (.invoked delivery)) where
  sound := ⟨busy.sound.ledger.invoke busy.processing busy.within,
    busy.sound.conserved.note _ (by simp), fun yes =>
      History.each_snoc.mpr ⟨busy.sound.frontier yes, trivial⟩⟩
  processing := busy.processing
  within := busy.within.invoked

theorem Busy.untouched_invoke (busy : Busy cautious limit task 0 delivery b) {other : Nat}
    (different : other ≠ task) : Untouched other b (b.note (.invoked delivery)) := by
  refine untouched_note fun another held => ?_
  have apart : another.number ≠ delivery.number := fun same =>
    different (busy.sound.ledger.task_eq busy.processing held same)
  simpa [Event.invokes] using apart.symm

theorem Busy.requeue (busy : Busy cautious limit task 1 delivery b) {attempt : Nat}
    (header : delivery.message.retryAttempt = .number attempt) (few : attempt < limit) :
    Sound cautious limit (b.requeue task (delivery.retry attempt)) where
  ledger := busy.sound.ledger.requeue busy.processing busy.within header few
  conserved := busy.sound.conserved.requeue busy.processing rfl
  frontier := busy.sound.frontier

theorem Sound.leave (sound : Sound cautious limit b) (task : Nat) : Sound cautious limit (b.leave task) where
  ledger := sound.ledger.leave task
  conserved := sound.conserved.leave task
  frontier yes := by
    have old := sound.frontier yes
    unfold Book.leave
    split
    · exact old
    · split
      · exact old
      · exact History.each_snoc.mpr ⟨old, trivial⟩

theorem idle_leave (sound : Sound cautious limit b) : Idle cautious limit task (b.leave task) := by
  refine ⟨sound.leave task, ?_⟩
  unfold Book.leave
  split
  · assumption
  · split <;> simp [Book.clear, Book.note]

theorem untouched_leave {other : Nat} (different : other ≠ task) :
    Untouched other b (b.leave task) := by
  have cleared : Untouched other b (b.clear task) :=
    untouched_of_same (Function.update_of_ne different _ _) rfl
  unfold Book.leave
  split
  · exact untouched_of_same rfl rfl
  · split
    · exact cleared
    · exact ⟨cleared.processing, List.subset_append_left _ _, fun _ _ => by
        simp [Book.note, Book.clear, invocations_snoc, Event.invokes]⟩

theorem Idle.take (idle : Idle cautious limit task b) {b' : Book} (moves : Moves b [delivery] b') :
    Busy cautious limit task 0 delivery (b'.take task delivery) where
  sound := ⟨idle.sound.ledger.take moves task, idle.sound.conserved.take idle.processing moves,
    fun yes => moves.history ▸ idle.sound.frontier yes⟩
  processing := Function.update_self _ _ _
  within := (idle.sound.ledger.taken_within moves : Within limit 0 b'.history delivery)

theorem Idle.rearrange (idle : Idle cautious limit task b) {b' : Book} (moves : Moves b [] b') :
    Idle cautious limit task b' where
  sound := ⟨idle.sound.ledger.rearrange moves, idle.sound.conserved.rearrange moves,
    fun yes => moves.history ▸ idle.sound.frontier yes⟩
  processing := moves.processing ▸ idle.processing

theorem Idle.receive (idle : Idle cautious limit task b) (polled : Polled) :
    Idle cautious limit task (b.receive polled.val) where
  sound := ⟨idle.sound.ledger.receive polled, idle.sound.conserved.receive polled.val, fun yes =>
    History.each_snoc.mpr ⟨idle.sound.frontier yes, trivial⟩⟩
  processing := idle.processing

theorem untouched_receive (polled : Polled) {other : Nat} : Untouched other b (b.receive polled.val) where
  processing := rfl
  grown := List.subset_append_left _ _
  invocations _ _ := by simp [Book.receive, Book.note, Book.create, invocations_snoc, Event.invokes]

end Discipline

section Tasks

variable {allowed : Nat → (call : Call Parsed) → Answer call → KafkaSubscriber → Prop}
  {cautious : Prop} {limit task spent : Nat} {delivery : Delivery} {config : SubscriberConfig}

def Does (allowed : Nat → (call : Call Parsed) → Answer call → KafkaSubscriber → Prop) (cautious : Prop)
    (limit task : Nat) (pre : Book → Prop) {α : Type} (x : Task Parsed α) (post exn : Book → Prop) : Prop :=
  Triple (custody allowed cautious limit) task (fun g => pre g.toBook) x (fun _ g => post g.toBook)
    fun _ g => exn g.toBook

structure Stable (cautious : Prop) (limit task : Nat) (P : Book → Prop) : Prop where
  sound : ∀ b, P b → Sound cautious limit b
  moved : ∀ b b', P b → Untouched task b b' → Sound cautious limit b' → P b'

theorem stable_sound : Stable cautious limit task (Sound cautious limit) :=
  ⟨fun _ sound => sound, fun _ _ _ _ sound => sound⟩

theorem stable_idle : Stable cautious limit task (Idle cautious limit task) :=
  ⟨fun _ idle => idle.sound, fun _ _ idle moved sound => ⟨sound, moved.processing.trans idle.processing⟩⟩

theorem stable_busy : Stable cautious limit task (Busy cautious limit task spent delivery) :=
  ⟨fun _ busy => busy.sound, fun _ _ busy moved sound => busy.stable moved sound⟩

section Rules

variable {P Q : Book → Prop} {α : Type}

abbrev Steady (allowed : Nat → (call : Call Parsed) → Answer call → KafkaSubscriber → Prop)
    (cautious : Prop) (limit task : Nat) (P : Book → Prop) (x : Task Parsed α) : Prop :=
  Does allowed cautious limit task P x P P

theorem closed_steady (stable : Stable cautious limit task P) :
    Closed fun {_} (x : Task Parsed _) => Steady allowed cautious limit task P x :=
  Triple.closed (fun g holds => stable.sound g.toBook holds)
    fun g h holds moved sound => stable.moved g.toBook h.toBook holds moved sound

theorem does_edit {f : Book → Book} {exn : Book → Prop}
    (holds : ∀ b, P b → (∀ other, other ≠ task → Untouched other b (f b)) ∧ Q (f b)) :
    Does allowed cautious limit task P (edit f : Task Parsed Unit) Q exn :=
  fun g started => holds g.toBook started

theorem steady_modify {f : KafkaSubscriber → KafkaSubscriber} (same : ∀ g, (f g).toBook = g.toBook) :
    Steady allowed cautious limit task P (modify f : Task Parsed PUnit) := by
  intro g holds
  refine ⟨fun other _ => ?_, ?_⟩
  · change Untouched other g.toBook (f g).toBook
    rw [same]
    exact untouched_of_same rfl rfl
  · change P (f g).toBook
    rwa [same]

end Rules

theorem steady_getDeserializer {P : Book → Prop} (stable : Stable cautious limit task P) (topic : String) :
    Steady allowed cautious limit task P (getDeserializer topic : Task Parsed Unit) := by
  have closed : Closed fun {_} (x : Task Parsed _) => Steady allowed cautious limit task P x :=
    closed_steady stable
  exact closed_getCodec schemas _ _ closed (fun _ => steady_modify fun _ => rfl)
    (closed.awaited fun _ => closed_outcome closed _)
    (fun _ => closed.called fun _ => closed_orRaise closed _) topic

theorem steady_handleInvalidMessage :
    Steady allowed cautious limit task (Busy cautious limit task spent delivery)
      (handleInvalidMessage config delivery : Task Parsed Unit) := by
  have closed : Closed fun {_} (x : Task Parsed _) =>
      Steady allowed cautious limit task (Busy cautious limit task spent delivery) x :=
    closed_steady stable_busy
  unfold handleInvalidMessage
  split
  · exact closed.pure _
  · refine Triple.ite (fun _ => ?_) fun _ => closed.pure _
    refine closed.bind (closed_raise closed _) fun _ => closed.awaited fun _ =>
      closed.bind (closed_outcome closed _) fun _ => does_edit fun b busy => ⟨fun _ _ => ?_, ?_⟩
    · exact untouched_note fun _ _ => rfl
    · exact busy.note (fun _ => rfl) (by simp) fun _ => trivial

theorem does_handleProcessingFailure :
    Does allowed cautious config.maxRetryAttempts task (Busy cautious config.maxRetryAttempts task 1 delivery)
      (handleProcessingFailure config task delivery : Task Parsed Unit)
      (Sound cautious config.maxRetryAttempts) (Sound cautious config.maxRetryAttempts) := by
  unfold handleProcessingFailure
  cases header : delivery.message.retryAttempt with
  | bytes value => exact fun g busy => busy.sound
  | number attempt =>
    refine Triple.ite (fun few => ?_) fun _ => ?_
    · refine does_edit fun b busy => ⟨fun other different => ?_, busy.requeue header few⟩
      exact untouched_of_same (Function.update_of_ne different _ _) rfl
    · exact steady_handleInvalidMessage.conseq (fun _ busy => busy) (fun _ _ busy => busy.sound)
        fun _ _ busy => busy.sound

theorem frontier_handled {b : Book} (conserved : Conserved b) (clear : Clear b delivery) :
    Frontier (b.note (.handled delivery)).history (.committed delivery) := by
  intro other member samePartition below
  have polled : .polled other ∈ b.history := by simpa [Book.note] using member
  rcases below.eq_or_lt with same | lower
  · refine settled_snoc ?_
    simp [Event.settles, Message.position, samePartition.1, samePartition.2, same]
  · refine Settled.mono ?_ (List.subset_append_left _ _)
    rcases conserved other polled with settled | ⟨copy, outstanding, same⟩
    · exact settled
    · rw [← same]
      simp only [Message.position, Position.mk.injEq] at same
      refine clear copy outstanding ⟨same.1.trans samePartition.1, same.2.1.trans samePartition.2⟩ ?_
      exact same.2.2 ▸ lower

variable (orderly : ∀ task delivery parsed g, cautious →
  allowed task (.messageHandler delivery parsed) (.ok ()) g → Clear g.toBook delivery)

include orderly

theorem triple_messageHandler (parsed : Parsed) {exn : Interrupt → KafkaSubscriber → Prop} :
    Triple (custody allowed cautious limit) task (fun g => Busy cautious limit task 1 delivery g.toBook)
      (wait (Call.messageHandler delivery parsed))
      (fun answer g => Busy cautious limit task 1 delivery g.toBook ∧
        (answer = .ok () → cautious → Clear g.toBook delivery)) exn := by
  intro g busy
  rw [wp_wait]
  refine ⟨busy.sound, fun answer h moved sound answered => ⟨busy.stable moved sound, ?_⟩⟩
  rintro rfl yes
  exact orderly task delivery parsed h yes answered

theorem does_handleMessage :
    Does allowed cautious limit task (Busy cautious limit task 0 delivery)
      (handleMessage config delivery : Task Parsed Unit)
      (Busy cautious limit task 1 delivery) (Busy cautious limit task 1 delivery) := by
  have weaker : ∀ b, Busy cautious limit task 0 delivery b → Busy cautious limit task 1 delivery b :=
    fun b busy => ⟨busy.sound, busy.processing, by
      obtain ⟨attempt, header, few, spent⟩ := busy.within
      exact ⟨attempt, header, few, Nat.le_succ_of_le spent⟩⟩
  have found : Does allowed cautious limit task (Busy cautious limit task 0 delivery)
      (getDeserializer delivery.message.topic : Task Parsed Unit)
      (Busy cautious limit task 0 delivery) (Busy cautious limit task 1 delivery) :=
    (steady_getDeserializer stable_busy _).conseq (fun _ busy => busy) (fun _ _ busy => busy)
      fun _ g busy => weaker g.toBook busy
  refine found.bind fun _ => Triple.bind (fun _ busy _ => busy) fun answer =>
    Triple.bind (fun g busy => wp_orRaise (fun _ _ => busy) fun _ _ => weaker g.toBook busy) fun parsed => ?_
  refine Triple.bind (does_edit fun b busy => ⟨fun _ different => busy.untouched_invoke different, busy.invoke⟩)
    fun _ => ?_
  refine (triple_messageHandler orderly parsed).bind fun answer => ?_
  have succeeded : Triple (custody allowed cautious limit) task
      (fun g => Busy cautious limit task 1 delivery g.toBook ∧
        (answer = .ok () → cautious → Clear g.toBook delivery))
      (outcome answer) (fun _ g => Busy cautious limit task 1 delivery g.toBook ∧
        (cautious → Clear g.toBook delivery))
      (fun _ g => Busy cautious limit task 1 delivery g.toBook) :=
    fun g handled => wp_outcome (fun _ same => ⟨handled.1, handled.2 same⟩) fun _ _ => handled.1
  refine succeeded.bind fun _ => ?_
  have recorded : Triple (custody allowed cautious limit) task
      (fun g => Busy cautious limit task 1 delivery g.toBook ∧ (cautious → Clear g.toBook delivery))
      (record (.handled delivery)) (fun _ g => Busy cautious limit task 1 delivery g.toBook ∧
        (cautious → Frontier g.history (.committed delivery)))
      (fun _ g => Busy cautious limit task 1 delivery g.toBook) := by
    rintro g ⟨busy, clear⟩
    refine ⟨fun _ _ => untouched_note fun _ _ => rfl, ?_, fun yes => ?_⟩
    · exact busy.note (fun _ => rfl) (by simp) fun _ => trivial
    · exact frontier_handled busy.sound.conserved (clear yes)
  refine recorded.bind fun _ => Triple.ite (fun _ _ ended => ended.1) fun _ => ?_
  refine Triple.bind (?_ : Triple _ task _ _ (fun _ g => Busy cautious limit task 1 delivery g.toBook) _)
    fun _ => ?_
  · rintro g ⟨busy, frontier⟩
    exact ⟨fun _ _ => untouched_note fun _ _ => rfl, busy.note (fun _ => rfl) (by simp) frontier⟩
  · exact Triple.bind (fun _ busy _ => busy) fun answer =>
      fun g busy => wp_orRaise (fun _ _ => busy) fun _ _ => busy

/-- An exception, a cancellation or a failed commit leaves the books in order. -/
theorem does_processMessage :
    Does allowed cautious config.maxRetryAttempts task (Busy cautious config.maxRetryAttempts task 0 delivery)
      (processMessage config task delivery : Task Parsed Unit)
      (Sound cautious config.maxRetryAttempts) (Sound cautious config.maxRetryAttempts) := by
  have closed : Closed fun {_} (x : Task Parsed _) =>
      Steady allowed cautious config.maxRetryAttempts task (Sound cautious config.maxRetryAttempts) x :=
    closed_steady stable_sound
  have exits : Steady allowed cautious config.maxRetryAttempts task (Sound cautious config.maxRetryAttempts)
      (do outcome (← wait Call.breakerExit) : Task Parsed Bool) :=
    closed.awaited fun _ => closed_outcome closed _
  have releases : Steady allowed cautious config.maxRetryAttempts task (Sound cautious config.maxRetryAttempts)
      (releasePermit config : Task Parsed Bool) :=
    closed.bind closed.get fun _ => closed.bind (closed_raiseIf closed _ _) fun _ =>
      closed.bind (steady_modify fun _ => rfl) fun _ => closed.pure _
  have enters : ∀ {q : Call Parsed} {f : Answer q → Task Parsed Unit}, (∀ answer,
      Steady allowed cautious config.maxRetryAttempts task
        (Busy cautious config.maxRetryAttempts task 0 delivery) (f answer)) →
      Does allowed cautious config.maxRetryAttempts task
        (Busy cautious config.maxRetryAttempts task 0 delivery) (wait q >>= f)
        (Busy cautious config.maxRetryAttempts task 0 delivery) (Sound cautious config.maxRetryAttempts) :=
    fun steady => ((closed_steady stable_busy).bind ((closed_steady stable_busy).wait _) steady).conseq
      (fun _ busy => busy) (fun _ _ busy => busy) fun _ _ busy => busy.sound
  have busies : Closed fun {_} (x : Task Parsed _) =>
      Steady allowed cautious config.maxRetryAttempts task
        (Busy cautious config.maxRetryAttempts task 0 delivery) x := closed_steady stable_busy
  refine triple_asyncWith (enters fun _ => closed_outcome busies _) ?_ exits
  refine triple_asyncWith (enters fun _ => busies.bind (closed_outcome busies _) fun _ =>
    steady_modify fun _ => rfl) ?_ releases
  refine triple_exceptException ((does_handleMessage orderly).conseq (fun _ busy => busy)
    (fun _ _ busy => busy.sound) fun _ _ busy => busy) (fun e => Triple.ite (fun _ => ?_) fun _ => ?_)
    fun _ busy => busy.sound
  · exact steady_handleInvalidMessage.conseq (fun _ busy => busy) (fun _ _ busy => busy.sound)
      fun _ _ busy => busy.sound
  · exact does_handleProcessingFailure

theorem does_work {b : Book} :
    Does allowed cautious config.maxRetryAttempts task
      (fun b' => Idle cautious config.maxRetryAttempts task b ∧ Moves b [delivery] b')
      (work config task delivery : Task Parsed Unit)
      (Idle cautious config.maxRetryAttempts task) (Idle cautious config.maxRetryAttempts task) := by
  have taken : Does allowed cautious config.maxRetryAttempts task
      (fun b' => Idle cautious config.maxRetryAttempts task b ∧ Moves b [delivery] b')
      (edit fun b => b.take task delivery : Task Parsed Unit)
      (Busy cautious config.maxRetryAttempts task 0 delivery) (Idle cautious config.maxRetryAttempts task) :=
    does_edit fun b' started => ⟨fun other different =>
      untouched_of_same (Function.update_of_ne different _ _) rfl, started.1.take started.2⟩
  have left : Does allowed cautious config.maxRetryAttempts task (Sound cautious config.maxRetryAttempts)
      (edit fun b => b.leave task : Task Parsed Unit) (Idle cautious config.maxRetryAttempts task)
      (Idle cautious config.maxRetryAttempts task) :=
    does_edit fun _ sound => ⟨fun _ different => untouched_leave different, idle_leave sound⟩
  exact taken.bind fun _ => Triple.finallyDo (does_processMessage orderly) (fun _ => left) fun _ => left

abbrev Rests (allowed : Nat → (call : Call Parsed) → Answer call → KafkaSubscriber → Prop)
    (cautious : Prop) (config : SubscriberConfig) (task : Nat) {α : Type} (x : Task Parsed α) : Prop :=
  Steady allowed cautious config.maxRetryAttempts task (Idle cautious config.maxRetryAttempts task) x

theorem rests_retryNext : Rests allowed cautious config task (retryNext config task : Task Parsed Unit) := by
  intro g idle
  rw [retryNext, wp_bind, wp_get]
  cases queued : g.retryQueue with
  | nil => exact idle
  | cons delivery rest =>
    have moves := moves_retry queued
    refine (wp_bind _ _ g).mpr ⟨fun other _ => ?_, ?_⟩
    · exact untouched_of_same rfl rfl
    · exact does_work orderly _ ⟨idle, moves⟩

theorem rests_handleRetries (rounds : Nat) :
    Rests allowed cautious config task (handleRetries config task rounds : Task Parsed Unit) := by
  have closed : Closed fun {_} (x : Task Parsed _) => Rests allowed cautious config task x :=
    closed_steady stable_idle
  induction rounds with
  | zero => exact closed.throw _
  | succ rounds ih =>
    refine closed.bind closed.get fun g => Closed.ite (closed.pure _) ?_
    refine closed.bind (closed_exceptException closed (rests_retryNext orderly) fun _ => closed.pure _)
      fun _ => closed.awaited fun _ => closed.bind (closed_outcome closed _) fun _ => ih

theorem rests_begin (index : Nat) :
    Rests allowed cautious config task (begin config task index : Task Parsed Unit) := by
  intro g idle
  rw [begin, wp_bind, wp_get]
  cases found : g.scheduled[index]? with
  | none => exact idle
  | some job =>
    have moves := moves_begin found
    refine (wp_bind _ _ g).mpr ⟨fun other _ => untouched_of_same rfl rfl, ?_⟩
    cases job with
    | process delivery => exact does_work orderly _ ⟨idle, moves⟩
    | handleRetries rounds => exact rests_handleRetries orderly rounds _ (idle.rearrange moves)

theorem rests_operation (operation : Operation) :
    Rests allowed cautious config task (operation.task config task : Task Parsed Unit) := by
  have closed : Closed fun {_} (x : Task Parsed _) => Rests allowed cautious config task x :=
    closed_steady stable_idle
  have initializes : Rests allowed cautious config task (initializeConsumer : Task Parsed Unit) :=
    closed.called fun _ => closed.bind (closed_orRaise closed _) fun _ => steady_modify fun _ => rfl
  have recovers : Rests allowed cautious config task (rebalanceRecovery : Task Parsed Unit) :=
    closed.called fun _ => closed.bind (closed_orRaise closed _) fun _ =>
      closed.bind initializes fun _ => closed.bind closed.get fun _ => closed.called fun _ =>
        closed_orRaise closed _
  have polling : ∀ polls, Rests allowed cautious config task (pollEach polls : Task Parsed Unit) := by
    intro polls
    induction polls with
    | zero => exact closed.throw _
    | succ polls ih =>
      refine closed.bind closed.get fun g => Closed.ite (closed.pure _) ?_
      refine closed.called fun polled => closed.bind (steady_modify fun _ => rfl) fun _ => ?_
      split
      · exact ih
      · exact ih
      · exact closed.bind (does_edit fun b idle => ⟨fun _ _ => untouched_receive _, idle.receive _⟩)
          fun _ => ih
      · exact closed.bind recovers fun _ => ih
      · exact closed_raise closed _
  cases operation with
  | enter => exact initializes
  | run topics rounds polls =>
    refine closed.bind closed.get fun g => closed.bind (closed_raiseIf closed _ _) fun _ =>
      closed.called fun _ => closed.bind (closed_orRaise closed _) fun _ =>
        closed.bind (does_edit fun b idle => ⟨fun _ _ => ?_, ?_⟩) fun _ => polling polls
    · exact untouched_of_same rfl rfl
    · exact idle.rearrange (moves_create_handleRetries rounds)
  | begin index => exact rests_begin orderly index
  | close =>
    refine closed.bind (steady_modify fun _ => rfl) fun _ => closed.bind closed.get fun g =>
      Closed.ite ?_ (closed.pure _)
    exact closed_exceptException closed (closed.called fun _ => closed_orRaise closed _)
      fun _ => closed.pure _

variable (cautious) in
theorem sound_reached {c : Config KafkaSubscriber (@Answer Parsed) Interrupt Unit}
    (reached : Reaches allowed config c) : Sound cautious config.maxRetryAttempts c.shared.toBook := by
  have ledger : Ledger config.maxRetryAttempts (KafkaSubscriber.init config).toBook :=
    { exclusive := Custody.exclusive_nothing
      numbered := fun _ tracked => by simp [KafkaSubscriber.init, Book.waiting] at tracked
      unheard := fun _ _ => rfl
      within := fun _ member => (List.not_mem_nil member).elim
      retried := fun _ member => (List.not_mem_nil member).elim
      bounded := fun _ => Nat.zero_le _ }
  have started : Sound cautious config.maxRetryAttempts (KafkaSubscriber.init config).toBook :=
    ⟨ledger, fun _ member => (List.not_mem_nil member).elim, fun _ => History.each_nil⟩
  refine reachable_inv (D := custody allowed cautious config.maxRetryAttempts)
    (P := fun task g => Idle cautious config.maxRetryAttempts task g.toBook) ?_
    (fun _ _ sound idle => ⟨sound, idle⟩) (fun _ _ rests => ⟨rests.sound, rests.processing⟩) started
    (fun _ => rfl) reached
  rintro task x ⟨operation, rfl⟩
  exact rests_operation orderly operation

end Tasks

section Examples

/-- A cluster that has these messages; the callback of the assignment after them fails,
and the poll with it. -/
def clusterAnswer (polled : List Polled) (n : Nat) : (call : Call String) → Answer call
  | .createConsumer => .ok ()
  | .subscribe _ => .ok ()
  | .resubscribe _ => .ok ()
  | .poll => ⟨[], match polled[n - 1]? with
      | some message => .message message
      | none => .raised ⟨.runtimeError, "metrics exporter is down"⟩⟩
  | .closeConsumer => .ok ()
  | .breakerEnter => .ok ()
  | .breakerExit => .ok false
  | .acquirePermit => .ok ()
  | .lock => .ok ()
  | .createDeserializer _ => .ok ()
  | .deserialize _ _ => .ok "order"
  | .messageHandler _ _ => .ok ()
  | .commit _ => .ok ()
  | .publish _ _ _ => .ok ()
  | .sleep => .ok ()

theorem clear_alone {b : Book} {task : Nat} {delivery : Delivery} (history : List Event)
    (nobody : b.waiting = [])
    (alone : b.processing = Function.update (fun _ => none) task (some delivery))
    (same : b.history = history) (kept : ∀ other, .lost other ∉ history) : Clear b delivery := by
  subst same
  rintro other (waits | ⟨i, held⟩ | lost) _ lower
  · simp [nobody] at waits
  · rw [alone] at held
    by_cases same : i = task
    · simp only [same, Function.update_self, Option.some.injEq] at held
      exact absurd lower (held ▸ lt_irrefl _)
    · simp [same] at held
  · exact (kept other lost).elim

def twoAtOnce : SubscriberConfig := ⟨false, 2, 1, none⟩

def order (offset : Int) : Polled := ⟨⟨"orders", 0, offset, none, Dict.empty⟩, rfl⟩

def polledAll (polled : List Polled) : Config KafkaSubscriber (@Answer String) Interrupt Unit :=
  let entered := (Config.init (.init twoAtOnce)).put 0
    (advance initializeConsumer (clusterAnswer polled) 0 (.init twoAtOnce))
  entered.put 1 (advance (run ["orders"] 1 3) (clusterAnswer polled) 0 entered.shared)

theorem reaches_polledAll (allowed : Nat → (call : Call String) → Answer call → KafkaSubscriber → Prop)
    (polled : List Polled) : Reaches allowed twoAtOnce (polledAll polled) := by
  have idle : Reaches allowed twoAtOnce (.init (.init twoAtOnce)) := .refl
  exact (idle.spawn 0 (clusterAnswer polled) rfl ⟨.enter, rfl⟩).spawn 1 (clusterAnswer polled) rfl
    ⟨.run ["orders"] 1 3, rfl⟩

end Examples

/-- In a run in which the handler succeeds with the messages of each partition in their
order, everything below a committed offset was handled or dead-lettered. -/
theorem commits_cover (config : SubscriberConfig)
    (c : Config KafkaSubscriber (@Answer Parsed) Interrupt Unit) (reached : Reaches servedInOrder config c) :
    History.Each Frontier c.shared.history :=
  (sound_reached True (fun _ _ _ _ _ answered => answered.2) reached).frontier trivial

theorem one_order_covered : ∃ c : Config KafkaSubscriber (@Answer String) Interrupt Unit,
    Reaches servedInOrder twoAtOnce c ∧ .committed ⟨0, (order 7).val⟩ ∈ c.shared.history ∧
      History.Each Frontier c.shared.history := by
  have begun := (reaches_polledAll servedInOrder [order 7]).spawn 2 (clusterAnswer []) rfl ⟨.begin 1, rfl⟩
  have invoked := (begun.resume 2 .breakerEnter (.ok ()) (clusterAnswer []) rfl ⟨trivial, trivial⟩).resume 2
    .acquirePermit (.ok ()) (clusterAnswer []) rfl ⟨Nat.zero_lt_succ 1, trivial⟩
  have handled := invoked.resume 2 (.messageHandler ⟨0, (order 7).val⟩ "order") (.ok ()) (clusterAnswer []) rfl
    ⟨trivial, clear_alone [.polled ⟨0, (order 7).val⟩, .invoked ⟨0, (order 7).val⟩] rfl rfl rfl (by simp)⟩
  exact ⟨_, handled, List.mem_of_getElem? (i := 3) rfl, commits_cover twoAtOnce _ handled⟩

/-- The second of two messages is done first, and its commit passes over the first. -/
theorem second_order_first : ∃ c : Config KafkaSubscriber (@Answer String) Interrupt Unit,
    Reaches served twoAtOnce c ∧ ¬ History.Each Frontier c.shared.history := by
  have begun := ((reaches_polledAll served [order 0, order 1]).spawn 2 (clusterAnswer []) rfl
    ⟨.begin 1, rfl⟩).spawn 3 (clusterAnswer []) rfl ⟨.begin 1, rfl⟩
  have invoked := (begun.resume 3 .breakerEnter (.ok ()) (clusterAnswer []) rfl trivial).resume 3
    .acquirePermit (.ok ()) (clusterAnswer []) rfl (Nat.zero_lt_succ 1)
  have handled := invoked.resume 3 (.messageHandler ⟨1, (order 1).val⟩ "order") (.ok ()) (clusterAnswer []) rfl
    trivial
  refine ⟨_, handled, fun each => ?_⟩
  have settled := each [.polled ⟨0, (order 0).val⟩, .polled ⟨1, (order 1).val⟩,
      .invoked ⟨1, (order 1).val⟩, .handled ⟨1, (order 1).val⟩]
    (.committed ⟨1, (order 1).val⟩) ⟨[], rfl⟩ ⟨0, (order 0).val⟩ (List.mem_of_getElem? (i := 0) rfl)
    ⟨rfl, rfl⟩ (by decide)
  obtain ⟨event, member, settles⟩ := settled
  simp only [List.mem_cons, List.not_mem_nil, or_false] at member
  rcases member with rfl | rfl | rfl | rfl <;> simp [Event.settles, Message.position, order] at settles

/-- For each delivery the handler is called once and once for each retry there can be, and
the copies that wait for a retry say which it is. -/
theorem retries_bounded (config : SubscriberConfig)
    (c : Config KafkaSubscriber (@Answer Parsed) Interrupt Unit) (reached : Reaches served config c) :
    (∀ number, invocations c.shared.history number ≤ config.maxRetryAttempts + 1) ∧
    ∀ copy ∈ c.shared.retryQueue, ∃ attempt, copy.message.retryAttempt = .number attempt ∧
      1 ≤ attempt ∧ attempt ≤ config.maxRetryAttempts := by
  have ledger := (sound_reached False (fun _ _ _ _ no => no.elim) reached).ledger
  refine ⟨ledger.bounded, fun copy member => ?_⟩
  obtain ⟨attempt, header, first⟩ := ledger.retried copy member
  obtain ⟨_, same, few, _⟩ := ledger.within copy (List.mem_append_right _ member)
  cases header.symm.trans same
  exact ⟨attempt, header, first, few⟩

theorem failed_order_bounded : ∃ c : Config KafkaSubscriber (@Answer String) Interrupt Unit,
    Reaches served twoAtOnce c ∧ c.shared.retryQueue.length = 1 ∧
      (∀ number, invocations c.shared.history number ≤ 2) ∧
      ∀ copy ∈ c.shared.retryQueue, ∃ attempt, copy.message.retryAttempt = .number attempt ∧
        1 ≤ attempt ∧ attempt ≤ 1 := by
  have begun := (reaches_polledAll served [order 7]).spawn 2 (clusterAnswer []) rfl ⟨.begin 1, rfl⟩
  have invoked := (begun.resume 2 .breakerEnter (.ok ()) (clusterAnswer []) rfl trivial).resume 2
    .acquirePermit (.ok ()) (clusterAnswer []) rfl (Nat.zero_lt_succ 1)
  have failed := invoked.resume 2 (.messageHandler ⟨0, (order 7).val⟩ "order")
    (.error (.raised ⟨.runtimeError, "order service is down"⟩)) (clusterAnswer []) rfl trivial
  exact ⟨_, failed, rfl, retries_bounded twoAtOnce _ failed⟩

end KuvaAI.Subscriber
