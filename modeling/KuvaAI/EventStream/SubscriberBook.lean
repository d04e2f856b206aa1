import KuvaAI.EventStream.Subscriber
import KuvaAI.Lib.Custody
import KuvaAI.Lib.History

/-! Where a subscriber's deliveries are: each waits in one place or is processed by one
task, it has been handled no more often than its copy's retry header tells, and none
disappears. -/
namespace KuvaAI.Subscriber
open Custody

def Job.delivery : Job → Option Delivery
  | process delivery => some delivery
  | handleRetries _ => none

def Book.waiting (b : Book) : List Delivery := b.scheduled.filterMap Job.delivery ++ b.retryQueue

def Event.invokes (number : Nat) : Event → Bool
  | .invoked delivery => delivery.number = number
  | _ => false

def invocations (history : List Event) (number : Nat) : Nat := history.countP (Event.invokes number)

def Settled (history : List Event) (position : Position) : Prop :=
  ∃ event ∈ history, event.settles position = true

def Message.SamePartition (message other : Message) : Prop :=
  message.topic = other.topic ∧ message.partition = other.partition

/-- A commit covers only what was handled or dead-lettered. -/
def Frontier (before : List Event) : Event → Prop
  | .committed delivery => ∀ other : Delivery, .polled other ∈ before →
      other.message.SamePartition delivery.message → other.message.offset ≤ delivery.message.offset →
      Settled before other.message.position
  | _ => True

def Outstanding (b : Book) (delivery : Delivery) : Prop :=
  delivery ∈ b.waiting ∨ (∃ task, b.processing task = some delivery) ∨ .lost delivery ∈ b.history

section Histories

variable {history : List Event} {event : Event} {position : Position}

theorem invocations_snoc (number : Nat) : invocations (history ++ [event]) number =
    invocations history number + if event.invokes number then 1 else 0 := by
  rw [invocations, List.countP_append, List.countP_singleton]
  rfl

theorem Settled.mono {later : List Event} (settled : Settled history position)
    (grown : history ⊆ later) : Settled later position := by
  obtain ⟨event, member, settles⟩ := settled
  exact ⟨event, grown member, settles⟩

theorem settled_snoc (settles : event.settles position = true) : Settled (history ++ [event]) position :=
  ⟨event, List.mem_append_right _ List.mem_cons_self, settles⟩

end Histories

structure Moves (b : Book) (gone : List Delivery) (b' : Book) : Prop where
  waiting : b.waiting.Perm (gone ++ b'.waiting)
  retryQueue : b'.retryQueue ⊆ b.retryQueue
  processing : b'.processing = b.processing
  delivered : b'.delivered = b.delivered
  history : b'.history = b.history

section Moving

variable {b : Book} {delivery : Delivery}

theorem moves_begin {index : Nat} {job : Job} (found : b.scheduled[index]? = some job) :
    Moves b job.delivery.toList { b with scheduled := b.scheduled.eraseIdx index } where
  waiting := by
    obtain ⟨within, rfl⟩ := List.getElem?_eq_some_iff.mp found
    have moved := ((List.getElem_cons_eraseIdx_perm within).symm.filterMap Job.delivery).append_right b.retryQueue
    rw [List.filterMap_cons] at moved
    cases job : b.scheduled[index] <;> simpa [Book.waiting, job, Job.delivery] using moved
  retryQueue := fun _ member => member
  processing := rfl
  delivered := rfl
  history := rfl

theorem moves_retry {rest : List Delivery} (queued : b.retryQueue = delivery :: rest) :
    Moves b [delivery] { b with retryQueue := rest } where
  waiting := by
    rw [Book.waiting, queued]
    exact List.perm_middle
  retryQueue := fun other member => queued ▸ List.mem_cons_of_mem _ member
  processing := rfl
  delivered := rfl
  history := rfl

theorem moves_create_handleRetries (rounds : Nat) : Moves b [] (b.create (.handleRetries rounds)) where
  waiting := by simp [Book.waiting, Book.create, Job.delivery, List.filterMap_cons]
  retryQueue := fun _ member => member
  processing := rfl
  delivered := rfl
  history := rfl

end Moving

section Conservation

def Found (b : Book) (position : Position) : Prop :=
  Settled b.history position ∨ ∃ delivery, Outstanding b delivery ∧ delivery.message.position = position

def Conserved (b : Book) : Prop :=
  ∀ delivery, .polled delivery ∈ b.history → Found b delivery.message.position

variable {b b' : Book} {task : Nat} {delivery : Delivery}

theorem found_of_outstanding (outstanding : Outstanding b delivery) : Found b delivery.message.position :=
  .inr ⟨delivery, outstanding, rfl⟩

theorem Found.mono {position : Position} (found : Found b position) (grown : b.history ⊆ b'.history)
    (kept : ∀ delivery, Outstanding b delivery → Found b' delivery.message.position) :
    Found b' position := by
  rcases found with settled | ⟨delivery, outstanding, rfl⟩
  · exact .inl (settled.mono grown)
  · exact kept delivery outstanding

theorem Conserved.mono (conserved : Conserved b) (grown : b.history ⊆ b'.history)
    (same : ∀ delivery, .polled delivery ∈ b'.history → .polled delivery ∈ b.history)
    (kept : ∀ delivery, Outstanding b delivery → Found b' delivery.message.position) : Conserved b' :=
  fun delivery member => (conserved delivery (same delivery member)).mono grown kept

theorem Conserved.note (conserved : Conserved b) (event : Event) (other : ∀ delivery, event ≠ .polled delivery) :
    Conserved (b.note event) := by
  refine conserved.mono (List.subset_append_left _ _) (fun delivery member => ?_) fun delivery outstanding => ?_
  · rcases List.mem_append.mp member with old | new
    · exact old
    · exact (other delivery (List.mem_singleton.mp new).symm).elim
  · rcases outstanding with waits | busy | lost
    · exact found_of_outstanding (.inl waits)
    · exact found_of_outstanding (.inr (.inl busy))
    · exact found_of_outstanding (.inr (.inr (List.mem_append_left _ lost)))

theorem Conserved.clear (conserved : Conserved b) (sameHistory : b'.history = b.history)
    (processing : b'.processing = Function.update b.processing task none)
    (waits : b.waiting ⊆ b'.waiting)
    (replaced : ∀ delivery, b.processing task = some delivery → Found b' delivery.message.position) :
    Conserved b' := by
  refine conserved.mono (fun _ member => sameHistory ▸ member) (fun _ member => sameHistory ▸ member) ?_
  rintro delivery (waiting | ⟨i, busy⟩ | lost)
  · exact found_of_outstanding (.inl (waits waiting))
  · by_cases same : i = task
    · exact replaced delivery (same ▸ busy)
    · refine found_of_outstanding (.inr (.inl ⟨i, ?_⟩))
      rw [processing, Function.update_of_ne same, busy]
  · exact found_of_outstanding (.inr (.inr (sameHistory ▸ lost)))

theorem Conserved.leave (conserved : Conserved b) (task : Nat) : Conserved (b.leave task) := by
  unfold Book.leave
  split
  · exact conserved
  · rename_i delivery busy
    split
    · rename_i settled
      refine conserved.clear rfl rfl (fun _ waits => waits) fun other held => .inl ?_
      cases busy.symm.trans held
      exact List.any_eq_true.mp settled
    · refine conserved.mono (List.subset_append_left _ _) (fun other member => ?_) ?_
      · simpa [Book.note, Book.clear] using member
      · rintro other (waits | ⟨i, held⟩ | lost)
        · exact found_of_outstanding (.inl waits)
        · by_cases same : i = task
          · cases busy.symm.trans (same ▸ held)
            exact found_of_outstanding (.inr (.inr (List.mem_append_right _ List.mem_cons_self)))
          · refine found_of_outstanding (.inr (.inl ⟨i, ?_⟩))
            exact (Function.update_of_ne same _ _).trans held
        · exact found_of_outstanding (.inr (.inr (List.mem_append_left _ lost)))

theorem waiting_requeue (copy : Delivery) : (b.requeue task copy).waiting = b.waiting ++ [copy] :=
  (List.append_assoc _ _ _).symm

theorem Conserved.requeue (conserved : Conserved b) (busy : b.processing task = some delivery)
    {copy : Delivery} (same : copy.message.position = delivery.message.position) :
    Conserved (b.requeue task copy) := by
  refine conserved.clear rfl rfl ?_ fun other held => ?_
  · rw [waiting_requeue]
    exact List.subset_append_left _ _
  · cases busy.symm.trans held
    refine .inr ⟨copy, .inl ?_, same⟩
    rw [waiting_requeue]
    exact List.mem_append_right _ List.mem_cons_self

theorem Conserved.take (conserved : Conserved b) (idle : b.processing task = none)
    (moves : Moves b [delivery] b') : Conserved (b'.take task delivery) := by
  have taken : (b'.take task delivery).processing task = some delivery := Function.update_self _ _ _
  have same : (b'.take task delivery).history = b.history := moves.history
  refine conserved.mono (fun _ member => same ▸ member) (fun _ member => same ▸ member) ?_
  rintro other (waits | ⟨i, held⟩ | lost)
  · rcases List.mem_cons.mp (moves.waiting.mem_iff.mp waits) with rfl | waits
    · exact found_of_outstanding (.inr (.inl ⟨task, taken⟩))
    · exact found_of_outstanding (.inl waits)
  · have different : i ≠ task := by
      rintro rfl
      simp [idle] at held
    refine found_of_outstanding (.inr (.inl ⟨i, (Function.update_of_ne different _ _).trans ?_⟩))
    rw [moves.processing, held]
  · exact found_of_outstanding (.inr (.inr (same ▸ lost)))

theorem waiting_create_process (delivery : Delivery) :
    (b.create (.process delivery)).waiting.Perm (delivery :: b.waiting) := by
  rw [Book.waiting, Book.create, List.filterMap_append, List.append_assoc]
  exact List.perm_middle

theorem waiting_receive (message : Message) :
    (b.receive message).waiting.Perm (⟨b.delivered, message⟩ :: b.waiting) := by
  have created := waiting_create_process ⟨b.delivered, message⟩
    (b := { b with delivered := b.delivered + 1 }.note (.polled ⟨b.delivered, message⟩))
  exact created

theorem Conserved.receive (conserved : Conserved b) (message : Message) :
    Conserved (b.receive message) := by
  have arrived := waiting_receive (b := b) message
  intro delivery member
  rcases List.mem_append.mp member with old | new
  · refine (conserved delivery old).mono (List.subset_append_left _ _) ?_
    rintro other (waits | busy | lost)
    · exact found_of_outstanding (.inl (arrived.mem_iff.mpr (List.mem_cons_of_mem _ waits)))
    · exact found_of_outstanding (.inr (.inl busy))
    · exact found_of_outstanding (.inr (.inr (List.mem_append_left _ lost)))
  · cases List.mem_singleton.mp new
    exact found_of_outstanding (.inl (arrived.mem_iff.mpr List.mem_cons_self))

theorem Conserved.rearrange (conserved : Conserved b) (moves : Moves b [] b') : Conserved b' := by
  refine conserved.mono (fun _ member => moves.history ▸ member) (fun _ member => moves.history ▸ member) ?_
  rintro other (waits | ⟨i, held⟩ | lost)
  · exact found_of_outstanding (.inl (moves.waiting.mem_iff.mp waits))
  · exact found_of_outstanding (.inr (.inl ⟨i, moves.processing ▸ held⟩))
  · exact found_of_outstanding (.inr (.inr (moves.history ▸ lost)))

end Conservation

section Ledgers

def Within (limit spent : Nat) (history : List Event) (delivery : Delivery) : Prop :=
  ∃ attempt, delivery.message.retryAttempt = .number attempt ∧ attempt ≤ limit ∧
    invocations history delivery.number ≤ attempt + spent

structure Ledger (limit : Nat) (b : Book) : Prop where
  exclusive : Exclusive (b.waiting.map Delivery.number) (Option.map Delivery.number ∘ b.processing)
  numbered : ∀ delivery, delivery ∈ b.waiting ∨ (∃ task, b.processing task = some delivery) →
    delivery.number < b.delivered
  unheard : ∀ number, b.delivered ≤ number → invocations b.history number = 0
  within : ∀ delivery ∈ b.waiting, Within limit 0 b.history delivery
  retried : ∀ copy ∈ b.retryQueue, ∃ attempt, copy.message.retryAttempt = .number attempt ∧ 1 ≤ attempt
  bounded : ∀ number, invocations b.history number ≤ limit + 1

variable {limit spent : Nat} {b b' : Book} {task : Nat} {delivery : Delivery} {history : List Event}
  {event : Event}

theorem Within.note (within : Within limit spent history delivery)
    (silent : event.invokes delivery.number = false) : Within limit spent (history ++ [event]) delivery := by
  obtain ⟨attempt, header, few, spent⟩ := within
  exact ⟨attempt, header, few, by simpa [invocations_snoc, silent] using spent⟩

theorem Within.invoked (within : Within limit spent history delivery) :
    Within limit (spent + 1) (history ++ [.invoked delivery]) delivery := by
  obtain ⟨attempt, header, few, spent⟩ := within
  refine ⟨attempt, header, few, ?_⟩
  simp [invocations_snoc, Event.invokes]
  omega

theorem Ledger.note (ledger : Ledger limit b) (silent : ∀ number, event.invokes number = false) :
    Ledger limit (b.note event) where
  exclusive := ledger.exclusive
  numbered := ledger.numbered
  unheard number new := by
    simpa [Book.note, invocations_snoc, silent] using ledger.unheard number new
  within delivery waits := (ledger.within delivery waits).note (silent _)
  retried := ledger.retried
  bounded number := by
    simpa [Book.note, invocations_snoc, silent] using ledger.bounded number

theorem Ledger.number_ne (ledger : Ledger limit b) (busy : b.processing task = some delivery)
    {other : Delivery} (waits : other ∈ b.waiting) : delivery.number ≠ other.number := by
  intro same
  refine ledger.exclusive.apart task delivery.number (by simp [busy]) ?_
  rw [same]
  exact List.mem_map_of_mem waits

theorem Ledger.task_eq (ledger : Ledger limit b) (busy : b.processing task = some delivery) {i : Nat}
    {other : Delivery} (held : b.processing i = some other) (same : other.number = delivery.number) :
    i = task :=
  ledger.exclusive.single i task delivery.number (by simp [held, same]) (by simp [busy])

theorem Ledger.invoke (ledger : Ledger limit b) (busy : b.processing task = some delivery)
    (within : Within limit 0 b.history delivery) : Ledger limit (b.note (.invoked delivery)) where
  exclusive := ledger.exclusive
  numbered := ledger.numbered
  unheard number new := by
    have old := ledger.numbered delivery (.inr ⟨task, busy⟩)
    have different : delivery.number ≠ number := by
      rintro rfl
      exact absurd new (Nat.not_le_of_lt old)
    simpa [Book.note, invocations_snoc, Event.invokes, different] using ledger.unheard number new
  within other waits :=
    (ledger.within other waits).note (by simp [Event.invokes, ledger.number_ne busy waits])
  retried := ledger.retried
  bounded number := by
    obtain ⟨attempt, _, few, spent⟩ := within
    have old := ledger.bounded number
    by_cases same : delivery.number = number
    · subst same
      simp [Book.note, invocations_snoc, Event.invokes]
      omega
    · simpa [Book.note, invocations_snoc, Event.invokes, same] using old

theorem Ledger.clear (ledger : Ledger limit b) (task : Nat) : Ledger limit (b.clear task) where
  exclusive := by
    rw [Book.clear, Function.comp_update]
    exact ledger.exclusive.clear task
  numbered delivery tracked := by
    refine ledger.numbered delivery (tracked.imp_right ?_)
    rintro ⟨i, held⟩
    by_cases same : i = task
    · simp [Book.clear, same] at held
    · exact ⟨i, by simpa [Book.clear, same] using held⟩
  unheard := ledger.unheard
  within := ledger.within
  retried := ledger.retried
  bounded := ledger.bounded

theorem Ledger.leave (ledger : Ledger limit b) (task : Nat) : Ledger limit (b.leave task) := by
  unfold Book.leave
  split
  · exact ledger
  · split
    · exact ledger.clear task
    · exact (ledger.clear task).note fun _ => rfl

theorem retryAttempt_withAttempt (message : Message) (attempt : Nat) :
    (message.withAttempt attempt).retryAttempt = .number attempt := by
  simp [Message.retryAttempt, Message.withAttempt]

def Delivery.retry (delivery : Delivery) (attempt : Nat) : Delivery :=
  { delivery with message := delivery.message.withAttempt (attempt + 1) }

theorem Ledger.requeue (ledger : Ledger limit b) (busy : b.processing task = some delivery)
    (within : Within limit 1 b.history delivery) {attempt : Nat}
    (header : delivery.message.retryAttempt = .number attempt) (few : attempt < limit) :
    Ledger limit (b.requeue task (delivery.retry attempt)) := by
  have cleared := ledger.clear task
  have moved : (b.requeue task (delivery.retry attempt)).waiting.Perm
      (delivery.retry attempt :: b.waiting) := by
    rw [waiting_requeue]
    exact List.perm_append_singleton _ _
  have copied : Within limit 0 b.history (delivery.retry attempt) := by
    obtain ⟨_, same, _, spent⟩ := within
    rw [header] at same
    cases same
    exact ⟨attempt + 1, retryAttempt_withAttempt _ _, few, spent⟩
  refine ⟨?_, fun other tracked => ?_, ledger.unheard, fun other waits => ?_, fun other waits => ?_,
    ledger.bounded⟩
  · have given := ledger.exclusive.give task (a := delivery.number) (by simp [busy])
    have held : Option.map Delivery.number ∘ (b.requeue task (delivery.retry attempt)).processing =
        Function.update (Option.map Delivery.number ∘ b.processing) task none :=
      Function.comp_update _ _ _ _
    rw [held]
    exact given.perm (moved.map Delivery.number).symm
  · rcases tracked with waits | held
    · rcases List.mem_cons.mp (moved.mem_iff.mp waits) with rfl | waits
      · exact ledger.numbered delivery (.inr ⟨task, busy⟩)
      · exact ledger.numbered other (.inl waits)
    · exact cleared.numbered other (.inr held)
  · rcases List.mem_cons.mp (moved.mem_iff.mp waits) with rfl | waits
    · exact copied
    · exact ledger.within other waits
  · rcases List.mem_append.mp waits with old | new
    · exact ledger.retried other old
    · cases List.mem_singleton.mp new
      exact ⟨attempt + 1, retryAttempt_withAttempt _ _, Nat.le_add_left 1 attempt⟩

theorem Ledger.take (ledger : Ledger limit b) (moves : Moves b [delivery] b') (task : Nat) :
    Ledger limit (b'.take task delivery) := by
  have waits : delivery ∈ b.waiting := moves.waiting.mem_iff.mpr List.mem_cons_self
  have waited : ∀ other ∈ b'.waiting, other ∈ b.waiting := fun other member =>
    moves.waiting.mem_iff.mpr (List.mem_cons_of_mem _ member)
  have known : ∀ other, other ∈ b'.waiting ∨ (∃ i, (b'.take task delivery).processing i = some other) →
      other ∈ b.waiting ∨ ∃ i, b.processing i = some other := by
    rintro other (member | ⟨i, held⟩)
    · exact .inl (waited other member)
    · by_cases same : i = task
      · simp only [Book.take, same, Function.update_self, Option.some.injEq] at held
        exact .inl (held ▸ waits)
      · exact .inr ⟨i, by simpa [Book.take, same, moves.processing] using held⟩
  refine ⟨?_, fun other tracked => ?_, fun number new => ?_, fun other member => ?_,
    fun other member => ledger.retried other (moves.retryQueue member), fun number => ?_⟩
  · rw [Book.take, Function.comp_update, moves.processing]
    exact (ledger.exclusive.perm (moves.waiting.map Delivery.number)).take task
  · exact moves.delivered ▸ ledger.numbered other (known other tracked)
  · rw [Book.take, moves.history]
    exact ledger.unheard number (moves.delivered ▸ new)
  · rw [Book.take, moves.history]
    exact ledger.within other (waited other member)
  · rw [Book.take, moves.history]
    exact ledger.bounded number

theorem Ledger.taken_within (ledger : Ledger limit b) (moves : Moves b [delivery] b') :
    Within limit 0 b'.history delivery := by
  rw [moves.history]
  exact ledger.within delivery (moves.waiting.mem_iff.mpr List.mem_cons_self)

theorem Ledger.receive (ledger : Ledger limit b) (polled : Polled) :
    Ledger limit (b.receive polled.val) := by
  have arrived := waiting_receive (b := b) polled.val
  have fresh : ∀ other, other ∈ b.waiting ∨ (∃ i, b.processing i = some other) →
      other.number ≠ b.delivered := fun other tracked => (ledger.numbered other tracked).ne
  have same : ∀ number, invocations (b.receive polled.val).history number = invocations b.history number :=
    fun number => by simp [Book.receive, Book.note, Book.create, invocations_snoc, Event.invokes]
  refine ⟨?_, fun other tracked => ?_, fun number new => ?_, fun other waits => ?_, ledger.retried,
    fun number => (same number).trans_le (ledger.bounded number)⟩
  · refine (ledger.exclusive.arrive (a := b.delivered) ?_ ?_).perm (arrived.map Delivery.number).symm
    · intro member
      obtain ⟨other, waits, number⟩ := List.mem_map.mp member
      exact fresh other (.inl waits) number
    · intro i held
      obtain ⟨other, busy, number⟩ := Option.map_eq_some_iff.mp held
      exact fresh other (.inr ⟨i, busy⟩) number
  · have old : ∀ {other : Delivery}, other ∈ b.waiting ∨ (∃ i, b.processing i = some other) →
        other.number < b.delivered + 1 := fun tracked => Nat.lt_succ_of_lt (ledger.numbered _ tracked)
    rcases tracked with waits | held
    · rcases List.mem_cons.mp (arrived.mem_iff.mp waits) with rfl | waits
      · exact Nat.lt_succ_self _
      · exact old (.inl waits)
    · exact old (.inr held)
  · rw [same]
    exact ledger.unheard number (Nat.le_of_succ_le new)
  · rcases List.mem_cons.mp (arrived.mem_iff.mp waits) with rfl | waits
    · refine ⟨0, by simp [Message.retryAttempt, polled.property], Nat.zero_le _, ?_⟩
      rw [same, ledger.unheard b.delivered le_rfl]
    · obtain ⟨attempt, header, few, spent⟩ := ledger.within other waits
      exact ⟨attempt, header, few, by rwa [same]⟩

theorem Ledger.rearrange (ledger : Ledger limit b) (moves : Moves b [] b') : Ledger limit b' := by
  have waited : ∀ other, other ∈ b'.waiting → other ∈ b.waiting := fun _ => moves.waiting.mem_iff.mpr
  refine ⟨?_, fun other tracked => ?_, fun number new => ?_, fun other member => ?_,
    fun other member => ledger.retried other (moves.retryQueue member), fun number => ?_⟩
  · rw [moves.processing]
    exact ledger.exclusive.perm (moves.waiting.map Delivery.number)
  · rw [moves.processing] at tracked
    exact moves.delivered ▸ ledger.numbered other (tracked.imp_left (waited other))
  · exact moves.history ▸ ledger.unheard number (moves.delivered ▸ new)
  · exact moves.history ▸ ledger.within other (waited other member)
  · exact moves.history ▸ ledger.bounded number

end Ledgers

end KuvaAI.Subscriber
