import KuvaAI.EventStream.ConsumerRuns

/-! What the offsets that a consumer group commits pass by. Only successes are kept, and
one offset stands for all below it. -/
namespace KuvaAI.ConsumerGroup
open Python Coroutine EventStream

variable {Decoded Validated : Type}

def Message.SamePartition (message other : Message) : Prop :=
  message.topic = other.topic ∧ message.partition = other.partition

section Statement

variable (history : List (Event Decoded Validated))

/-- Processed by the processor or handed to the dead-letter topic. -/
def Settled (message : Message) : Prop := .processed message ∈ history ∨ .deadLettered message ∈ history

/-- What is committed passes no message by that is not settled. -/
def AtLeastOnce : Event Decoded Validated → Prop
  | .committed offsets => ∀ tp ∈ offsets, ∀ message : Message, .polled message ∈ history →
      message.topic = tp.topic → message.partition = tp.partition → message.offset < tp.offset →
      Settled history message
  | _ => True

def Above (message : Message) : Prop :=
  ∀ earlier, .polled earlier ∈ history → earlier.SamePartition message → earlier.offset < message.offset

/-- All that was polled of its partition below the message is settled. -/
def Clear (message : Message) : Prop :=
  ∀ earlier, .polled earlier ∈ history → earlier.SamePartition message →
    earlier.offset < message.offset → Settled history earlier

end Statement

def ascending : (call : Call Decoded Validated) → Answer call → KafkaConsumerGroup Decoded Validated → Prop
  | .poll, .ok (some message), g => message.error = false → Above g.history message
  | _, _, _ => True

/-- Where offsets can be committed, a validated message is processed after those below it
have been settled. -/
def inOrder (globals : List String) : (call : Call Decoded Validated) → Answer call →
    KafkaConsumerGroup Decoded Validated → Prop
  | .processor message (.validated _), .ok (), g => "TopicPartition" ∈ globals → Clear g.history message
  | _, _, _ => True

def servedAscending (task : Nat) (call : Call Decoded Validated) (answer : Answer call)
    (g : KafkaConsumerGroup Decoded Validated) : Prop :=
  served task call answer g ∧ ascending call answer g

def servedInOrder (globals : List String) (task : Nat) (call : Call Decoded Validated) (answer : Answer call)
    (g : KafkaConsumerGroup Decoded Validated) : Prop :=
  servedAscending task call answer g ∧ inOrder globals call answer g

section Covering

structure Covered (history : List (Event Decoded Validated)) (topic : String) (partition offset : Int) :
    Prop where
  polled : ∃ message : Message, .polled message ∈ history ∧ message.topic = topic ∧
    message.partition = partition ∧ message.offset = offset
  settled : ∀ message : Message, .polled message ∈ history → message.topic = topic →
    message.partition = partition → message.offset ≤ offset → Settled history message

structure Covering (globals : List String) (g : KafkaConsumerGroup Decoded Validated) : Prop where
  each : History.Each AtLeastOnce g.history
  unique : ∀ message other, .polled message ∈ g.history → .polled other ∈ g.history →
    message.SamePartition other → message.offset = other.offset → message = other
  kept : "TopicPartition" ∈ globals → ∀ topic partitions partition offset,
    g.offsetCommits.get? topic = some partitions → partitions.get? partition = some offset →
    Covered g.history topic partition offset

variable {globals : List String} {config : ConsumerConfig} {history : List (Event Decoded Validated)}
  {event : Event Decoded Validated} {message : Message} {g : KafkaConsumerGroup Decoded Validated}

theorem Settled.snoc (settled : Settled history message) : Settled (history ++ [event]) message :=
  settled.imp (List.mem_append_left _) (List.mem_append_left _)

theorem polled_snoc (polled : .polled message ∈ history ++ [event]) :
    .polled message ∈ history ∨ event = .polled message :=
  (List.mem_append.mp polled).imp_right fun new => (List.mem_singleton.mp new).symm

theorem Covered.snoc {topic : String} {partition offset : Int}
    (covered : Covered history topic partition offset)
    (above : ∀ message, event = .polled message → Above history message) :
    Covered (history ++ [event]) topic partition offset := by
  obtain ⟨first, polled, rfl, rfl, rfl⟩ := covered.polled
  refine ⟨⟨first, List.mem_append_left _ polled, rfl, rfl, rfl⟩, ?_⟩
  intro message later topic partition low
  rcases polled_snoc later with old | new
  · exact (covered.settled message old topic partition low).snoc
  · have higher := above message new first polled ⟨topic.symm, partition.symm⟩
    exact absurd low (Int.not_le.mpr higher)

theorem Covering.note (covering : Covering globals g) (least : AtLeastOnce g.history event)
    (above : ∀ message, event = .polled message → Above g.history message) :
    Covering globals (g.note event) where
  each := History.each_snoc.mpr ⟨covering.each, least⟩
  unique message other first second same offset := by
    rcases polled_snoc first with old | new <;> rcases polled_snoc second with old' | new'
    · exact covering.unique message other old old' same offset
    · exact absurd offset (Int.ne_of_lt (above other new' message old same))
    · have higher := above message new other old' ⟨same.1.symm, same.2.symm⟩
      exact absurd offset (Int.ne_of_gt higher)
    · rw [new] at new'
      exact Event.polled.inj new'
  kept bound topic partitions partition offset found here :=
    (covering.kept bound topic partitions partition offset found here).snoc above

theorem Covering.congr {h : KafkaConsumerGroup Decoded Validated} (covering : Covering globals g)
    (same : h.history = g.history ∧ h.offsetCommits = g.offsetCommits) : Covering globals h where
  each := same.1 ▸ covering.each
  unique := same.1 ▸ covering.unique
  kept := by rw [same.1, same.2]; exact covering.kept

theorem Clear.covered (clear : Clear history message)
    (unique : ∀ message other, .polled message ∈ history → .polled other ∈ history →
      message.SamePartition other → message.offset = other.offset → message = other)
    (polled : .polled message ∈ history) (processed : .processed message ∈ history) :
    Covered history message.topic message.partition message.offset := by
  refine ⟨⟨message, polled, rfl, rfl, rfl⟩, fun other earlier topic partition low => ?_⟩
  rcases Int.lt_or_eq_of_le low with below | same
  · exact clear other earlier ⟨topic, partition⟩ below
  · cases unique other message earlier polled ⟨topic, partition⟩ same
    exact .inl processed

theorem Covering.recordOffset (covering : Covering globals g) (polled : .polled message ∈ g.history)
    (processed : .processed message ∈ g.history)
    (clear : "TopicPartition" ∈ globals → Clear g.history message) :
    Covering globals (g.recordOffset message) where
  each := covering.each
  unique := covering.unique
  kept bound topic partitions partition offset found here := by
    rw [KafkaConsumerGroup.recordOffset, Dict.get?_set] at found
    split at found
    · cases found
      rw [Dict.get?_set] at here
      subst topic
      split at here
      · cases here
        subst partition
        exact (clear bound).covered covering.unique polled processed
      · cases before : g.offsetCommits.get? message.topic with
        | none => simp [before] at here
        | some partitions =>
          rw [before] at here
          exact covering.kept bound _ partitions partition offset before here
    · exact covering.kept bound topic partitions partition offset found here

theorem Covering.commit (covering : Covering globals g) (bound : "TopicPartition" ∈ globals) :
    AtLeastOnce g.history (.committed (g.offsetCommits.entries.flatMap due)) := by
  intro tp member message polled topic partition low
  obtain ⟨⟨here, partitions⟩, found, member⟩ := List.mem_flatMap.mp member
  obtain ⟨⟨part, offset⟩, entry, rfl⟩ := List.mem_map.mp member
  have covered := covering.kept bound here partitions part offset (Dict.get?_of_mem found)
    (Dict.get?_of_mem entry)
  exact covered.settled message polled topic partition (Int.lt_add_one_iff.mp low)

theorem Covering.forget (covering : Covering globals g) :
    Covering globals { g with offsetCommits := Dict.empty } where
  each := covering.each
  unique := covering.unique
  kept _ _ _ _ _ found := nomatch found

end Covering

section Tasks

def growing (globals : List String) :
    Discipline (KafkaConsumerGroup Decoded Validated) (@Answer Decoded Validated) where
  allowed := servedInOrder globals
  inv := Covering globals
  rely _ g h := g.history ⊆ h.history
  idle _ _ := True
  rely_refl _ _ := List.Subset.refl _
  rely_trans _ _ _ _ first second := List.Subset.trans first second
  idle_stable _ _ _ _ _ := trivial

structure Knows (globals : List String) (message : Message) (g : KafkaConsumerGroup Decoded Validated) :
    Prop where
  covering : Covering globals g
  polled : .polled message ∈ g.history

variable {globals : List String} {config : ConsumerConfig} {message : Message} {task : Nat}
  {event : Event Decoded Validated}

abbrev Keeping (globals : List String) (task : Nat) (P : KafkaConsumerGroup Decoded Validated → Prop)
    {α : Type} (x : Task Decoded Validated α) : Prop :=
  Triple (growing globals) task P x (fun _ => P) fun _ => P

theorem covering_closed : Closed fun {_} (x : Task Decoded Validated _) =>
    Keeping globals task (Covering globals) x :=
  Triple.closed (fun _ covering => covering) fun _ _ _ _ covering => covering

theorem knows_closed : Closed fun {_} (x : Task Decoded Validated _) =>
    Keeping globals task (Knows globals message) x :=
  Triple.closed (fun _ knows => knows.covering) fun _ _ knows grown covering =>
    ⟨covering, grown knows.polled⟩

theorem grows_note (event : Event Decoded Validated) (g : KafkaConsumerGroup Decoded Validated) (j : Nat)
    (_ : j ≠ task) : (growing globals).rely j g (g.note event) :=
  List.subset_append_left _ _

theorem covering_record (least : ∀ history, AtLeastOnce history event)
    (other : ∀ message, event ≠ .polled message) :
    Keeping globals task (Covering globals) (record event : Task Decoded Validated Unit) :=
  Triple.modify fun g covering => ⟨grows_note event g, covering.note (least _) fun message same =>
    (other message same).elim⟩

theorem knows_record (least : ∀ history, AtLeastOnce history event)
    (other : ∀ message, event ≠ .polled message) :
    Keeping globals task (Knows globals message) (record event : Task Decoded Validated Unit) :=
  Triple.modify fun g knows => ⟨grows_note event g, knows.covering.note (least _) fun message same =>
    (other message same).elim, List.mem_append_left _ knows.polled⟩

theorem knows_plain (event : Event Decoded Validated) (plain : event.IsPlain) :
    Keeping globals task (Knows globals message) (record event : Task Decoded Validated Unit) := by
  cases event with
  | polling | processed | failed | deadLettered => exact knows_record (fun _ => trivial) (by simp)
  | _ => exact plain.elim

/-- When the processor has succeeded, all below the message is settled. -/
theorem knows_runProcessor (validated : Validated) :
    Triple (growing globals) task (Knows globals message)
      (runProcessor message (.validated validated) : Task Decoded Validated Unit)
      (fun _ g => Knows globals message g ∧ ("TopicPartition" ∈ globals → Clear g.history message))
      fun _ => Knows globals message := by
  refine Triple.bind (knows_record (fun _ => trivial) (by simp)) fun _ g knows => ?_
  rw [wp_bind]
  refine ⟨knows.covering, fun answer h grown covering allowed => ?_⟩
  have later : Knows globals message h := ⟨covering, grown knows.polled⟩
  cases answer with
  | ok _ => exact ⟨later, allowed.2⟩
  | error _ => exact later

theorem knows_processValid :
    Keeping globals task (Knows globals message) (processValid message : Task Decoded Validated Unit) := by
  have closed := @knows_closed Decoded Validated globals message task
  have updates : ∀ f, Keeping globals task (Knows globals message)
      (modify (schemas.update f) : Task Decoded Validated PUnit) := fun f => Triple.modify fun g knows =>
    ⟨fun _ _ => List.Subset.refl _, knows.covering.congr ⟨rfl, rfl⟩, knows.polled⟩
  refine (closed_getDeserializer closed updates message.topic).bind fun _ => ?_
  refine (closed.call _).bind fun _ => (closed_orRaise closed _).bind fun value => ?_
  refine (knows_record (fun _ => by trivial) (by simp)).bind fun _ => ?_
  refine (closed.call _).bind fun _ => (closed_orRaise closed _).bind fun validated => ?_
  refine (knows_record (fun _ => by trivial) (by simp)).bind fun _ => ?_
  refine (knows_runProcessor validated).bind fun _ g cleared => ?_
  obtain ⟨knows, clear⟩ := cleared
  have noted : Covering globals (g.note (.processed message)) :=
    knows.covering.note trivial (by simp)
  rw [wp_bind]
  refine ⟨grows_note _ g, fun _ _ => List.Subset.refl _, ?_, List.mem_append_left _ knows.polled⟩
  refine noted.recordOffset (List.mem_append_left _ knows.polled)
    (List.mem_append_right _ List.mem_cons_self) fun bound earlier polled => ?_
  have old := (polled_snoc polled).resolve_right (by simp)
  exact fun same below => (clear bound earlier old same below).snoc

theorem knows_retryEach (rounds : Nat) : Keeping globals task (Knows globals message)
    (retryEach globals config message rounds : Task Decoded Validated Unit) :=
  closed_retryEach knows_closed knows_plain (fun _ => knows_record (fun _ => trivial) (by simp))
    (fun _ => knows_record (fun _ => trivial) (by simp)) message rounds

theorem knows_processMessage (rounds : Nat) : Keeping globals task (Knows globals message)
    (processMessage globals config rounds message : Task Decoded Validated Unit) :=
  closed_processMessage knows_closed knows_plain knows_processValid (knows_retryEach rounds)

theorem covering_commitOffsets : Keeping globals task (Covering globals)
    (commitOffsets globals : Task Decoded Validated Unit) := by
  intro g covering
  rw [commitOffsets, wp_bind, wp_get, wp_ite]
  split
  · rw [wp_bind]
    refine wp_commitList _ (fun bound => (wp_ite _ _ _ g).mpr ?_) fun _ => covering
    split
    · rename_i some
      have noted := covering.note (covering.commit (bound some)) (by simp)
      refine wp_modify_bind (grows_note _ g) ((wp_bind _ _ _).mpr fun answer => ?_)
      refine (wp_bind _ _ _).mpr ?_
      exact wp_orRaise (fun _ _ => ⟨fun _ _ => List.Subset.refl _, noted.forget⟩) fun _ _ => noted
    · exact covering
  · exact covering

theorem covering_consumeEach (rounds polls : Nat) : Keeping globals task (Covering globals)
    (consumeEach globals config rounds polls : Task Decoded Validated Unit) := by
  have closed := @covering_closed Decoded Validated globals task
  induction polls with
  | zero => exact closed.throw _
  | succ polls ih =>
    refine Triple.bind closed.get fun g => Triple.ite (fun _ => ?_) fun _ => closed.pure _
    refine (covering_record (fun _ => by trivial) (by simp)).bind fun _ h covering => ?_
    refine (wp_bind _ _ h).mpr ⟨covering, fun answer g _ covering allowed => ?_⟩
    refine (wp_bind _ _ g).mpr ?_
    refine wp_outcome (fun received same => ?_) fun _ _ => covering
    subst same
    cases received with
    | none => exact ih g covering
    | some message =>
      refine (wp_ite _ _ _ g).mpr ?_
      split
      · exact ih g covering
      · rename_i sound
        have above : Above g.history message := allowed.1.2 (Bool.eq_false_iff.mpr sound)
        have noted : Covering globals (g.note (.polled message)) := by
          refine covering.note trivial fun other same => ?_
          cases same
          exact above
        have rest : Keeping globals task (Covering globals) (do
            let g ← get
            if config.maxBatchSize ≤ g.offsetCommits.keys.length then
              commitOffsets globals
            consumeEach globals config rounds polls : Task Decoded Validated Unit) :=
          closed.bind closed.get fun _ => Closed.ite (closed.bind covering_commitOffsets fun _ => ih) ih
        refine wp_modify_bind (grows_note _ g) ((wp_bind _ _ _).mpr ?_)
        exact wp_mono (knows_processMessage rounds _ ⟨noted, List.mem_append_right _ List.mem_cons_self⟩)
          (fun _ h knows => rest h knows.covering) fun _ _ knows => knows.covering

theorem covering_run (op : Operation) :
    Keeping globals task (Covering globals) (op.run globals config : Task Decoded Validated Unit) :=
  closed_run covering_closed
    (fun _ same => Triple.modify fun g covering =>
      ⟨fun _ _ _ member => (same g).1 ▸ member, covering.congr (same g)⟩)
    covering_commitOffsets covering_consumeEach op

end Tasks

/-- Whichever names are bound: as long as no message is processed past one of its partition
that is not settled, no such message is committed past. -/
theorem at_least_once (globals : List String) (config : ConsumerConfig)
    (c : Config (KafkaConsumerGroup Decoded Validated) (@Answer Decoded Validated) Interrupt Unit)
    (reached : Reaches (servedInOrder globals) globals config c) :
    History.Each AtLeastOnce c.shared.history := by
  have started : Covering globals (KafkaConsumerGroup.init : KafkaConsumerGroup Decoded Validated) :=
    ⟨History.each_nil, fun _ _ polled => (List.not_mem_nil polled).elim, fun _ _ _ _ _ found => nomatch found⟩
  have runs : ∀ (task : Nat) (x : Task Decoded Validated Unit),
      (∃ op : Operation, x = op.run globals config) → Keeping globals task (Covering globals) x := by
    rintro task x ⟨op, rfl⟩
    exact covering_run op
  have kept : Covering globals c.shared :=
    reachable_inv (D := growing globals) runs (fun _ _ covering _ => covering)
      (fun _ _ covering => ⟨covering, trivial⟩) started (fun _ => trivial) reached
  exact kept.each

/-- Both names that the module uses and does not bind. -/
def repaired : List String := "TopicPartition" :: "e" :: moduleNames

def lettered : ConsumerConfig := ⟨1, false, some "failed-orders"⟩

def refusing (_ : Nat) : (call : Call String String) → Answer call
  | .modelValidate _ => .error ⟨.validationError, "payload: field required"⟩
  | call => obliging "order" "order" call

/-- A message that the schema refuses goes to the dead-letter topic, the next is committed. -/
theorem lettered_order_passed :
    ∃ c : Config (KafkaConsumerGroup String String) Answer Interrupt Unit,
      Reaches (servedInOrder repaired) repaired lettered c ∧
      .deadLettered (order 6) ∈ c.shared.history ∧
      .committed [⟨"orders", 0, 8⟩] ∈ c.shared.history ∧
      History.Each AtLeastOnce c.shared.history := by
  have free (c : Prop) (holds : c) : (True ∧ c) ∧ True := ⟨⟨trivial, holds⟩, trivial⟩
  have lowest : Above (polling repaired lettered 2).shared.history (order 6) := by
    intro earlier polled
    have alone : .polled earlier ∈ [(.polling : Event String String)] := polled
    simp at alone
  have sent := (((reaches_polling (servedInOrder repaired) repaired lettered 1).resume 1 .poll
    (.ok (some (order 6))) brokerAnswer rfl (free _ fun _ => lowest)).resume
    1 .breakerEnter (.ok ()) refusing rfl (free _ trivial)).resume
    1 (.produce "failed-orders" (order 6) "failed") (.ok ()) brokerAnswer rfl (free _ trivial)
  have again := sent.resume 1 .breakerExit (.ok false) brokerAnswer rfl (free _ trivial)
  have one : ∀ earlier, .polled earlier ∈ [.polling, .polled (order 6), .deserialized "orders" none "order",
      .failed (order 6), .deadLettered (order 6), (.polling : Event String String)] → earlier = order 6 := by
    simp
  have invoked := (again.resume 1 .poll (.ok (some (order 7))) brokerAnswer rfl
    (free _ fun _ earlier polled _ => by rw [one earlier polled]; decide)).resume
    1 .breakerEnter (.ok ()) brokerAnswer rfl (free _ trivial)
  have two : ∀ earlier, .polled earlier ∈ [.polling, .polled (order 6), .deserialized "orders" none "order",
      .failed (order 6), .deadLettered (order 6), .polling, .polled (order 7), .deserialized "orders" none "order",
      .accepted "order" "order", (.invoked (.validated "order") : Event String String)] →
      earlier = order 6 ∨ earlier = order 7 := by
    simp
  have ended := (invoked.resume 1 (.processor (order 7) (.validated "order")) (.ok ()) brokerAnswer rfl
    ⟨⟨trivial, trivial⟩, fun _ earlier polled _ below => by
      rcases two earlier polled with rfl | rfl
      · exact .inr (List.mem_of_getElem? (i := 4) rfl)
      · exact absurd below (by decide)⟩).resume
    1 .breakerExit (.ok false) brokerAnswer rfl (free _ trivial)
  exact ⟨_, ended, List.mem_of_getElem? (i := 4) rfl, List.mem_of_getElem? (i := 11) rfl,
    at_least_once repaired lettered _ ended⟩

def unretried : ConsumerConfig := ⟨1, false, none⟩

/-- The processor fails with a message and succeeds with the next, and the offset that is
committed passes both. -/
theorem failed_order_passed :
    ∃ c : Config (KafkaConsumerGroup String String) Answer Interrupt Unit,
      Reaches servedAscending repaired unretried c ∧ ¬ History.Each AtLeastOnce c.shared.history := by
  have lowest : Above (polling repaired unretried 2).shared.history (order 0) := by
    intro earlier polled
    have alone : .polled earlier ∈ [(.polling : Event String String)] := polled
    simp at alone
  have invoked := ((reaches_polling servedAscending repaired unretried 1).resume 1 .poll
    (.ok (some (order 0))) brokerAnswer rfl ⟨trivial, fun _ => lowest⟩).resume
    1 .breakerEnter (.ok ()) brokerAnswer rfl ⟨trivial, trivial⟩
  have again := (invoked.resume 1 (.processor (order 0) (.validated "order"))
    (.error (.raised ⟨.runtimeError, "order service is down"⟩)) brokerAnswer rfl ⟨trivial, trivial⟩).resume
    1 .breakerExit (.ok false) brokerAnswer rfl ⟨trivial, trivial⟩
  have one : ∀ earlier, .polled earlier ∈ [.polling, .polled (order 0), .deserialized "orders" none "order",
      .accepted "order" "order", .invoked (.validated "order"), .failed (order 0),
      (.polling : Event String String)] → earlier = order 0 := by
    simp
  have second := (again.resume 1 .poll (.ok (some (order 1))) brokerAnswer rfl
    ⟨trivial, fun _ earlier polled _ => by rw [one earlier polled]; decide⟩).resume
    1 .breakerEnter (.ok ()) brokerAnswer rfl ⟨trivial, trivial⟩
  have ended := (second.resume 1 (.processor (order 1) (.validated "order")) (.ok ()) brokerAnswer rfl
    ⟨trivial, trivial⟩).resume 1 .breakerExit (.ok false) brokerAnswer rfl ⟨trivial, trivial⟩
  refine ⟨_, ended, fun each => ?_⟩
  have passed := each
    [.polling, .polled (order 0), .deserialized "orders" none "order", .accepted "order" "order",
      .invoked (.validated "order"), .failed (order 0), .polling, .polled (order 1),
      .deserialized "orders" none "order", .accepted "order" "order", .invoked (.validated "order"),
      .processed (order 1)]
    (.committed [⟨"orders", 0, 2⟩]) ⟨[], rfl⟩ _ List.mem_cons_self (order 0) (by simp) rfl rfl (by decide)
  simp [Settled, order] at passed

end KuvaAI.ConsumerGroup
