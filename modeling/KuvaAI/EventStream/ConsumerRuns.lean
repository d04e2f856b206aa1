import KuvaAI.EventStream.ConsumerGroup
import KuvaAI.Lib.History

/-! What the processor of a consumer group sees, over every interleaving of the group's
tasks. -/
namespace KuvaAI.ConsumerGroup
open Python Coroutine EventStream

variable {Decoded Validated : Type}

def served (_ : Nat) : (call : Call Decoded Validated) → Answer call →
    KafkaConsumerGroup Decoded Validated → Prop
  | .lock, .ok (), g => g.schemas.locked = false
  | _, _, _ => True

def Reaches (allowed : Nat → (call : Call Decoded Validated) → Answer call →
      KafkaConsumerGroup Decoded Validated → Prop)
    (globals : List String) (config : ConsumerConfig)
    (c : Config (KafkaConsumerGroup Decoded Validated) (@Answer Decoded Validated) Interrupt Unit) :
    Prop :=
  Reachable allowed (fun _ x => ∃ op : Operation, x = op.run globals config) .init c

section Classes

variable {K : ∀ {α : Type}, Task Decoded Validated α → Prop} {globals : List String}
  {config : ConsumerConfig}

def Event.IsPlain : Event Decoded Validated → Prop
  | .polling | .processed _ | .failed _ | .deadLettered _ => True
  | _ => False

theorem closed_getDeserializer (closed : Closed K)
    (updates : ∀ f, K (modify (schemas.update f) : Task Decoded Validated PUnit)) (topic : String) :
    K (getDeserializer topic : Task Decoded Validated Unit) :=
  closed_getCodec schemas _ _ closed updates (closed.awaited fun _ => closed_outcome closed _)
    (fun _ => closed.called fun _ => closed_orRaise closed _) topic

theorem closed_sendToDlq (closed : Closed K)
    (records : ∀ event : Event Decoded Validated, event.IsPlain → K (record event)) (message : Message) :
    K (sendToDlq globals config message : Task Decoded Validated Unit) := by
  have reasons : K (failureReason globals : Task Decoded Validated String) :=
    closed.bind (closed_raiseIf closed _ _) fun _ => closed.called fun _ => closed_orRaise closed _
  refine closed.bind closed.get fun g => ?_
  split
  · exact closed.pure _
  · refine Closed.ite (closed.bind reasons fun _ => ?_) (closed.pure _)
    exact closed.awaited fun _ => closed.bind (closed_outcome closed _) fun _ => records _ trivial

theorem closed_warnRetry (closed : Closed K) : K (warnRetry : Task Decoded Validated Unit) :=
  closed.bind (closed.call _) fun _ => closed_raiseIf closed _ _

theorem closed_retryEach (closed : Closed K)
    (records : ∀ event : Event Decoded Validated, event.IsPlain → K (record event))
    (retried : ∀ message, K (record (.retried message) : Task Decoded Validated PUnit))
    (invoked : ∀ message, K (record (.invoked (.message message)) : Task Decoded Validated PUnit))
    (message : Message) (rounds : Nat) :
    K (retryEach globals config message rounds : Task Decoded Validated Unit) := by
  induction rounds with
  | zero => exact closed.throw _
  | succ rounds ih =>
    refine closed.awaited fun _ => closed.bind (closed_outcome closed _) fun attempted => ?_
    cases attempted with
    | none => exact closed.pure _
    | some current =>
      have runs : K (runProcessor message (.message message) : Task Decoded Validated Unit) :=
        closed.bind (invoked message) fun _ => closed.awaited fun _ => closed_outcome closed _
      refine closed.bind (retried message) fun _ =>
        closed.bind (closed.attempt (closed.bind runs fun _ => records _ trivial)) fun ended => ?_
      split
      · exact closed.pure _
      · exact closed.throw _
      · refine closed.bind (closed_warnRetry closed) fun _ => Closed.ite ?_ ?_
        · exact closed.awaited fun _ => closed.bind (closed_outcome closed _) fun _ => ih
        · exact closed_sendToDlq closed records message

theorem closed_commitOffsets (closed : Closed K)
    (committed : ∀ offsets, K (record (.committed offsets) : Task Decoded Validated Unit))
    (cleared : K (modify fun g => { g with offsetCommits := Dict.empty } : Task Decoded Validated PUnit)) :
    K (commitOffsets globals : Task Decoded Validated Unit) := by
  have lists : ∀ entries, K (commitList globals entries : Task Decoded Validated (List TopicPartition)) := by
    intro entries
    induction entries with
    | nil => exact closed.pure _
    | cons entry rest ih =>
      refine closed.bind ?_ fun _ => closed.bind ih fun _ => closed.pure _
      induction entry.2.entries with
      | nil => exact closed.pure _
      | cons first others later =>
        refine closed.bind ?_ fun _ => closed.bind later fun _ => closed.pure _
        exact closed.bind (closed_raiseIf closed _ _) fun _ => closed.pure _
  refine closed.bind closed.get fun g => Closed.ite (closed.bind (lists _) fun offsets => ?_) (closed.pure _)
  refine Closed.ite (closed.bind (committed offsets) fun _ => closed.called fun _ => ?_) (closed.pure _)
  exact closed.bind (closed_orRaise closed _) fun _ => cleared

theorem closed_processMessage (closed : Closed K)
    (records : ∀ event : Event Decoded Validated, event.IsPlain → K (record event))
    {message : Message} {rounds : Nat} (handles : K (processValid message : Task Decoded Validated Unit))
    (retries : K (retryEach globals config message rounds : Task Decoded Validated Unit)) :
    K (processMessage globals config rounds message : Task Decoded Validated Unit) := by
  refine closed_asyncWith closed (closed.awaited fun _ => closed_outcome closed _)
    (closed.awaited fun _ => closed_outcome closed _) ?_
  refine closed_exceptException closed handles fun e => ?_
  refine closed.bind (records _ trivial) fun _ => Closed.ite ?_ (Closed.ite retries (closed.pure _))
  exact closed_sendToDlq closed records message

theorem closed_consumeEach (closed : Closed K) (started : K (record .polling : Task Decoded Validated Unit))
    (polled : ∀ message, K (record (.polled message) : Task Decoded Validated Unit))
    (processes : ∀ message rounds, K (processMessage globals config rounds message))
    (commits : K (commitOffsets globals)) (rounds polls : Nat) :
    K (consumeEach globals config rounds polls : Task Decoded Validated Unit) := by
  induction polls with
  | zero => exact closed.throw _
  | succ polls ih =>
    refine closed.bind closed.get fun g => Closed.ite ?_ (closed.pure _)
    refine closed.bind started fun _ => closed.awaited fun _ =>
      closed.bind (closed_outcome closed _) fun received => ?_
    cases received with
    | none => exact ih
    | some message =>
      refine Closed.ite ih (closed.bind (polled message) fun _ =>
        closed.bind (processes message rounds) fun _ => closed.bind closed.get fun _ => Closed.ite ?_ ih)
      exact closed.bind commits fun _ => ih

theorem closed_run (closed : Closed K)
    (edits : ∀ f : KafkaConsumerGroup Decoded Validated → KafkaConsumerGroup Decoded Validated,
      (∀ g, (f g).history = g.history ∧ (f g).offsetCommits = g.offsetCommits) →
        K (modify f : Task Decoded Validated PUnit))
    (commits : K (commitOffsets globals))
    (consumes : ∀ rounds polls, K (consumeEach globals config rounds polls)) (op : Operation) :
    K (op.run globals config : Task Decoded Validated Unit) := by
  have same (g : KafkaConsumerGroup Decoded Validated) :
      g.history = g.history ∧ g.offsetCommits = g.offsetCommits := ⟨rfl, rfl⟩
  cases op with
  | connect =>
    exact closed.called fun _ => closed.bind (closed_orRaise closed _) fun _ => edits _ same
  | consume rounds polls =>
    exact closed.bind closed.get fun _ => closed.bind (closed_raiseIf closed _ _) fun _ =>
      closed.finallyDo (consumes rounds polls) commits
  | rebalance event =>
    cases event with
    | revoked | lost => exact closed.bind commits fun _ => edits _ same
    | assigned partitions =>
      exact closed.bind (edits _ same) fun _ => closed.called fun _ => closed_orRaise closed _
    | other => exact closed.pure _
  | close =>
    refine closed.bind (edits _ same) fun _ => closed.bind closed.get fun _ =>
      Closed.ite ?_ (closed.pure _)
    exact closed.bind commits fun _ => closed.called fun _ => closed_orRaise closed _

theorem closed_preserving (inv : KafkaConsumerGroup Decoded Validated → Prop) :
    Closed (fun {α} (x : Task Decoded Validated α) => Preserves served inv x) :=
  Preserves.closed served inv

end Classes

section Commits

/-- What is committed of a topic: one more than each offset that is kept. -/
def due (entry : String × Dict Int Int) : List TopicPartition :=
  entry.2.entries.map fun (partition, offset) => ⟨entry.1, partition, offset + 1⟩

variable {D : Discipline (KafkaConsumerGroup Decoded Validated) (@Answer Decoded Validated)} {i : Nat}
  {globals : List String} {g : KafkaConsumerGroup Decoded Validated}
  {post : List TopicPartition → KafkaConsumerGroup Decoded Validated → Prop}
  {exn : Interrupt → KafkaConsumerGroup Decoded Validated → Prop}

theorem wp_partitionOffsets (topic : String) (entries : List (Int × Int))
    (built : (entries ≠ [] → "TopicPartition" ∈ globals) →
      post (entries.map fun (partition, offset) => ⟨topic, partition, offset + 1⟩) g)
    (raised : ∀ e, exn e g) : wp D i post exn (partitionOffsets globals topic entries) g := by
  induction entries generalizing post with
  | nil => exact built fun some => (some rfl).elim
  | cons entry rest ih =>
    rw [partitionOffsets, wp_bind, topicPartition, raiseIf]
    by_cases bound : "TopicPartition" ∈ globals
    · rw [if_neg (not_not_intro bound), wp_bind, wp_pure, wp_pure, wp_bind]
      exact ih fun _ => built fun _ => bound
    · rw [if_pos bound]
      exact raised _

theorem wp_commitList (entries : List (String × Dict Int Int))
    (built : (entries.flatMap due ≠ [] → "TopicPartition" ∈ globals) → post (entries.flatMap due) g)
    (raised : ∀ e, exn e g) : wp D i post exn (commitList globals entries) g := by
  induction entries generalizing post with
  | nil => exact built fun some => (some rfl).elim
  | cons entry rest ih =>
    rw [commitList, wp_bind]
    refine wp_partitionOffsets entry.1 entry.2.entries (fun first => ?_) raised
    rw [wp_bind]
    refine ih fun others => built fun some => ?_
    by_cases here : entry.2.entries = []
    · have none : due entry = [] := List.map_eq_nil_iff.mpr here
      exact others (by rwa [List.flatMap_cons, none] at some)
    · exact first here

end Commits

def obliging (value : Decoded) (validated : Validated) : (call : Call Decoded Validated) → Answer call
  | .createConsumer => .ok ()
  | .poll => .ok none
  | .breakerEnter => .ok ()
  | .breakerExit => .ok false
  | .lock => .ok ()
  | .createDeserializer _ => .ok ()
  | .deserialize _ _ => .ok value
  | .modelValidate _ => .ok validated
  | .processor _ _ => .ok ()
  | .nextAttempt => .ok none
  | .warningEnabled => true
  | .sleep => .ok ()
  | .failureReason => .ok "failed"
  | .produce _ _ _ => .ok ()
  | .commitAsync _ => .ok ()
  | .assign _ => .ok ()
  | .closeConsumer => .ok ()

def brokerAnswer (_ : Nat) : (call : Call String String) → Answer call := obliging "order" "order"

def order (offset : Int) : Message := ⟨"orders", 0, offset, false, none, none⟩

def oneByOne : ConsumerConfig := ⟨1, true, none⟩

def polling (globals : List String) (config : ConsumerConfig) (polls : Nat) :
    Config (KafkaConsumerGroup String String) (@Answer String String) Interrupt Unit :=
  let connected := (Config.init .init).put 0 (advance connect brokerAnswer 0 .init)
  connected.put 1 (advance (runConsumptionLoop globals config 1 polls) brokerAnswer 0 connected.shared)

theorem reaches_polling (allowed : Nat → (call : Call String String) → Answer call →
      KafkaConsumerGroup String String → Prop) (globals : List String) (config : ConsumerConfig)
    (polls : Nat) : Reaches allowed globals config (polling globals config (polls + 1)) := by
  have idle : Reaches allowed globals config (.init (.init : KafkaConsumerGroup String String)) := .refl
  exact (idle.spawn 0 brokerAnswer rfl ⟨.connect, rfl⟩).spawn 1 brokerAnswer rfl
    ⟨.consume 1 (polls + 1), rfl⟩

section Arguments

/-- The processor is called with what the deserializer gave and the schema accepted. -/
def Vetted (before : List (Event Decoded Validated)) : Event Decoded Validated → Prop
  | .invoked argument => ∃ topic raw value validated, argument = .validated validated ∧
      .deserialized topic raw value ∈ before ∧ .accepted value validated ∈ before
  | _ => True

def Unretried (history : List (Event Decoded Validated)) : Prop := ∀ message, .retried message ∉ history

def Trusting (g : KafkaConsumerGroup Decoded Validated) : Prop :=
  History.Each Vetted g.history ↔ Unretried g.history

def Retrying (g : KafkaConsumerGroup Decoded Validated) : Prop := ∃ message, .retried message ∈ g.history

theorem unretried_snoc {history : List (Event Decoded Validated)} {event : Event Decoded Validated}
    (other : ∀ message, event ≠ .retried message) : Unretried (history ++ [event]) ↔ Unretried history := by
  constructor
  · exact fun unretried message member => unretried message (List.mem_append_left _ member)
  · intro unretried message member
    rcases List.mem_append.mp member with old | new
    · exact unretried message old
    · exact other message (List.mem_singleton.mp new).symm

theorem Trusting.note {g : KafkaConsumerGroup Decoded Validated} (trusting : Trusting g)
    (event : Event Decoded Validated) (vetted : Vetted g.history event)
    (other : ∀ message, event ≠ .retried message) : Trusting (g.note event) := by
  rw [Trusting, KafkaConsumerGroup.note, History.each_snoc, unretried_snoc other]
  exact (and_iff_left vetted).trans trusting

theorem trusting_spoiled {g : KafkaConsumerGroup Decoded Validated} (retrying : Retrying g)
    (message : Message) :
    Trusting (g.note (.invoked (.message message))) := by
  obtain ⟨retried, member⟩ := retrying
  refine iff_of_false (fun each => ?_) fun unretried => unretried retried (List.mem_append_left _ member)
  obtain ⟨_, _, _, _, same, _⟩ := (History.each_snoc.mp each).2
  cases same

theorem vetted_of_plain {event : Event Decoded Validated} (plain : event.IsPlain)
    (before : List (Event Decoded Validated)) : Vetted before event := by
  cases event with
  | invoked argument => exact plain.elim
  | _ => trivial

variable {globals : List String} {config : ConsumerConfig}

theorem trusts_recorded {event : Event Decoded Validated} (plain : event.IsPlain) :
    Preserves served Trusting (record event : Task Decoded Validated Unit) :=
  .modify fun g trusting => trusting.note event (vetted_of_plain plain g.history) fun _ same => by
    rw [same] at plain
    exact plain

theorem trusts_retryEach (message : Message) (rounds : Nat) :
    Preserves served Trusting (retryEach globals config message rounds : Task Decoded Validated Unit) := by
  have closed := closed_preserving (@Trusting Decoded Validated)
  induction rounds with
  | zero => exact .throw _
  | succ rounds ih =>
    refine (Preserves.wait _).bind fun _ => (closed_outcome closed _).bind fun attempted => ?_
    cases attempted with
    | none => exact .pure _
    | some current =>
      intro i
      have began : Triple (.ofInvariant served Trusting) i Trusting
          (record (.retried message) : Task Decoded Validated Unit) (fun _ => Retrying) fun _ => Trusting :=
        Triple.modify fun g _ => ⟨fun _ _ => trivial, message, List.mem_append_right _ List.mem_cons_self⟩
      have invoked : Triple (.ofInvariant served Trusting) i Retrying
          (runProcessor message (.message message) : Task Decoded Validated Unit) (fun _ => Trusting) fun _ => Trusting :=
        Triple.bind (Triple.modify fun g retrying => ⟨fun _ _ => trivial, trusting_spoiled retrying message⟩)
          fun _ => (Preserves.wait _).bind (fun _ => .ofExcept _) i
      have finished : Preserves served Trusting (record (.processed message) : Task Decoded Validated Unit) :=
        trusts_recorded trivial
      have attempted : Triple (.ofInvariant served Trusting) i Retrying
          (attempt (do runProcessor message (.message message); record (.processed message)) :
            Task Decoded Validated (Except Interrupt Unit)) (fun _ => Trusting) fun _ => Trusting :=
        Triple.attempt (invoked.bind fun _ => finished i)
      refine began.bind fun _ => attempted.bind fun ended => ?_
      split
      · exact Preserves.pure _ i
      · exact Preserves.throw _ i
      · refine (closed_warnRetry closed).bind (fun _ => .ite ?_ ?_) i
        · exact (Preserves.wait _).bind fun _ => (Preserves.ofExcept _).bind fun _ => ih
        · exact closed_sendToDlq closed (fun _ plain => trusts_recorded plain) message

def Decodes (value : Decoded) (g : KafkaConsumerGroup Decoded Validated) : Prop :=
  Trusting g ∧ ∃ topic raw, .deserialized topic raw value ∈ g.history

def Accepts (validated : Validated) (g : KafkaConsumerGroup Decoded Validated) : Prop :=
  Trusting g ∧ ∃ topic raw value, .deserialized topic raw value ∈ g.history ∧
    .accepted value validated ∈ g.history

section Vetting

variable {i : Nat}

theorem triple_decoded (topic : String) (raw : Option Bytes) (value : Decoded) :
    Triple (.ofInvariant served Trusting) i Trusting
      (record (.deserialized topic raw value) : Task Decoded Validated Unit)
      (fun _ => Decodes value) fun _ => Trusting :=
  Triple.modify fun _ trusting => ⟨fun _ _ => trivial, trusting.note _ trivial (by simp), topic, raw,
    List.mem_append_right _ List.mem_cons_self⟩

theorem triple_accepted (value : Decoded) (validated : Validated) :
    Triple (.ofInvariant served Trusting) i (Decodes value)
      (record (.accepted value validated) : Task Decoded Validated Unit)
      (fun _ => Accepts validated) fun _ => Trusting := by
  refine Triple.modify fun g decodes => ⟨fun _ _ => trivial, decodes.1.note _ trivial (by simp), ?_⟩
  obtain ⟨_, topic, raw, decoded⟩ := decodes
  exact ⟨topic, raw, value, List.mem_append_left _ decoded, List.mem_append_right _ List.mem_cons_self⟩

theorem triple_runProcessor (message : Message) (validated : Validated) :
    Triple (.ofInvariant served Trusting) i (Accepts validated)
      (runProcessor message (.validated validated) : Task Decoded Validated Unit)
      (fun _ => Trusting) fun _ => Trusting := by
  refine Triple.bind (Triple.modify fun g accepts => ⟨fun _ _ => trivial, ?_⟩)
    fun _ => (Preserves.wait _).bind (fun _ => .ofExcept _) i
  obtain ⟨trusting, topic, raw, value, decoded, accepted⟩ := accepts
  exact trusting.note _ ⟨topic, raw, value, validated, rfl, decoded, accepted⟩ (by simp)

end Vetting

theorem trusts_processValid (message : Message) :
    Preserves served Trusting (processValid message : Task Decoded Validated Unit) := by
  have closed := closed_preserving (@Trusting Decoded Validated)
  have processed : Preserves served Trusting (record (.processed message) : Task Decoded Validated Unit) :=
    trusts_recorded trivial
  refine (closed_getDeserializer closed (fun _ => .modify fun _ trusting => trusting)
    message.topic).bind fun _ => ?_
  refine (Preserves.call _).bind fun _ => (closed_orRaise closed _).bind fun value => ?_
  intro i
  refine (triple_decoded message.topic message.value value).bind fun _ => ?_
  refine Triple.bind (fun _ decodes _ => decodes) fun answer => ?_
  refine Triple.bind (fun _ decodes => wp_orRaise (fun _ _ => decodes) fun _ _ => decodes.1)
    fun validated => ?_
  exact (triple_accepted value validated).bind fun _ => (triple_runProcessor message validated).bind fun _ =>
    (processed.bind fun _ => .modify fun _ trusting => trusting) i

theorem trusts_run (op : Operation) :
    Preserves served Trusting (op.run globals config : Task Decoded Validated Unit) := by
  have closed := closed_preserving (@Trusting Decoded Validated)
  have commits : Preserves served Trusting (commitOffsets globals : Task Decoded Validated Unit) :=
    closed_commitOffsets closed (fun _ => .modify fun _ trusting => trusting.note _ trivial (by simp))
      (.modify fun _ trusting => trusting)
  refine closed_run closed (fun f same => .modify fun g trusting => ?_) commits (fun rounds polls => ?_) op
  · rw [Trusting, (same g).1]
    exact trusting
  · refine closed_consumeEach closed (trusts_recorded trivial)
      (fun _ => .modify fun _ trusting => trusting.note _ trivial (by simp)) (fun message rounds => ?_)
      commits rounds polls
    exact closed_processMessage closed (fun _ plain => trusts_recorded plain) (trusts_processValid message)
      (trusts_retryEach message rounds)

end Arguments

/-- The processor has been called with vetted values alone exactly if the retry policy
has made no attempt. -/
theorem arguments_vetted_iff (globals : List String) (config : ConsumerConfig)
    (c : Config (KafkaConsumerGroup Decoded Validated) (@Answer Decoded Validated) Interrupt Unit)
    (reached : Reaches served globals config c) :
    History.Each Vetted c.shared.history ↔ ∀ message, .retried message ∉ c.shared.history := by
  have started : Trusting (KafkaConsumerGroup.init : KafkaConsumerGroup Decoded Validated) :=
    iff_of_true History.each_nil fun _ member => List.not_mem_nil member
  refine reachable_invariant (fun i x isTask => ?_) started reached
  obtain ⟨op, rfl⟩ := isTask
  exact trusts_run op

theorem one_order_vetted :
    ∃ c : Config (KafkaConsumerGroup String String) Answer Interrupt Unit,
      Reaches served moduleNames oneByOne c ∧
      .invoked (.validated "order") ∈ c.shared.history ∧
      (History.Each Vetted c.shared.history ↔ ∀ message, .retried message ∉ c.shared.history) := by
  have invoked := ((reaches_polling served moduleNames oneByOne 0).resume 1 .poll (.ok (some (order 7))) brokerAnswer rfl trivial).resume 1
    .breakerEnter (.ok ()) brokerAnswer rfl trivial
  exact ⟨_, invoked, List.mem_of_getElem? (i := 4) rfl, arguments_vetted_iff moduleNames oneByOne _ invoked⟩

theorem retried_order_unvetted :
    ∃ c : Config (KafkaConsumerGroup String String) Answer Interrupt Unit,
      Reaches served moduleNames oneByOne c ∧
      ¬ History.Each Vetted c.shared.history := by
  have invoked := ((reaches_polling served moduleNames oneByOne 0).resume 1 .poll (.ok (some (order 7))) brokerAnswer rfl trivial).resume 1
    .breakerEnter (.ok ()) brokerAnswer rfl trivial
  have failed := (invoked.resume 1 (.processor (order 7) (.validated "order"))
    (.error (.raised ⟨.runtimeError, "order service is down"⟩)) brokerAnswer rfl trivial).resume 1
    .nextAttempt (.ok (some ⟨true⟩)) brokerAnswer rfl trivial
  refine ⟨_, failed, fun each => ?_⟩
  obtain ⟨_, _, _, _, same, _⟩ := each
    [.polling, .polled (order 7), .deserialized "orders" none "order", .accepted "order" "order",
      .invoked (.validated "order"), .failed (order 7), .retried (order 7)]
    (.invoked (.message (order 7))) ⟨[], rfl⟩
  cases same

end KuvaAI.ConsumerGroup
