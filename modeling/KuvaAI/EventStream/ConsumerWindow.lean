import KuvaAI.EventStream.ConsumerRuns
import Mathlib.Data.List.Dedup
import Mathlib.Data.List.Perm.Subperm

/-! How many processed messages are not yet committed when a consumption loop polls that
runs alone. The loop counts topics, so this depends on how the messages spread over them. -/
namespace KuvaAI.ConsumerGroup
open Python Coroutine EventStream

variable {Decoded Validated : Type}

def sinceCommit (window : List Message) : Event Decoded Validated → List Message
  | .processed message => window ++ [message]
  | .committed offsets => window.filter fun message =>
      ¬ ∃ tp ∈ offsets, tp.topic = message.topic ∧ tp.partition = message.partition
  | _ => window

/-- The messages processed since the last commit of their partition. -/
def window (history : List (Event Decoded Validated)) : List Message := history.foldl sinceCommit []

def Event.processedMessage : Event Decoded Validated → Option Message
  | .processed message => some message
  | _ => none

def processedMessages (history : List (Event Decoded Validated)) : List Message :=
  history.filterMap Event.processedMessage

def topics (messages : List Message) : List String := (messages.map Message.topic).dedup

/-- At a poll at most `limit` processed messages are not committed. -/
def Windowed (limit : Nat) (before : List (Event Decoded Validated)) : Event Decoded Validated → Prop
  | .polling => (window before).length ≤ limit
  | _ => True

def Smooth (history : List (Event Decoded Validated)) : Prop := ∀ message, .failed message ∉ history

def Delivers (messages : List Message) (history : List (Event Decoded Validated)) : Prop :=
  processedMessages history <+: messages ∧ Smooth history

def consuming : KafkaConsumerGroup Decoded Validated := { KafkaConsumerGroup.init with
  connected := true, running := true }

section Histories

variable {history : List (Event Decoded Validated)} {event : Event Decoded Validated}

theorem window_snoc : window (history ++ [event]) = sinceCommit (window history) event := by
  rw [window, List.foldl_append]
  rfl

theorem processedMessages_snoc : processedMessages (history ++ [event]) =
    processedMessages history ++ event.processedMessage.toList := by
  rw [processedMessages, List.filterMap_append]
  cases event <;> rfl

theorem topics_subset {messages others : List Message} (subset : messages ⊆ others) :
    topics messages ⊆ topics others := by
  intro topic member
  rw [topics, List.mem_dedup] at member ⊢
  exact List.map_subset _ subset member

theorem topics_length_mono {messages others : List Message} (subset : messages ⊆ others) :
    (topics messages).length ≤ (topics others).length :=
  (List.subperm_of_subset (List.nodup_dedup _) (topics_subset subset)).length_le

theorem topics_snoc (messages : List Message) (message : Message) (topic : String) :
    topic ∈ topics (messages ++ [message]) ↔ topic = message.topic ∨ topic ∈ topics messages := by
  simp [topics, or_comm, eq_comm]

end Histories

section Loop

def Fresh (limit : Nat) (before : List (Event Decoded Validated)) : Event Decoded Validated → Prop
  | .polling => Smooth before →
      window before = processedMessages before ∧ (topics (window before)).length < limit
  | _ => True

def AllFresh (limit : Nat) (g : KafkaConsumerGroup Decoded Validated) : Prop :=
  History.Each (Fresh limit) g.history

structure Level (g : KafkaConsumerGroup Decoded Validated) : Prop where
  processed : window g.history = processedMessages g.history
  keys : ∀ topic, topic ∈ g.offsetCommits.keys ↔ topic ∈ topics (window g.history)

structure Follows (limit : Nat) (g : KafkaConsumerGroup Decoded Validated) : Prop where
  fresh : AllFresh limit g
  connected : g.connected = true
  recorded : ∀ topic partitions, g.offsetCommits.get? topic = some partitions → partitions.entries ≠ []
  level : Smooth g.history → Level g

def Spoiled (limit : Nat) (g : KafkaConsumerGroup Decoded Validated) : Prop :=
  Follows limit g ∧ ¬ Smooth g.history

variable {limit : Nat} {g : KafkaConsumerGroup Decoded Validated} {event : Event Decoded Validated}

theorem smooth_of_note (smooth : Smooth (g.note event).history) : Smooth g.history :=
  fun message member => smooth message (List.mem_append_left _ member)

def Event.IsSilent : Event Decoded Validated → Prop
  | .processed _ | .committed _ => False
  | _ => True

theorem Level.note (level : Level g) (silent : event.IsSilent) : Level (g.note event) := by
  have kept : window (g.note event).history = window g.history := by
    refine window_snoc.trans ?_
    cases event with
    | processed | committed => exact silent.elim
    | _ => rfl
  have same : processedMessages (g.note event).history = processedMessages g.history := by
    refine processedMessages_snoc.trans ?_
    cases event with
    | processed | committed => exact silent.elim
    | _ => exact List.append_nil _
  exact ⟨by rw [kept, same, level.processed], by rw [kept]; exact level.keys⟩

theorem Level.keys_length (level : Level g) :
    g.offsetCommits.keys.length = (topics (window g.history)).length :=
  ((List.perm_ext_iff_of_nodup g.offsetCommits.nodup (List.nodup_dedup _)).mpr level.keys).length_eq

theorem Follows.note (follows : Follows limit g) (fresh : Fresh limit g.history event)
    (level : Smooth (g.note event).history → Level g → Level (g.note event)) :
    Follows limit (g.note event) where
  fresh := History.each_snoc.mpr ⟨follows.fresh, fresh⟩
  connected := follows.connected
  recorded := follows.recorded
  level smooth := level smooth (follows.level (smooth_of_note smooth))

theorem Follows.silent (follows : Follows limit g) (fresh : Fresh limit g.history event)
    (silent : event.IsSilent) : Follows limit (g.note event) :=
  follows.note fresh fun _ level => level.note silent

theorem Follows.fail (follows : Follows limit g) (message : Message) :
    Spoiled limit (g.note (.failed message)) := by
  refine ⟨follows.silent (by trivial) (by trivial), fun smooth => ?_⟩
  exact smooth message (List.mem_append_right _ List.mem_cons_self)

theorem Spoiled.note (spoiled : Spoiled limit g) (event : Event Decoded Validated) :
    Spoiled limit (g.note event) := by
  have failed : ¬ Smooth (g.note event).history := fun smooth => spoiled.2 (smooth_of_note smooth)
  refine ⟨spoiled.1.note ?_ fun smooth => (failed smooth).elim, failed⟩
  cases event with
  | polling => exact fun smooth => (spoiled.2 smooth).elim
  | _ => trivial

theorem Follows.poll (follows : Follows limit g) (room : g.offsetCommits.keys.length < limit) :
    Follows limit (g.note .polling) := by
  refine follows.silent (fun smooth => ?_) (by trivial)
  have level := follows.level smooth
  exact ⟨level.processed, level.keys_length ▸ room⟩

theorem Level.finish (level : Level g) (message : Message) :
    Level ((g.note (.processed message)).recordOffset message) := by
  have same : window ((g.note (.processed message)).recordOffset message).history =
      window g.history ++ [message] := window_snoc
  refine ⟨?_, fun topic => ?_⟩
  · have snoc : processedMessages (g.history ++ [.processed message]) =
        processedMessages g.history ++ [message] := processedMessages_snoc
    rw [same, level.processed]
    exact snoc.symm
  · rw [same, topics_snoc, ← level.keys topic]
    exact Dict.mem_keys_set _ _ _ _

theorem Follows.finish (follows : Follows limit g) (message : Message) :
    Follows limit ((g.note (.processed message)).recordOffset message) where
  fresh := History.each_snoc.mpr ⟨follows.fresh, trivial⟩
  connected := follows.connected
  recorded topic partitions found := by
    rw [KafkaConsumerGroup.recordOffset, Dict.get?_set] at found
    split at found
    · cases found
      exact Dict.entries_set_ne_nil _ _ _
    · exact follows.recorded topic partitions found
  level smooth := (follows.level (smooth_of_note smooth)).finish message

end Loop

section Alone

variable {limit : Nat} {g : KafkaConsumerGroup Decoded Validated} {globals : List String}
  {config : ConsumerConfig}

def solo (limit : Nat) : Discipline (KafkaConsumerGroup Decoded Validated) (@Answer Decoded Validated) :=
  .alone (served 0) (AllFresh limit)

theorem preserves_spoiled (event : Event Decoded Validated) :
    Preserves served (Spoiled limit) (record event : Task Decoded Validated PUnit) :=
  .modify fun _ spoiled => spoiled.note event

theorem preserves_silent (event : Event Decoded Validated) (silent : event.IsSilent)
    (other : event ≠ .polling) :
    Preserves served (Follows limit) (record event : Task Decoded Validated PUnit) := by
  refine .modify fun g follows => follows.silent ?_ silent
  cases event with
  | polling => exact (other rfl).elim
  | _ => trivial

theorem wp_record {α : Type} {post : α → KafkaConsumerGroup Decoded Validated → Prop}
    {exn : Interrupt → KafkaConsumerGroup Decoded Validated → Prop} {event : Event Decoded Validated}
    {f : PUnit → Task Decoded Validated α} (rest : wp (solo limit) 0 post exn (f ⟨⟩) (g.note event)) :
    wp (solo limit) 0 post exn (record event >>= f) g :=
  wp_modify_bind (fun _ other same => (other same).elim) rest

theorem wp_processValid (message : Message) (follows : Follows limit g) :
    wp (solo limit) 0 (fun _ => Follows limit) (fun _ => Follows limit)
      (processValid message : Task Decoded Validated Unit) g := by
  have closed : Closed fun {_} (x : Task Decoded Validated _) => Preserves served (Follows limit) x :=
    closed_preserving _
  refine wp_alone (?_ : wp (.ofInvariant served (Follows limit)) 0 _ _ _ _) fun _ later => later.fresh
  refine (closed_getDeserializer closed (fun _ => .modify fun _ follows => ?_) message.topic 0).bind
    (fun _ => ?_) g follows
  · exact ⟨follows.fresh, follows.connected, follows.recorded, fun smooth =>
      ⟨(follows.level smooth).processed, (follows.level smooth).keys⟩⟩
  refine (Preserves.call _ 0).bind fun _ => (closed_orRaise closed _ 0).bind fun value => ?_
  refine (preserves_silent _ (by trivial) (by simp) 0).bind fun _ => ?_
  refine (Preserves.call _ 0).bind fun _ => (closed_orRaise closed _ 0).bind fun validated => ?_
  refine (preserves_silent _ (by trivial) (by simp) 0).bind fun _ => ?_
  refine ((preserves_silent _ (by trivial) (by simp)).bind (fun _ =>
    (Preserves.wait _).bind fun _ => .ofExcept _) 0).bind fun _ => ?_
  intro g follows
  rw [wp_bind]
  exact ⟨fun _ _ => trivial, fun _ _ => trivial, follows.finish message⟩

theorem preserves_handled (rounds : Nat) (message : Message) (e : Exn) :
    Preserves served (Spoiled limit) (if e.cls = .validationError then sendToDlq globals config message
      else handleRetry globals config rounds message : Task Decoded Validated Unit) := by
  have closed : Closed fun {_} (x : Task Decoded Validated _) => Preserves served (Spoiled limit) x :=
    closed_preserving _
  have records := fun (event : Event Decoded Validated) (_ : event.IsPlain) =>
    (preserves_spoiled event : Preserves served (Spoiled limit) _)
  refine .ite (closed_sendToDlq closed records message) (.ite ?_ (.pure _))
  exact closed_retryEach closed records (fun _ => preserves_spoiled _) (fun _ => preserves_spoiled _)
    message rounds

theorem wp_handled (rounds : Nat) (message : Message) (e : Exn) (spoiled : Spoiled limit g) :
    wp (solo limit) 0 (fun _ => Spoiled limit) (fun _ => Spoiled limit)
      (if e.cls = .validationError then sendToDlq globals config message
        else handleRetry globals config rounds message : Task Decoded Validated Unit) g :=
  wp_alone (preserves_handled rounds message e 0 g spoiled) fun _ later => later.1.fresh

theorem wp_processMessage (rounds : Nat) (message : Message) (follows : Follows limit g) :
    wp (solo limit) 0 (fun _ => Follows limit) (fun _ => Follows limit)
      (processMessage globals config rounds message : Task Decoded Validated Unit) g := by
  have closed : Closed fun {_} (x : Task Decoded Validated _) =>
      Triple (solo limit) 0 (Follows limit) x (fun _ => Follows limit) fun _ => Follows limit :=
    Triple.closed (fun _ later => later.fresh) fun _ _ later moved _ => moved rfl ▸ later
  have handles : ∀ e : Exn, Triple (solo limit) 0 (Follows limit) (do
      record (.failed message)
      if e.cls = .validationError then sendToDlq globals config message
        else handleRetry globals config rounds message : Task Decoded Validated Unit)
      (fun _ => Follows limit) fun _ => Follows limit := by
    intro e g later
    exact wp_record (wp_mono (wp_handled rounds message e (later.fail message))
      (fun _ _ ended => ended.1) fun _ _ failed => failed.1)
  refine triple_asyncWith (closed.awaited fun _ => closed_outcome closed _) ?_
    (closed.awaited fun _ => closed_outcome closed _) g follows
  exact triple_exceptException (fun _ later => wp_processValid message later) handles fun _ later => later

section Commits

variable {post : Unit → KafkaConsumerGroup Decoded Validated → Prop}
  {exn : Interrupt → KafkaConsumerGroup Decoded Validated → Prop}
  (unbound : "TopicPartition" ∉ globals) (raised : ∀ e, exn e g)

include unbound raised

theorem wp_commitList_unbound {post : List TopicPartition → KafkaConsumerGroup Decoded Validated → Prop}
    (entries : List (String × Dict Int Int)) (none : (∀ entry ∈ entries, entry.2.entries = []) → post [] g) :
    wp (solo limit) 0 post exn (commitList globals entries) g := by
  refine wp_commitList entries (fun bound => ?_) raised
  have empty : entries.flatMap due = [] := by
    by_contra some
    exact unbound (bound some)
  rw [empty]
  exact none fun entry member => List.map_eq_nil_iff.mp (List.flatMap_eq_nil_iff.mp empty entry member)

theorem wp_commitOffsets_unbound (holds : post () g) :
    wp (solo limit) 0 post exn (commitOffsets globals : Task Decoded Validated Unit) g := by
  rw [commitOffsets, wp_bind, wp_get, wp_ite]
  split
  · rw [wp_bind]
    exact wp_commitList_unbound unbound raised _ fun _ => holds
  · exact holds

theorem wp_commitOffsets_full (follows : Follows limit g) (full : g.offsetCommits.keys ≠ []) :
    wp (solo limit) 0 post exn (commitOffsets globals : Task Decoded Validated Unit) g := by
  rw [commitOffsets, wp_bind, wp_get, wp_ite, if_pos follows.connected, wp_bind]
  refine wp_commitList_unbound unbound raised _ fun none => ?_
  obtain ⟨topic, key⟩ := List.exists_mem_of_ne_nil _ full
  obtain ⟨partitions, found⟩ := (Dict.mem_keys_iff _ topic).mp key
  exact absurd (none _ (Dict.mem_of_get? found)) (follows.recorded topic partitions found)

end Commits

theorem wp_consumeEach (unbound : "TopicPartition" ∉ globals) (rounds polls : Nat)
    (follows : Follows config.maxBatchSize g)
    (room : g.offsetCommits.keys.length < config.maxBatchSize) :
    wp (solo config.maxBatchSize) 0 (fun _ => Follows config.maxBatchSize)
      (fun _ => Follows config.maxBatchSize)
      (consumeEach globals config rounds polls : Task Decoded Validated Unit) g := by
  induction polls generalizing g with
  | zero => exact follows
  | succ polls ih =>
    rw [consumeEach, wp_bind, wp_get, wp_ite]
    split
    · have polling := follows.poll room
      refine wp_record (wp_wait_alone polling.fresh fun polled => ?_)
      rw [wp_bind]
      refine wp_outcome (fun received _ => ?_) fun _ _ => polling
      cases received with
      | none => exact ih polling room
      | some message =>
        rw [wp_ite]
        split
        · exact ih polling room
        · have received : Follows config.maxBatchSize ((g.note .polling).note (.polled message)) :=
            polling.silent (by trivial) (by trivial)
          refine wp_record ?_
          rw [wp_bind]
          refine wp_mono (wp_processMessage rounds message received) (fun _ g later => ?_)
            fun _ _ failed => failed
          rw [wp_bind, wp_get]
          refine (wp_ite (config.maxBatchSize ≤ _) _ _ g).mpr ?_
          split
          · rename_i full
            rw [wp_bind]
            refine wp_commitOffsets_full unbound (fun _ => later) later fun none => ?_
            rw [none] at full
            exact absurd (Nat.lt_of_lt_of_le (Nat.zero_lt_of_lt room) full) (Nat.lt_irrefl 0)
          · exact ih later (Nat.lt_of_not_le ‹_›)
    · exact follows

theorem follows_consuming : Follows limit (consuming : KafkaConsumerGroup Decoded Validated) where
  fresh := History.each_nil
  connected := rfl
  recorded _ _ found := nomatch found
  level _ := ⟨rfl, fun _ => Iff.rfl⟩

theorem wp_runConsumptionLoop (unbound : "TopicPartition" ∉ globals) (rounds polls : Nat)
    (positive : 0 < config.maxBatchSize) :
    wp (solo config.maxBatchSize) 0 (fun _ => AllFresh config.maxBatchSize)
      (fun _ => AllFresh config.maxBatchSize)
      (runConsumptionLoop globals config rounds polls : Task Decoded Validated Unit) consuming := by
  have connected : ¬ (consuming : KafkaConsumerGroup Decoded Validated).connected = false := nofun
  rw [runConsumptionLoop, wp_bind, wp_get, raiseIf, if_neg connected, wp_bind, wp_pure, wp_finallyDo]
  refine wp_mono (wp_consumeEach unbound rounds polls follows_consuming positive) (fun _ g later => ?_)
    fun _ g later => ?_
  · exact wp_commitOffsets_unbound unbound (fun _ => later.fresh) later.fresh
  · exact wp_commitOffsets_unbound unbound (fun _ => later.fresh) later.fresh

theorem visits_fresh (unbound : "TopicPartition" ∉ globals) {rounds polls : Nat}
    (positive : 0 < config.maxBatchSize) {x : Task Decoded Validated Unit}
    (visits : Visits (served 0) (runConsumptionLoop globals config rounds polls) consuming x g) :
    AllFresh config.maxBatchSize g :=
  visits_invariant (wp_runConsumptionLoop unbound rounds polls positive) visits

end Alone

/-- The first `limit + 1` messages, if there are so many, are of `limit` topics or more. -/
def Spread (limit : Nat) (messages : List Message) : Prop :=
  messages.length ≤ limit ∨ limit ≤ (topics (messages.take (limit + 1))).length

theorem Spread.windowed {limit : Nat} {messages : List Message} (spread : Spread limit messages)
    {history : List (Event Decoded Validated)} (delivers : Delivers messages history)
    (fresh : History.Each (Fresh limit) history) : History.Each (Windowed limit) history := by
  intro before event begins
  cases event with
  | polling =>
    have earlier : before <+: history := (List.prefix_append _ _).trans begins
    have smooth : Smooth before := fun message member => delivers.2 message (earlier.subset member)
    obtain ⟨processed, few⟩ := fresh before .polling begins smooth
    have first : window before <+: messages := by
      rw [processed]
      exact (earlier.filterMap _).trans delivers.1
    by_contra large
    have more : limit + 1 ≤ (window before).length := Nat.lt_of_not_le large
    rcases spread with short | broad
    · exact large (first.length_le.trans short)
    · have taken : messages.take (limit + 1) <+: window before :=
        List.prefix_of_prefix_length_le (List.take_prefix _ _) first
          ((List.length_take_le _ _).trans more)
      exact absurd (broad.trans (topics_length_mono taken.subset)) (Nat.not_le_of_lt few)
  | _ => trivial

section Overfull

structure Polls (messages : List Message) (g : KafkaConsumerGroup Decoded Validated) : Prop where
  running : g.running = true
  unlocked : g.schemas.locked = false
  smooth : Smooth g.history
  level : Level g
  window : window g.history = messages

variable {globals : List String} {value : Decoded} {validated : Validated} {messages : List Message}
  {g : KafkaConsumerGroup Decoded Validated} {goal : KafkaConsumerGroup Decoded Validated → Prop}

theorem smooth_note {event : Event Decoded Validated} (smooth : Smooth g.history)
    (other : ∀ message, event ≠ .failed message) : Smooth (g.note event).history := by
  intro message member
  rcases List.mem_append.mp member with old | new
  · exact smooth message old
  · exact other message (List.mem_singleton.mp new).symm

theorem Polls.silent (polls : Polls messages g) {event : Event Decoded Validated}
    (silent : event.IsSilent) (other : ∀ message, event ≠ .failed message) :
    Polls messages (g.note event) := by
  refine ⟨polls.running, polls.unlocked, smooth_note polls.smooth other, polls.level.note silent, ?_⟩
  refine window_snoc.trans ?_
  cases event with
  | processed | committed => exact silent.elim
  | _ => exact polls.window

theorem Polls.finish (polls : Polls messages g) (message : Message) :
    Polls (messages ++ [message]) ((g.note (.processed message)).recordOffset message) where
  running := polls.running
  unlocked := polls.unlocked
  smooth := smooth_note polls.smooth (by simp)
  level := polls.level.finish message
  window := window_snoc.trans (congrArg (· ++ [message]) polls.window)

theorem Polls.cached (polls : Polls messages g) (topics : List String) :
    Polls messages { g with schemas := ⟨false, topics⟩ } :=
  ⟨polls.running, rfl, polls.smooth, ⟨polls.level.processed, polls.level.keys⟩, polls.window⟩

theorem may_lookup {post : Unit → KafkaConsumerGroup Decoded Validated → Prop} (topic : String)
    (ended : ∀ topics, post () { g with schemas := ⟨g.schemas.locked, topics⟩ }) :
    may (served 0) (obliging value validated) goal post
      (getCodec.lookup schemas (fun topic => do orRaise (← call (Call.createDeserializer topic))) topic :
        Task Decoded Validated Unit) g := by
  refine may_bind (may_ite (fun _ => ?_) fun _ => ?_)
  · exact ended g.schemas.topics
  · exact may_bind (may_bind (ended (topic :: g.schemas.topics)))

theorem may_getDeserializer {post : Unit → KafkaConsumerGroup Decoded Validated → Prop} (topic : String)
    (unlocked : g.schemas.locked = false)
    (ended : ∀ topics, post () { g with schemas := ⟨false, topics⟩ }) :
    may (served 0) (obliging value validated) goal post (getDeserializer topic) g := by
  refine may_bind (may_ite (fun locked => ?_) fun _ => ?_)
  · exact absurd (unlocked.symm.trans locked) Bool.false_ne_true
  · refine may_bind (may_bind (may_attempt (may_lookup topic fun topics => ?_)))
    exact may_bind (ended topics)

theorem may_processValid (message : Message) (polls : Polls messages g) :
    may (served 0) (obliging value validated) goal (fun _ => Polls (messages ++ [message]))
      (processValid message) g := by
  refine may_bind (may_getDeserializer message.topic polls.unlocked fun topics => ?_)
  have decoded : Polls messages _ := (polls.cached topics).silent
    (by trivial : (Event.deserialized message.topic message.value value : Event Decoded Validated).IsSilent)
    (by simp)
  have accepted : Polls messages _ := decoded.silent
    (by trivial : (Event.accepted value validated : Event Decoded Validated).IsSilent) (by simp)
  have invoked : Polls messages _ := accepted.silent
    (by trivial : (Event.invoked (.validated validated) : Event Decoded Validated).IsSilent) (by simp)
  refine may_bind (may_bind (may_bind (may_bind (may_bind (may_bind ?_)))))
  refine may_bind (may_bind (.inr ⟨.ok (), trivial, ?_⟩))
  exact may_bind (invoked.finish message)

theorem may_processMessage {config : ConsumerConfig} (rounds : Nat) (message : Message)
    (polls : Polls messages g) :
    may (served 0) (obliging value validated) goal (fun _ => Polls (messages ++ [message]))
      (processMessage globals config rounds message) g := by
  refine may_bind (may_bind (.inr ⟨.ok (), trivial, may_bind (may_attempt ?_)⟩))
  refine may_tryCatch (may_mono (may_processValid message polls) fun _ t ended => ?_)
  exact may_bind (may_bind (.inr ⟨.ok false, trivial, ended⟩))

def Brims (messages : List Message) (g : KafkaConsumerGroup Decoded Validated) : Prop :=
  Polls messages g ∧ ∃ before, g.history = before ++ [.polling] ∧ window before = messages

theorem may_consumeEach {config : ConsumerConfig} (rounds : Nat) (rest : List Message)
    (sound : ∀ message ∈ rest, message.error = false)
    (narrow : (topics (messages ++ rest)).length < config.maxBatchSize) (polls : Polls messages g) :
    may (served 0) (obliging value validated) (Brims (messages ++ rest)) (fun _ _ => False)
      (consumeEach globals config rounds (rest.length + 1)) g := by
  induction rest generalizing messages g with
  | nil =>
    refine may_bind (may_ite (fun _ => may_bind (may_bind (.inl ?_))) fun stopped => ?_)
    · rw [List.append_nil]
      exact ⟨polls.silent (by trivial) (by simp), g.history, rfl, polls.window⟩
    · exact absurd polls.running stopped
  | cons message rest ih =>
    refine may_bind (may_ite (fun _ => ?_) fun stopped => absurd polls.running stopped)
    have polled : Polls messages _ := (polls.silent
      (by trivial : (Event.polling : Event Decoded Validated).IsSilent) (by simp)).silent
      (by trivial : (Event.polled message : Event Decoded Validated).IsSilent) (by simp)
    refine may_bind (may_bind (.inr ⟨.ok (some message), trivial, ?_⟩))
    refine may_ite (fun error => ?_) fun _ => ?_
    · exact nomatch (sound message List.mem_cons_self).symm.trans error
    refine may_bind (may_bind (may_mono (may_processMessage rounds message polled) fun _ t later => ?_))
    refine may_bind (may_ite (c := config.maxBatchSize ≤ _) (fun full => ?_) fun _ => ?_)
    · have few : t.offsetCommits.keys.length ≤ (topics (messages ++ message :: rest)).length := by
        rw [later.level.keys_length, later.window, List.append_cons messages message rest]
        exact topics_length_mono (List.subset_append_left _ _)
      exact absurd full (Nat.not_le_of_lt (few.trans_lt narrow))
    · rw [List.append_cons] at narrow ⊢
      exact ih (fun other member => sound other (List.mem_cons_of_mem _ member)) narrow later

theorem overfull (config : ConsumerConfig) (rounds : Nat) (messages : List Message)
    (sound : ∀ message ∈ messages, message.error = false) (crowded : ¬ Spread config.maxBatchSize messages)
    (value : Decoded) (validated : Validated) :
    ∃ polls x g, Visits (served 0) (runConsumptionLoop moduleNames config rounds polls :
        Task Decoded Validated Unit) consuming x g ∧
      Delivers messages g.history ∧ ¬ History.Each (Windowed config.maxBatchSize) g.history := by
  rw [Spread, not_or, not_le, not_le] at crowded
  obtain ⟨many, narrow⟩ := crowded
  have started : Polls [] (consuming : KafkaConsumerGroup Decoded Validated) :=
    ⟨rfl, rfl, fun _ member => (List.not_mem_nil member).elim, ⟨rfl, fun _ => Iff.rfl⟩, rfl⟩
  have first := messages.take_prefix (config.maxBatchSize + 1)
  have can : may (served 0) (obliging value validated)
      (Brims ([] ++ messages.take (config.maxBatchSize + 1))) (fun _ _ => False)
      (runConsumptionLoop moduleNames config rounds _) consuming :=
    may_bind (may_bind (may_bind (may_attempt (may_mono (may_consumeEach rounds _
      (fun message member => sound message (first.subset member)) narrow started) fun _ _ => False.elim))))
  obtain ⟨x, g, visits, brims | ⟨_, never⟩⟩ := may_visits can
  · obtain ⟨polls, before, brim, full⟩ := brims
    refine ⟨_, x, g, visits, ⟨?_, polls.smooth⟩, fun windowed => ?_⟩
    · rw [← polls.level.processed, polls.window]
      exact first
    · have few := windowed before .polling (brim ▸ List.prefix_refl _)
      rw [Windowed, full, List.nil_append, List.length_take] at few
      omega
  · exact never.elim

end Overfull

/-- Whichever messages a run processes, at each of its polls at most `max_batch_size` of
them are not committed, exactly if the messages are spread over enough topics. -/
theorem window_bounded_iff [Nonempty Decoded] [Nonempty Validated] (config : ConsumerConfig)
    (rounds : Nat) (positive : 1 ≤ config.maxBatchSize) (messages : List Message)
    (sound : ∀ message ∈ messages, message.error = false) :
    (∀ polls x g, Visits (served 0) (runConsumptionLoop moduleNames config rounds polls :
        Task Decoded Validated Unit) consuming x g → Delivers messages g.history →
      History.Each (Windowed config.maxBatchSize) g.history) ↔
    messages.length ≤ config.maxBatchSize ∨
      config.maxBatchSize ≤ (topics (messages.take (config.maxBatchSize + 1))).length := by
  constructor
  · intro bounded
    by_contra crowded
    obtain ⟨value⟩ := ‹Nonempty Decoded›
    obtain ⟨validated⟩ := ‹Nonempty Validated›
    obtain ⟨polls, x, g, visits, delivers, large⟩ :=
      overfull config rounds messages sound crowded value validated
    exact large (bounded polls x g visits delivers)
  · intro spread polls x g visits delivers
    exact Spread.windowed spread delivers (visits_fresh (by simp [moduleNames]) positive visits)

def pairs : ConsumerConfig := ⟨2, true, none⟩

theorem two_orders_bounded : Spread 2 [order 0, order 1] ∧ ∀ polls x g,
    Visits (served 0) (runConsumptionLoop moduleNames pairs 0 polls : Task String String Unit) consuming x g →
      Delivers [order 0, order 1] g.history → History.Each (Windowed 2) g.history :=
  have spread : Spread 2 [order 0, order 1] := .inl (by decide)
  ⟨spread, (window_bounded_iff pairs 0 (by decide) [order 0, order 1] (by decide)).mpr spread⟩

theorem three_orders_unbounded :
    ∃ polls x g, Visits (served 0) (runConsumptionLoop moduleNames pairs 0 polls : Task String String Unit)
        consuming x g ∧
      Delivers [order 0, order 1, order 2] g.history ∧ ¬ History.Each (Windowed 2) g.history :=
  overfull pairs 0 [order 0, order 1, order 2] (by decide) (by unfold Spread; decide) "order" "order"

end KuvaAI.ConsumerGroup
