import KuvaAI.Lib.Packing
import KuvaAI.Observability.Statsd
import Mathlib.Data.List.Perm.Basic

/-! Where the submitted lines of statsd.py are. A line leaves the buffer when a full
buffer takes another one, and when a flush drains it; only what is still in the buffer
when a send fails is counted as dropped, and by then nothing is. -/
namespace KuvaAI.Statsd
open Python

/-- Every submitted line is in the buffer, in a chunk whose send succeeded, or one of
the lines that `dropped` counts. -/
def Accounted (w : World) : Prop :=
  ∃ lost : List String, lost.length = w.client.dropped ∧
    w.submitted.Perm (w.client.buffer.items ++ w.delivered.flatten ++ lost)

/-- No submission meets a full buffer, and a flush of a buffer with lines in it goes
over UDP and has no send that fails. -/
def Clean (w : World) : Action → Prop
  | .submit m draw => m.sampled w.client.config draw = true → ¬ w.client.buffer.Full
  | .flush fails => w.client.buffer.items = [] ∨
      (w.client.config.protocol = .udp ∧ ∀ i < w.client.chunks.length, fails i = false)

section Chunks

variable (mtu : Nat)

theorem drain_eq_pack (lines : List String) (chunks : List (List String))
    (currentChunk : List String) (currentSize : Nat) :
    drain mtu lines chunks currentChunk currentSize =
      Packing.pack String.utf8ByteSize mtu lines chunks currentChunk currentSize := by
  induction lines generalizing chunks currentChunk currentSize with
  | nil => cases currentChunk <;> rfl
  | cons metric rest ih => simp [drain, Packing.pack, ih]

theorem drain_last (items : List String) (chunks : List (List String))
    (currentChunk : List String) (currentSize : Nat) (begun : currentChunk ≠ [] ∨ items ≠ []) :
    ∃ before last, drain mtu items chunks currentChunk currentSize = before ++ [last] ∧
      last ≠ [] := by
  induction items generalizing chunks currentChunk currentSize with
  | nil =>
    have filled : currentChunk ≠ [] := by simpa using begun
    exact ⟨chunks, currentChunk, by simp [drain, filled], filled⟩
  | cons metric rest ih =>
    unfold drain
    dsimp only
    split
    · exact ih _ _ _ (.inl (by simp))
    · exact ih _ _ _ (.inl (by simp))

theorem Client.chunks_flatten (c : Client) : c.chunks.flatten = c.buffer.items := by
  simp [Client.chunks, drain_eq_pack, Packing.pack_flatten]

end Chunks

section Sends

theorem sendAll_ok (fails : Nat → Bool) (chunks : List (List String)) (i : Nat) (w : World)
    (ok : ∀ j < chunks.length, fails (i + j) = false) :
    ∃ sent, sendAll fails i chunks w = (.ok (), sent) ∧
      sent.submitted = w.submitted ∧ sent.delivered = w.delivered ++ chunks ∧
      sent.client = { w.client with sent := w.client.sent + chunks.length } := by
  induction chunks generalizing i w with
  | nil => exact ⟨w, rfl, rfl, by simp, rfl⟩
  | cons chunk rest ih =>
    have first : fails i = false := ok 0 (by simp)
    have later : ∀ j < rest.length, fails (i + 1 + j) = false := by
      intro j bound
      have shifted := ok (j + 1) (by simpa using bound)
      rwa [show i + 1 + j = i + (j + 1) by omega]
    obtain ⟨sent, ran, submitted, delivered, client⟩ := ih (i + 1) (w.sendOk chunk) later
    refine ⟨sent, by simp [sendAll, first, ran], submitted, ?_, ?_⟩
    · simp [delivered, World.sendOk]
    · simp only [client, World.sendOk, List.length_cons]
      congr 1
      omega

theorem sendAll_error (fails : Nat → Bool) (chunks : List (List String)) (i : Nat) (w : World)
    (failed : ∃ j < chunks.length, fails (i + j) = true) :
    ∃ first rest stopped, sendAll fails i chunks w = (.error (), stopped) ∧
      chunks = first ++ rest ∧ rest ≠ [] ∧
      stopped.submitted = w.submitted ∧ stopped.delivered = w.delivered ++ first ∧
      stopped.client.buffer = w.client.buffer ∧ stopped.client.dropped = w.client.dropped := by
  induction chunks generalizing i w with
  | nil =>
    obtain ⟨j, bound, _⟩ := failed
    simp at bound
  | cons chunk rest ih =>
    cases here : fails i with
    | true =>
      exact ⟨[], chunk :: rest, w.sendError, by simp [sendAll, here], rfl, by simp, rfl,
        by simp [World.sendError], rfl, rfl⟩
    | false =>
      have later : ∃ j < rest.length, fails (i + 1 + j) = true := by
        obtain ⟨j, bound, fail⟩ := failed
        cases j with
        | zero => simp [here] at fail
        | succ j => exact ⟨j, by simpa using bound, by rwa [show i + 1 + j = i + (j + 1) by omega]⟩
      obtain ⟨first, last, stopped, ran, parts, left, submitted, delivered, buffer, dropped⟩ :=
        ih (i + 1) (w.sendOk chunk) later
      exact ⟨chunk :: first, last, stopped, by simp [sendAll, here, ran], by simp [parts], left,
        submitted, by simp [delivered, World.sendOk], buffer, dropped⟩

end Sends

def World.held (w : World) : Nat :=
  w.client.buffer.items.length + w.delivered.flatten.length + w.client.dropped

def Bounded (w : World) : Prop :=
  w.held + (if w.client.locked then 1 else 0) ≤ w.submitted.length

theorem held_of_accounted {w : World} (accounted : Accounted w) : w.held = w.submitted.length := by
  obtain ⟨lost, counted, places⟩ := accounted
  have sizes := places.length_eq
  simp only [List.length_append] at sizes
  unfold World.held
  omega

theorem unlocked_of_accounted {w : World} (bounded : Bounded w) (accounted : Accounted w) :
    w.client.locked = false := by
  have sizes := held_of_accounted accounted
  unfold Bounded at bounded
  cases locked : w.client.locked with
  | false => rfl
  | true =>
    simp only [locked, if_true] at bounded
    omega

section Flush

variable {fails : Nat → Bool} {w : World}

theorem flush_locked (locked : w.client.locked = true) : flush fails w = w := by
  simp [flush, locked]

theorem flush_empty (empty : w.client.buffer.items = []) : flush fails w = w := by
  simp [flush, empty]

theorem flush_udp_ok (unlocked : w.client.locked = false)
    (udp : w.client.config.protocol = .udp) (filled : w.client.buffer.items ≠ [])
    (ok : ∀ i < w.client.chunks.length, fails i = false) :
    (flush fails w).submitted = w.submitted ∧ (flush fails w).client.buffer.items = [] ∧
      (flush fails w).delivered.flatten = w.delivered.flatten ++ w.client.buffer.items ∧
      (flush fails w).client.dropped = w.client.dropped ∧
      (flush fails w).client.locked = false := by
  obtain ⟨sent, ran, submitted, delivered, client⟩ :=
    sendAll_ok fails w.client.chunks 0 w.emptied (by simpa using ok)
  have flushed : flush fails w = sent := by simp [flush, unlocked, filled, udp, ran]
  rw [flushed, submitted, delivered, client]
  simp [World.emptied, Client.chunks_flatten, unlocked]

/-- The chunks from the failing one on are neither buffered, nor sent, nor counted. -/
theorem flush_udp_error (unlocked : w.client.locked = false)
    (udp : w.client.config.protocol = .udp) (filled : w.client.buffer.items ≠ [])
    (failed : ∃ i < w.client.chunks.length, fails i = true) :
    (flush fails w).submitted = w.submitted ∧ (flush fails w).held < w.held := by
  obtain ⟨first, rest, stopped, ran, parts, left, submitted, delivered, buffer, dropped⟩ :=
    sendAll_error fails w.client.chunks 0 w.emptied (by simpa using failed)
  have flushed : flush fails w = stopped.clear := by simp [flush, unlocked, filled, udp, ran]
  obtain ⟨before, last, ends, nonempty⟩ :=
    drain_last w.client.config.mtu w.client.buffer.items [] [] 0 (.inr filled)
  have lost : last ∈ rest := by
    have whole : first ++ rest = before ++ [last] := parts.symm.trans ends
    have same := congrArg List.getLast? whole
    rw [List.getLast?_append_of_ne_nil _ left, List.getLast?_concat] at same
    exact List.mem_of_getLast? same
  have short : first.flatten.length < w.client.buffer.items.length := by
    have sizes := congrArg List.length (w.client.chunks_flatten)
    rw [parts, List.flatten_append, List.length_append] at sizes
    have one : last.length ≤ rest.flatten.length := (List.sublist_flatten_of_mem lost).length_le
    have positive := List.length_pos_iff.mpr nonempty
    omega
  rw [flushed]
  refine ⟨submitted, ?_⟩
  simp only [World.held, World.clear, BoundedDeque.items_empty, List.length_nil, delivered,
    dropped, buffer, World.emptied, List.flatten_append, List.length_append]
  omega

theorem flush_stream (unlocked : w.client.locked = false)
    (stream : w.client.config.protocol ≠ .udp) (filled : w.client.buffer.items ≠ []) :
    flush fails w = w.emptied.lock := by
  cases protocol : w.client.config.protocol with
  | udp => exact absurd protocol stream
  | tcp | tls => simp [flush, unlocked, filled, protocol]

theorem held_emptied (filled : w.client.buffer.items ≠ []) : w.emptied.lock.held < w.held := by
  have positive := List.length_pos_iff.mpr filled
  simp only [World.held, World.lock, World.emptied, BoundedDeque.items_empty, List.length_nil]
  omega

theorem flush_cases (fails : Nat → Bool) (w : World) :
    (flush fails w = w ∧ (w.client.locked = true ∨ w.client.buffer.items = [])) ∨
    (Clean w (.flush fails) ∧ (flush fails w).submitted = w.submitted ∧
      (flush fails w).client.buffer.items = [] ∧
      (flush fails w).delivered.flatten = w.delivered.flatten ++ w.client.buffer.items ∧
      (flush fails w).client.dropped = w.client.dropped ∧
      (flush fails w).client.locked = false) ∨
    (¬ Clean w (.flush fails) ∧ (flush fails w).submitted = w.submitted ∧
      (flush fails w).held < w.held) := by
  by_cases locked : w.client.locked = true
  · exact .inl ⟨flush_locked locked, .inl locked⟩
  have unlocked : w.client.locked = false := by simpa using locked
  by_cases empty : w.client.buffer.items = []
  · exact .inl ⟨flush_empty empty, .inr empty⟩
  by_cases udp : w.client.config.protocol = .udp
  · by_cases failed : ∃ i < w.client.chunks.length, fails i = true
    · refine .inr (.inr ⟨?_, flush_udp_error unlocked udp empty failed⟩)
      rintro (none | ⟨_, ok⟩)
      · exact absurd none empty
      · obtain ⟨i, bound, fail⟩ := failed
        simp [ok i bound] at fail
    · have ok : ∀ i < w.client.chunks.length, fails i = false := by simpa using failed
      exact .inr (.inl ⟨.inr ⟨udp, ok⟩, flush_udp_ok unlocked udp empty ok⟩)
  · refine .inr (.inr ⟨?_, ?_⟩)
    · rintro (none | ⟨same, _⟩)
      · exact absurd none empty
      · exact absurd same udp
    · rw [flush_stream unlocked udp empty]
      exact ⟨rfl, held_emptied empty⟩

end Flush

section Steps

variable (text : Value → String) {w : World}

theorem bounded_submit (m : Metric) (draw : Flt) (bounded : Bounded w) :
    Bounded (submit text m draw w) := by
  unfold submit
  dsimp only
  split
  · unfold Bounded World.held at bounded ⊢
    cases locked : w.client.locked <;>
      simp only [Client.append, BoundedDeque.items_push, List.length_drop, List.length_append,
        List.length_singleton, locked, if_true, Bool.false_eq_true, if_false] at bounded ⊢ <;>
      omega
  · exact bounded

theorem bounded_flush (fails : Nat → Bool) (bounded : Bounded w) : Bounded (flush fails w) := by
  rcases flush_cases fails w with ⟨same, _⟩ | ⟨_, submitted, none, delivered, dropped, free⟩ |
    ⟨_, submitted, less⟩
  · rw [same]
    exact bounded
  · unfold Bounded World.held at bounded ⊢
    rw [submitted, free, none, delivered, dropped]
    simp only [Bool.false_eq_true, if_false, List.length_append, List.length_nil]
    omega
  · unfold Bounded at bounded ⊢
    rw [submitted]
    split <;> omega

theorem bounded_step (w : World) (action : Action) (bounded : Bounded w) :
    Bounded (step text w action) := by
  cases action with
  | submit m draw => exact bounded_submit text m draw bounded
  | flush fails => exact bounded_flush fails bounded

theorem submit_accounted_iff (m : Metric) (draw : Flt) (accounted : Accounted w) :
    Accounted (submit text m draw w) ↔ Clean w (.submit m draw) := by
  unfold submit Clean
  by_cases sampled : m.sampled w.client.config draw = true
  · simp only [sampled, if_true, true_implies]
    constructor
    · intro kept full
      have before := held_of_accounted accounted
      have after := held_of_accounted kept
      obtain ⟨oldest, evicted⟩ := BoundedDeque.push_of_full (a := m.line text w.client.config) full
      have same := congrArg List.length evicted
      simp only [World.held, Client.append, List.length_append, List.length_cons,
        List.length_nil] at before after same
      omega
    · intro room
      obtain ⟨lost, counted, places⟩ := accounted
      refine ⟨lost, counted, ?_⟩
      simp only [Client.append, BoundedDeque.push_of_room room]
      have moved := places.append_right [m.line text w.client.config]
      refine moved.trans ?_
      simp only [List.append_assoc]
      refine List.Perm.append_left _ ?_
      rw [← List.append_assoc]
      exact List.perm_append_comm
  · exact iff_of_true (by simpa [sampled] using accounted) (by simp [sampled])

theorem flush_accounted_iff (fails : Nat → Bool) (bounded : Bounded w) (accounted : Accounted w) :
    Accounted (flush fails w) ↔ Clean w (.flush fails) := by
  have unlocked := unlocked_of_accounted bounded accounted
  have before := held_of_accounted accounted
  rcases flush_cases fails w with ⟨same, locked | empty⟩ |
    ⟨clean, submitted, none, delivered, dropped, _⟩ | ⟨unclean, submitted, less⟩
  · rw [unlocked] at locked
    cases locked
  · rw [same]
    exact iff_of_true accounted (.inl empty)
  · refine iff_of_true ?_ clean
    obtain ⟨lost, counted, places⟩ := accounted
    refine ⟨lost, by rw [dropped, counted], ?_⟩
    rw [submitted, none, delivered, List.nil_append]
    exact places.trans (List.Perm.append_right _ List.perm_append_comm)
  · refine iff_of_false (fun kept => ?_) unclean
    have after := held_of_accounted kept
    rw [submitted] at after
    omega

end Steps

theorem accounted_init (config : StatsDConfig) : Accounted (.init config) :=
  ⟨[], rfl, by simp [World.init, Client.init]⟩

theorem bounded_init (config : StatsDConfig) : Bounded (.init config) := by
  simp [Bounded, World.held, World.init, Client.init]

/-- A run keeps its lines accounted for all along exactly if no submission meets a full
buffer and no flush has a send that fails or a lock to wait for. -/
theorem metrics_accounted_iff (text : Value → String) (config : StatsDConfig)
    (actions : List Action) :
    Runs.Always (step text) Accounted (.init config) actions ↔
      Runs.Each (step text) Clean (.init config) actions := by
  refine Runs.always_iff_each (bounded_step text) ?_ _ _ (bounded_init config) (accounted_init config)
  intro w action bounded accounted
  cases action with
  | submit m draw => exact submit_accounted_iff text m draw accounted
  | flush fails => exact flush_accounted_iff fails bounded accounted

def udpConfig : StatsDConfig where
  protocol := .udp
  bufferSize := 1000
  bufferSizePositive := by decide
  sampleRate := .finite 1
  mtu := 1432
  tags := .empty

def login : Metric := ⟨"user.logins", .int 1, "c", none, none⟩

theorem failed_send_uncounted :
    ¬ Runs.Always (step fun _ => "1") Accounted (.init udpConfig)
      [.submit login (.finite 0), .flush fun _ => true] := by
  intro always
  have sizes := held_of_accounted (always _ (List.prefix_refl _))
  exact absurd sizes (by decide)

end KuvaAI.Statsd
