import KuvaAI.Agent.Heartbeats

/-! What the tasks of an agent keep to, whether or not one of them alone uses it. -/
namespace KuvaAI.Heartbeats
open Python Coroutine

@[simp] theorem live_created : Status.Live .created := trivial

@[simp] theorem live_running (task : Nat) : (Status.running task).Live := trivial

@[simp] theorem not_live_ended (result : Except Interrupt Unit) : ¬ (Status.ended result).Live := by
  rcases result with (e | _) | _ <;> exact id

namespace Heartbeat

@[simp] theorem status_receive (h : Heartbeat) : h.receive.status = h.status := rfl

@[simp] theorem asked_receive (h : Heartbeat) : h.receive.Asked ↔ h.Asked := by
  rw [Asked, Asked, receive]
  split <;> simp_all

@[simp] theorem asked_begin (task : Nat) (h : Heartbeat) : (h.begin task).Asked ↔ h.Asked :=
  h.asked_receive

@[simp] theorem asked_settle (ended : Except Interrupt Unit) (h : Heartbeat) :
    (h.settle ended).Asked ↔ h.Asked := Iff.rfl

theorem status_cancel (h : Heartbeat) : h.cancel.status = h.status := by
  rw [cancel]
  split <;> rfl

theorem asked_cancel {h : Heartbeat} (live : h.status.Live) : h.cancel.Asked := by
  rw [cancel, if_pos live]
  exact nofun

theorem asked_cancel_of (h : Heartbeat) (asked : h.Asked) : h.cancel.Asked := by
  rw [cancel]
  split
  · exact nofun
  · exact asked

/-- What becomes of a heartbeat while task `i` is not running: only that task ends it when it
runs it, and unasked it ends by a failure only. -/
structure Becomes (i : Nat) (replaced : Prop) (h h' : Heartbeat) : Prop where
  asked : h.Asked → h'.Asked
  left : replaced → h'.Asked → h.Asked
  done : ¬ h.status.Live → h'.status = h.status
  held : h.status = .running i → h'.status = .running i
  beating : ¬ h'.Asked → h.status.Live → h'.status.Live ∨ ∃ e, h'.status = .failed e

theorem Becomes.refl (i : Nat) (replaced : Prop) (h : Heartbeat) : Becomes i replaced h h :=
  ⟨id, fun _ => id, fun _ => rfl, id, fun _ => .inl⟩

theorem Becomes.trans {i : Nat} {replaced later : Prop} {h h' h'' : Heartbeat}
    (first : Becomes i replaced h h') (next : Becomes i later h' h'')
    (stays : replaced → later) : Becomes i replaced h h'' where
  asked := next.asked ∘ first.asked
  left replaced asked := first.left replaced (next.left (stays replaced) asked)
  done ended := by
    have same := first.done ended
    exact (next.done (same ▸ ended)).trans same
  held := next.held ∘ first.held
  beating unasked live := by
    rcases first.beating (unasked ∘ next.asked) live with live' | ⟨e, failed⟩
    · exact next.beating unasked live'
    · exact .inr ⟨e, (next.done (failed ▸ id)).trans failed⟩

end Heartbeat

theorem Heartbeat.becomes_cancel (h : Heartbeat) {i : Nat} {replaced : Prop} (latest : ¬ replaced) :
    h.Becomes i replaced h.cancel :=
  ⟨h.asked_cancel_of, fun isReplaced => (latest isReplaced).elim, fun _ => h.status_cancel,
    h.status_cancel.trans, fun unasked live => (unasked (asked_cancel live)).elim⟩

/-- Of what one task does, the others rely on this. When task `user` is the only one that uses
the agent, it relies on everything but how the heartbeats come along. -/
structure Moves (user : Option Nat) (i : Nat) (s t : AgentBase) : Prop where
  each : ∀ (n : Nat) (h : Heartbeat), s.heartbeats[n]? = some h → ∃ h', t.heartbeats[n]? = some h' ∧
    h.Becomes i (∃ m, s.heartbeatTask = some m ∧ n < m) h'
  newer : ∀ m, s.heartbeatTask = some m → ∃ m', t.heartbeatTask = some m' ∧ m ≤ m'
  alone : user = some i → t.state = s.state ∧ t.heartbeatTask = s.heartbeatTask ∧
    t.heartbeats.length = s.heartbeats.length

section Moves

variable {user : Option Nat} {i : Nat} {s t u : AgentBase}

theorem Moves.refl (user : Option Nat) (i : Nat) (s : AgentBase) : Moves user i s s where
  each _ h present := ⟨h, present, .refl i _ h⟩
  newer m isTask := ⟨m, isTask, le_rfl⟩
  alone _ := ⟨rfl, rfl, rfl⟩

theorem Moves.trans (first : Moves user i s t) (next : Moves user i t u) : Moves user i s u where
  each n h present := by
    obtain ⟨h', present', becomes⟩ := first.each n h present
    obtain ⟨h'', present'', becomes'⟩ := next.each n h' present'
    refine ⟨h'', present'', becomes.trans becomes' ?_⟩
    rintro ⟨m, isTask, before⟩
    obtain ⟨m', isTask', later⟩ := first.newer m isTask
    exact ⟨m', isTask', before.trans_le later⟩
  newer m isTask := by
    obtain ⟨m', isTask', later⟩ := first.newer m isTask
    obtain ⟨m'', isTask'', later'⟩ := next.newer m' isTask'
    exact ⟨m'', isTask'', later.trans later'⟩
  alone isUser := by
    obtain ⟨state, task, length⟩ := first.alone isUser
    obtain ⟨state', task', length'⟩ := next.alone isUser
    exact ⟨state'.trans state, task'.trans task, length'.trans length⟩

theorem Moves.of_same (heartbeats : t.heartbeats = s.heartbeats)
    (task : t.heartbeatTask = s.heartbeatTask) (state : user ≠ some i ∨ t.state = s.state) :
    Moves user i s t where
  each _ h present := ⟨h, heartbeats ▸ present, .refl i _ h⟩
  newer m isTask := ⟨m, task.trans isTask, le_rfl⟩
  alone isUser := ⟨state.resolve_left (not_not_intro isUser), task, by rw [heartbeats]⟩

theorem Moves.change {n : Nat} {f : Heartbeat → Heartbeat}
    (becomes : ∀ h, s.heartbeats[n]? = some h →
      h.Becomes i (∃ m, s.heartbeatTask = some m ∧ n < m) (f h)) : Moves user i s (s.change n f) where
  each k h present := by
    by_cases same : k = n
    · subst same
      exact ⟨f h, by simp [AgentBase.change, present], becomes h present⟩
    · exact ⟨h, by simp [AgentBase.change, Ne.symm same, present], .refl i _ h⟩
  newer m isTask := ⟨m, isTask, le_rfl⟩
  alone _ := ⟨rfl, rfl, by simp [AgentBase.change]⟩

end Moves

section Heartbeats

structure Sole (s : AgentBase) : Prop where
  live : ∀ (n : Nat) (h : Heartbeat), s.heartbeats[n]? = some h → h.status.Live →
    s.heartbeatTask = some n ∧ (s.state = "RUNNING" ∨ h.Asked ∧ s.state = "STOPPING")
  running : s.state = "RUNNING" → ∃ n, ∃ h : Heartbeat, s.heartbeatTask = some n ∧
    s.heartbeats[n]? = some h ∧ ¬ h.Asked ∧ (h.status.Live ∨ ∃ e, h.status = .failed e)

/-- A heartbeat has been asked to stop, and it has ended. -/
def StoppedAt (n : Nat) (s : AgentBase) : Prop :=
  ∃ h : Heartbeat, s.heartbeats[n]? = some h ∧ h.Asked ∧ ¬ h.status.Live

structure Free (s : AgentBase) : Prop where
  ended : ∀ (n : Nat) (h : Heartbeat), s.heartbeats[n]? = some h →
    h.status = .returned ∨ h.status = .cancelled → h.Asked
  terminated : s.state = "TERMINATED" → ∃ n, StoppedAt n s

structure Inv (user : Option Nat) (s : AgentBase) : Prop where
  unlocked : s.locked = false
  latest : s.heartbeats.length = s.heartbeatTask.elim 0 Nat.succ
  free : user = none → Free s
  sole : user ≠ none → Sole s

structure Quiet (s : AgentBase) : Prop where
  still : ∀ (n : Nat) (h : Heartbeat), s.heartbeats[n]? = some h → ¬ h.status.Live
  state : s.state ≠ "RUNNING"

theorem Quiet.stable {i : Nat} {s t : AgentBase} (quiet : Quiet s) (moved : Moves (some i) i s t) :
    Quiet t := by
  obtain ⟨state, -, length⟩ := moved.alone rfl
  refine ⟨fun n h present => ?_, state ▸ quiet.state⟩
  have within : n < s.heartbeats.length := length ▸ (List.getElem?_eq_some_iff.mp present).1
  obtain ⟨h', present', becomes⟩ := moved.each n _ (List.getElem?_eq_getElem within)
  cases present.symm.trans present'
  have ended := quiet.still n _ (List.getElem?_eq_getElem within)
  exact becomes.done ended ▸ ended

def discipline (user : Option Nat) : Discipline AgentBase Answer where
  allowed := served
  inv := Inv user
  rely := Moves user
  idle i s := user = some i → Quiet s
  rely_refl := .refl user
  rely_trans _ _ _ _ := .trans
  idle_stable _ _ _ moved idle isUser := (idle isUser).stable (isUser ▸ moved)

variable {user : Option Nat} {i n : Nat} {s : AgentBase}

theorem StoppedAt.stable {m : Nat} {t : AgentBase} (stopped : StoppedAt m s)
    (moved : Moves user i s t) : StoppedAt m t := by
  obtain ⟨h, present, asked, ended⟩ := stopped
  obtain ⟨h', present', becomes⟩ := moved.each m h present
  exact ⟨h', present', becomes.asked asked, becomes.done ended ▸ ended⟩

theorem change_free {f : Heartbeat → Heartbeat} (free : Free s)
    (becomes : ∀ h, s.heartbeats[n]? = some h →
      h.Becomes i (∃ m, s.heartbeatTask = some m ∧ n < m) (f h)) : Free (s.change n f) where
  ended k h present ends := by
    by_cases same : k = n
    · subst same
      obtain ⟨h, before, rfl⟩ : ∃ h', s.heartbeats[k]? = some h' ∧ f h' = h := by
        simpa [AgentBase.change] using present
      have next := becomes h before
      by_contra unasked
      have wasEnded : ¬ h.status.Live := fun live => by
        rcases next.beating unasked live with live' | ⟨e, failed⟩
        · rcases ends with status | status <;> rw [status] at live' <;> exact live'
        · rcases ends with status | status <;> exact nomatch status.symm.trans failed
      exact unasked (next.asked (free.ended k h before (next.done wasEnded ▸ ends)))
    · exact free.ended k h (by simpa [AgentBase.change, Ne.symm same] using present) ends
  terminated isOver := by
    obtain ⟨m, stopped⟩ := free.terminated isOver
    exact ⟨m, stopped.stable (.change becomes : Moves none i s (s.change n f))⟩

theorem change_inv {f : Heartbeat → Heartbeat} (inv : Inv user s)
    (becomes : ∀ h, s.heartbeats[n]? = some h → h.Becomes i True (f h)) :
    Inv user (s.change n f) where
  unlocked := inv.unlocked
  latest := by simpa [AgentBase.change] using inv.latest
  free isFree := change_free (inv.free isFree) fun h present =>
    let next := becomes h present
    ⟨next.asked, fun _ => next.left trivial, next.done, next.held, next.beating⟩
  sole isSole := by
    have sole := inv.sole isSole
    refine ⟨fun k h present live => ?_, fun isRunning => ?_⟩
    · by_cases same : k = n
      · subst same
        obtain ⟨h, before, rfl⟩ : ∃ h', s.heartbeats[k]? = some h' ∧ f h' = h := by
          simpa [AgentBase.change] using present
        have next := becomes h before
        have wasLive : h.status.Live := by
          by_contra ended
          exact ended (next.done ended ▸ live)
        obtain ⟨isTask, when⟩ := sole.live k h before wasLive
        exact ⟨isTask, when.imp_right fun stopping => ⟨next.asked stopping.1, stopping.2⟩⟩
      · exact sole.live k h (by simpa [AgentBase.change, Ne.symm same] using present) live
    · obtain ⟨k, h, isTask, present, unasked, beats⟩ := sole.running isRunning
      by_cases same : k = n
      · subst same
        have next := becomes h present
        have still : ¬ (f h).Asked := fun asked => unasked (next.left trivial asked)
        refine ⟨k, f h, isTask, by simp [AgentBase.change, present], still, ?_⟩
        rcases beats with live | ⟨e, failed⟩
        · exact next.beating still live
        · exact .inr ⟨e, (next.done (failed ▸ id)).trans failed⟩
      · exact ⟨k, h, isTask, by simpa [AgentBase.change, Ne.symm same] using present, unasked, beats⟩

def Beats (user : Option Nat) (i n : Nat) (s : AgentBase) : Prop :=
  Inv user s ∧ ∃ h : Heartbeat, s.heartbeats[n]? = some h ∧ h.status = .running i

def AskedAt (n : Nat) (s : AgentBase) : Prop :=
  ∃ h : Heartbeat, s.heartbeats[n]? = some h ∧ h.Asked

theorem Beats.stable {t : AgentBase} (beats : Beats user i n s) (moved : Moves user i s t)
    (inv : Inv user t) : Beats user i n t := by
  obtain ⟨-, h, present, running⟩ := beats
  obtain ⟨h', present', becomes⟩ := moved.each n h present
  exact ⟨inv, h', present', becomes.held running⟩

theorem Beats.change {f : Heartbeat → Heartbeat} (beats : Beats user i n s)
    (status : ∀ h, (f h).status = h.status) (asked : ∀ h, (f h).Asked ↔ h.Asked) :
    (∀ j, Moves user j s (s.change n f)) ∧ Beats user i n (s.change n f) := by
  obtain ⟨inv, h, present, running⟩ := beats
  have becomes : ∀ j replaced (h : Heartbeat), h.Becomes j replaced (f h) := fun j _ h =>
    ⟨(asked h).mpr, fun _ => (asked h).mp, fun _ => status h, (status h).trans,
      fun _ live => .inl (status h ▸ live)⟩
  refine ⟨fun j => .change fun h _ => becomes j _ h, change_inv inv fun h _ => becomes i _ h, f h, ?_,
    (status h).trans running⟩
  simp [AgentBase.change, present]

theorem AskedAt.receive {m : Nat} (asked : AskedAt n s) : AskedAt n (s.change m .receive) := by
  obtain ⟨h, present, asked⟩ := asked
  by_cases same : n = m
  · subst same
    exact ⟨h.receive, by simp [AgentBase.change, present], h.asked_receive.mpr asked⟩
  · exact ⟨h, by simpa [AgentBase.change, Ne.symm same] using present, asked⟩

/-- Where a heartbeat waits, it is cancelled only if it has been asked to stop. -/
theorem pause_spec {call : Call}
    (cancels : ∀ t, served i call (.error .cancelled) t → AskedAt n t) :
    Triple (discipline user) i (Beats user i n) (pause n call) (fun _ => Beats user i n)
      fun e t => Beats user i n t ∧ (e = .cancelled → AskedAt n t) := by
  intro s beats
  refine (wp_bind _ _ s).mpr ((wp_wait s).mpr ⟨beats.1, fun result t moved inv answered => ?_⟩)
  obtain ⟨moves, still⟩ := (beats.stable moved inv).change Heartbeat.status_receive
    Heartbeat.asked_receive
  refine wp_modify_bind (fun j _ => moves j) (wp_outcome (fun _ _ => still) fun e isError => ?_)
  refine ⟨still, fun isCancelled => ?_⟩
  rw [isError, isCancelled] at answered
  exact (cancels t answered).receive

theorem beat_spec (user : Option Nat) (i n : Nat) :
    Triple (discipline user) i (Beats user i n) (beat n) (fun _ => Beats user i n)
      fun e t => Beats user i n t ∧ (e = .cancelled → AskedAt n t) := by
  refine Triple.bind (Triple.get fun _ beats => beats) fun a => ?_
  refine Triple.bind (pause_spec fun t answered => answered rfl) fun _ => ?_
  refine pause_spec fun t answered => ?_
  obtain ⟨h, present, ends⟩ := answered
  exact ⟨h, present, (ends.resolve_left fun ok => nomatch ok.1).2⟩

/-- A heartbeat ends by itself only when it has been asked to stop. -/
theorem heartbeat_spec (user : Option Nat) (i n rounds : Nat) :
    Triple (discipline user) i (Beats user i n) (heartbeat n rounds)
      (fun _ t => Beats user i n t ∧ AskedAt n t)
      fun e t => Beats user i n t ∧ (e = .cancelled → AskedAt n t) := by
  induction rounds with
  | zero =>
    intro s beats
    exact (wp_bind _ _ s).mpr ((wp_wait s).mpr ⟨beats.1, fun _ _ _ _ answered => answered.elim⟩)
  | succ rounds ih =>
    have once : Triple (discipline user) i (Beats user i n)
        (exceptCancelled (do beat n; return true) (return false))
        (fun again t => Beats user i n t ∧ (again = false → AskedAt n t))
        fun e t => Beats user i n t ∧ (e = .cancelled → AskedAt n t) := by
      refine Triple.tryCatch (Triple.bind (beat_spec user i n) fun _ _ beats => ⟨beats, nofun⟩)
        fun e => Triple.ite (fun isCancelled t left => ?_) fun other t left => left
      exact ⟨left.1, fun _ => left.2 isCancelled⟩
    refine once.bind fun again => Triple.ite (fun _ => ?_) fun ends t left => ?_
    · exact ih.conseq (fun _ left => left.1) (fun _ _ => id) fun _ _ => id
    · exact ⟨left.1, left.2 (Bool.eq_false_iff.mpr ends)⟩

theorem settle_moves {result : Except Interrupt Unit} (beats : Beats user i n s)
    (asked : (∀ e, result ≠ .error (.raised e)) → AskedAt n s) :
    (∀ j, j ≠ i → Moves user j s (s.change n (.settle result))) ∧
      Inv user (s.change n (.settle result)) := by
  obtain ⟨inv, h, present, running⟩ := beats
  have becomes : ∀ j replaced, j ≠ i → h.Becomes j replaced (h.settle result) := by
    refine fun j _ other => ⟨id, fun _ => id, fun ended => ?_, fun held => ?_, fun unasked _ => ?_⟩
    · exact (ended (running ▸ live_running i)).elim
    · exact (other (Status.running.inj (held.symm.trans running))).elim
    · by_contra none
      obtain ⟨h', present', isAsked⟩ := asked fun e isError =>
        none (.inr ⟨e, by rw [isError]; rfl⟩)
      cases present.symm.trans present'
      exact unasked isAsked
  refine ⟨fun j other => .change fun h' present' => ?_,
    change_inv (i := i + 1) inv fun h' present' => ?_⟩
  · cases present.symm.trans present'
    exact becomes j _ other
  · cases present.symm.trans present'
    exact becomes _ _ (Nat.succ_ne_self i)

theorem keeps_runHeartbeat (other : user ≠ some i) (n rounds : Nat) :
    Keeps (discipline user) i (runHeartbeat i n rounds) := by
  intro s inv _
  refine (wp_bind _ _ s).mpr ((wp_wait s).mpr ⟨inv, fun started t _ inv answered => ?_⟩)
  obtain ⟨h, present, created, isStarted⟩ := answered
  have becomes : ∀ j replaced, h.Becomes j replaced (h.begin i) := fun j _ =>
    ⟨(h.asked_begin i).mpr, fun _ => (h.asked_begin i).mp, fun ended => (ended (created ▸ trivial)).elim,
      fun held => (nomatch created.symm.trans held), fun _ _ => .inl trivial⟩
  have begun : (t.change n (.begin i)).heartbeats[n]? = some (h.begin i) := by
    simp [AgentBase.change, present]
  have beats : Beats user i n (t.change n (.begin i)) := by
    refine ⟨change_inv (i := i) inv fun h' present' => ?_, h.begin i, begun, rfl⟩
    cases present.symm.trans present'
    exact becomes i _
  refine wp_modify_bind (fun j _ => .change fun h' present' => ?_) ?_
  · cases present.symm.trans present'
    exact becomes j _
  have ends : wp (discipline user) i (fun _ u => Beats user i n u ∧ AskedAt n u)
      (fun e u => Beats user i n u ∧ (e = .cancelled → AskedAt n u))
      (do outcome started; heartbeat n rounds) (t.change n (.begin i)) := by
    refine (wp_bind _ _ _).mpr (wp_outcome (fun _ _ => heartbeat_spec user i n rounds _ beats) ?_)
    refine fun e isError => ⟨beats, fun _ => ⟨_, begun, (h.asked_begin i).mpr fun unasked => ?_⟩⟩
    rw [if_neg (unasked ▸ nofun), isError] at isStarted
    cases isStarted
  have settles : ∀ result u, Beats user i n u → ((∀ e, result ≠ .error (.raised e)) → AskedAt n u) →
      wp (discipline user) i (fun _ v => Inv user v ∧ (user = some i → Quiet v))
        (fun _ v => Inv user v ∧ (user = some i → Quiet v))
        (modify fun a => a.change n (.settle result) : Task Unit) u := by
    intro result u beats asked
    obtain ⟨moves, settled⟩ := settle_moves beats asked
    exact ⟨moves, settled, fun isUser => (other isUser).elim⟩
  refine (wp_bind _ _ _).mpr ((wp_attempt _ _).mpr (wp_mono ends ?_ ?_))
  · rintro a u ⟨beats, asked⟩
    exact settles _ u beats fun _ => asked
  · rintro e u ⟨beats, asked⟩
    refine settles _ u beats fun notRaised => asked ?_
    cases e with
    | raised e => exact (notRaised e rfl).elim
    | cancelled => rfl

end Heartbeats

section Operations

variable {user : Option Nat} {i : Nat} {s : AgentBase}

theorem await_spec {pre : AgentBase → Prop} {call : Call} (inv : ∀ s, pre s → Inv user s)
    (stable : ∀ s t, pre s → Moves user i s t → Inv user t → pre t) :
    Triple (discipline user) i pre (await call) (fun _ t => pre t ∧ ∃ result, served i call result t)
      fun _ t => pre t ∧ ∃ result, served i call result t := by
  intro s holds
  refine (wp_bind _ _ s).mpr ((wp_wait s).mpr ⟨inv s holds, fun result t moved later answered => ?_⟩)
  have found : pre t ∧ ∃ result, served i call result t :=
    ⟨stable s t holds moved later, result, answered⟩
  exact wp_outcome (fun _ _ => found) fun _ _ => found

theorem startDependencies_spec {pre : AgentBase → Prop} (inv : ∀ s, pre s → Inv user s)
    (stable : ∀ s t, pre s → Moves user i s t → Inv user t → pre t)
    (dependencies : List (String × Dependency)) :
    Triple (discipline user) i pre (dependencies.forM startDependency) (fun _ => pre)
      fun _ => pre := by
  refine fun s holds => wp_forM (I := fun _ => pre) (fun dependency _ t holds => ?_) dependencies
    holds
  refine Triple.ite (fun _ => ?_) (fun _ _ holds => holds) t holds
  exact (await_spec inv stable).conseq (fun _ => id) (fun _ _ => And.left) fun _ _ => And.left

variable (acts : ∀ j, j ≠ i → user ≠ some j)

include acts

/-- The lock is free, so that a transition takes place at once. -/
theorem wp_transition {newState : String} {post : Unit → AgentBase → Prop}
    {exn : Interrupt → AgentBase → Prop} (known : newState ∈ states) (unlocked : s.locked = false)
    (holds : post () { s with state := newState }) :
    wp (discipline user) i post exn (transition newState) s := by
  have others : ∀ {t u : AgentBase}, u.heartbeats = t.heartbeats →
      u.heartbeatTask = t.heartbeatTask → ∀ j, j ≠ i → Moves user j t u :=
    fun same task j other => .of_same same task (.inl (acts j other))
  refine wp_asyncWith ?_
  rw [acquire]
  refine (wp_bind _ _ s).mpr ?_
  simp only [wp_get, unlocked]
  refine ⟨others rfl rfl, ?_⟩
  refine (wp_bind _ _ _).mpr ((wp_get _).mpr ?_)
  rw [if_pos known]
  refine (wp_modify _ _).mpr ⟨others rfl rfl, ?_⟩
  rw [release]
  refine wp_modify_bind (others rfl rfl) ?_
  rw [← unlocked]
  exact holds

theorem moves_createTask (latest : s.heartbeats.length = s.heartbeatTask.elim 0 Nat.succ) (j : Nat)
    (other : j ≠ i) : Moves user j s s.createTask where
  each n h present := by
    refine ⟨h, ?_, .refl j _ h⟩
    rw [AgentBase.createTask, List.getElem?_append_left (List.getElem?_eq_some_iff.mp present).1, present]
  newer m isTask := by
    refine ⟨_, rfl, ?_⟩
    rw [latest, isTask]
    exact Nat.le_succ m
  alone isUser := (acts j other isUser).elim

omit acts in
theorem moves_cancel {n : Nat} (isTask : s.heartbeatTask = some n) (j : Nat) :
    Moves user j s (s.change n .cancel) :=
  .change fun h _ => h.becomes_cancel fun ⟨_, isLatest, before⟩ =>
    before.ne (Option.some.inj (isTask.symm.trans isLatest))

end Operations

end KuvaAI.Heartbeats
