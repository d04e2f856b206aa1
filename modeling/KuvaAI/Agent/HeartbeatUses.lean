import KuvaAI.Agent.HeartbeatRuns

/-! Which heartbeats of an agent go on. One that a second `start` has replaced is never asked
to stop; of an agent that one task uses by `async with`, each ends with its use. -/
namespace KuvaAI.Heartbeats
open Python Coroutine

section Shared

def anyTask (task : Nat) (x : Task Unit) : Prop :=
  x = start ∨ x = stop ∨ ∃ n rounds, x = runHeartbeat task n rounds

variable {i : Nat} {s : AgentBase}

theorem acts_shared (j : Nat) (_ : j ≠ i) : (none : Option Nat) ≠ some j := nofun

theorem inv_state (inv : Inv none s) {newState : String}
    (ended : newState = "TERMINATED" → ∃ n, StoppedAt n s) : Inv none { s with state := newState } :=
  ⟨inv.unlocked, inv.latest, fun _ => ⟨(inv.free rfl).ended, ended⟩, fun isSole => (isSole rfl).elim⟩

theorem inv_createTask (inv : Inv none s) : Inv none s.createTask := by
  have moved := moves_createTask (i := 0) acts_shared inv.latest 1 Nat.one_ne_zero
  refine ⟨inv.unlocked, by simp [AgentBase.createTask], fun _ => ⟨fun n h present ends => ?_,
    fun isOver => ?_⟩, fun isSole => (isSole rfl).elim⟩
  · have present : (s.heartbeats ++ [.fresh])[n]? = some h := present
    rcases List.mem_append.mp (List.mem_of_getElem? present) with old | new
    · obtain ⟨m, before⟩ := List.mem_iff_getElem?.mp old
      exact (inv.free rfl).ended m h before ends
    · cases List.mem_singleton.mp new
      rcases ends with returned | cancelled
      · cases returned
      · cases cancelled
  · obtain ⟨n, stopped⟩ := (inv.free rfl).terminated isOver
    exact ⟨n, stopped.stable moved⟩

theorem inv_cancel (inv : Inv none s) {n : Nat} (isTask : s.heartbeatTask = some n) :
    Inv none (s.change n .cancel) := by
  refine ⟨inv.unlocked, by simpa [AgentBase.change] using inv.latest, fun _ => ?_,
    fun isSole => (isSole rfl).elim⟩
  refine change_free (i := 0) (inv.free rfl) fun h _ => h.becomes_cancel ?_
  rintro ⟨m, isLatest, before⟩
  exact before.ne (Option.some.inj (isTask.symm.trans isLatest))

theorem transition_shared {newState : String} (known : newState ∈ states)
    (other : newState ≠ "TERMINATED") :
    Triple (discipline none) i (Inv none) (transition newState) (fun _ => Inv none)
      fun _ => Inv none :=
  fun _ inv => wp_transition acts_shared known inv.unlocked (inv_state inv fun isOver =>
    (other isOver).elim)

theorem start_shared :
    Triple (discipline none) i (Inv none) start (fun _ => Inv none) fun _ => Inv none := by
  refine (transition_shared (by decide) (by decide)).bind fun _ =>
    (Triple.get fun _ inv => inv).bind fun a => ?_
  refine (startDependencies_spec (fun _ => id) (fun _ _ _ _ inv => inv) _).bind fun _ => ?_
  exact Triple.bind (Triple.modify fun _ inv => ⟨moves_createTask acts_shared inv.latest,
    inv_createTask inv⟩) fun _ => transition_shared (by decide) (by decide)

theorem heartbeatTask_spec {user : Option Nat} {pre : AgentBase → Prop} :
    Triple (discipline user) i pre heartbeatTask (fun n t => pre t ∧ t.heartbeatTask = some n)
      fun _ t => pre t ∧ t.heartbeatTask = none := by
  intro s holds
  refine (wp_bind _ _ s).mpr ((wp_get s).mpr ?_)
  cases isTask : s.heartbeatTask with
  | some n => exact ⟨holds, isTask⟩
  | none => exact ⟨holds, isTask⟩

theorem outcome_spec {user : Option Nat} {pre : AgentBase → Prop} (result : Except Interrupt Unit) :
    Triple (discipline user) i pre (outcome result) (fun _ => pre) fun _ => pre :=
  fun _ holds => wp_outcome (fun _ _ => holds) fun _ _ => holds

theorem join_shared (n : Nat) :
    Triple (discipline none) i (fun t => Inv none t ∧ ∃ h : Heartbeat, t.heartbeats[n]? = some h ∧
        (h.status.Live → h.Asked)) (join n)
      (fun _ t => Inv none t ∧ StoppedAt n t)
      fun e t => Inv none t ∧ (e = .cancelled → StoppedAt n t) := by
  have waits : Triple (discipline none) i (fun t => Inv none t ∧ AskedAt n t) (await (.finished n))
      (fun _ t => Inv none t ∧ StoppedAt n t) fun _ t => Inv none t ∧ StoppedAt n t := by
    refine (await_spec (fun _ => And.left) fun s t asked moved inv => ?_).conseq (fun _ => id) ?_ ?_
    · obtain ⟨-, h, present, isAsked⟩ := asked
      obtain ⟨h', present', becomes⟩ := moved.each n h present
      exact ⟨inv, h', present', becomes.asked isAsked⟩
    all_goals
      rintro _ t ⟨⟨inv, h, present, isAsked⟩, result, -, h', present', ended⟩
      cases present.symm.trans present'
      exact ⟨inv, h, present, isAsked, ended⟩
  rintro s ⟨inv, h, present, requested⟩
  refine (wp_bind _ _ s).mpr ((wp_get s).mpr ?_)
  split
  case isTrue live =>
    obtain ⟨h', isSome, live⟩ := live
    cases present.symm.trans isSome
    have last : Triple (discipline none) i (fun t => Inv none t ∧ StoppedAt n t)
        (do outcome ((← get).heartbeats[n]?.elim (.ok ()) fun h => h.status.outcome) : Task Unit)
        (fun _ t => Inv none t ∧ StoppedAt n t) fun _ t => Inv none t ∧ StoppedAt n t :=
      (Triple.get fun _ stopped => stopped).bind fun a => outcome_spec _
    exact wp_mono (waits.bind (fun _ => last) s ⟨inv, h, present, requested live⟩) (fun _ _ => id)
      fun _ _ stopped => ⟨stopped.1, fun _ => stopped.2⟩
  case isFalse none =>
    have ended : ¬ h.status.Live := fun live => none ⟨h, present, live⟩
    have asked : h.status = .returned ∨ h.status = .cancelled → StoppedAt n s := fun ends =>
      ⟨h, present, (inv.free rfl).ended n h present ends, ended⟩
    refine (wp_bind _ _ s).mpr ((wp_get s).mpr ?_)
    rw [present, Option.elim_some]
    cases status : h.status with
    | created => exact (ended (status ▸ trivial)).elim
    | running task => exact (ended (status ▸ trivial)).elim
    | returned => exact ⟨inv, asked (.inl status)⟩
    | cancelled => exact ⟨inv, fun _ => asked (.inr status)⟩
    | failed e => exact ⟨inv, nofun⟩

theorem stop_shared :
    Triple (discipline none) i (Inv none) stop (fun _ => Inv none) fun _ => Inv none := by
  have joins : ∀ n, Triple (discipline none) i (fun t => Inv none t ∧
      ∃ h : Heartbeat, t.heartbeats[n]? = some h ∧ (h.status.Live → h.Asked))
      (exceptCancelled (join n) (return ())) (fun _ t => Inv none t ∧ StoppedAt n t)
      fun _ => Inv none := fun n =>
    Triple.tryCatch (join_shared n) fun e => Triple.ite
      (fun isCancelled _ failed => ⟨failed.1, failed.2 isCancelled⟩) fun _ _ failed => failed.1
  have unsubscribes : ∀ n, Triple (discipline none) i (fun t => Inv none t ∧ StoppedAt n t)
      (await .unsubscribeAll) (fun _ t => Inv none t ∧ StoppedAt n t) fun _ => Inv none := fun n =>
    (await_spec (fun _ => And.left) fun _ _ stopped moved inv =>
      ⟨inv, stopped.2.stable moved⟩).conseq (fun _ => id) (fun _ _ => And.left)
      fun _ _ found => found.1.1
  have terminates : ∀ n, Triple (discipline none) i (fun t => Inv none t ∧ StoppedAt n t)
      (transition "TERMINATED") (fun _ => Inv none) fun _ => Inv none := fun n _ stopped =>
    wp_transition acts_shared (by decide) stopped.1.unlocked
      (inv_state stopped.1 fun _ => ⟨n, stopped.2⟩)
  have asks : ∀ n, Triple (discipline none) i (fun t => Inv none t ∧ t.heartbeatTask = some n)
      (modify fun a => a.change n .cancel : Task Unit) (fun _ t => Inv none t ∧
        ∃ h : Heartbeat, t.heartbeats[n]? = some h ∧ (h.status.Live → h.Asked)) fun _ => Inv none := by
    rintro n t ⟨inv, isTask⟩
    have within : n < t.heartbeats.length := by
      rw [inv.latest, isTask]
      exact Nat.lt_succ_self n
    have present := List.getElem?_eq_getElem within
    refine ⟨fun j _ => moves_cancel isTask j, inv_cancel inv isTask, t.heartbeats[n].cancel,
      ?_, fun live => Heartbeat.asked_cancel (Heartbeat.status_cancel _ ▸ live)⟩
    simp only [AgentBase.change, List.getElem?_modify_eq, present, Option.map_eq_map,
      Option.map_some]
  refine (transition_shared (by decide) (by decide)).bind fun _ => ?_
  refine Triple.bind (heartbeatTask_spec.conseq (fun _ => id) (fun _ _ => id) fun _ _ => And.left) ?_
  exact fun n => (asks n).bind fun _ => (joins n).bind fun _ => (unsubscribes n).bind fun _ =>
    terminates n

theorem keeps_shared {x : Task Unit} (isTask : anyTask i x) : Keeps (discipline none) i x := by
  have keeps : ∀ {x : Task Unit},
      Triple (discipline none) i (Inv none) x (fun _ => Inv none) (fun _ => Inv none) →
        Keeps (discipline none) i x :=
    fun runs s inv _ => wp_mono (runs s inv) (fun _ _ inv => ⟨inv, nofun⟩) fun _ _ inv => ⟨inv, nofun⟩
  rcases isTask with rfl | rfl | ⟨n, rounds, rfl⟩
  · exact keeps start_shared
  · exact keeps stop_shared
  · exact keeps_runHeartbeat (show none ≠ some i from nofun) n rounds

theorem fresh_shared (className agentId : String) (dependencies : Dict String Dependency) :
    Inv none (.init className agentId dependencies) :=
  ⟨rfl, rfl, fun _ => ⟨fun _ _ present => (nomatch present), fun isOver =>
    ((by decide : "INIT" ≠ "TERMINATED") isOver).elim⟩, fun isSole => (isSole rfl).elim⟩

/-- Whatever starts and stops there are, the agent is terminated only after a heartbeat has been
asked to stop while it was live, and has ended: a heartbeat that fails before keeps it from that. -/
theorem terminated_stopped {className agentId : String} {dependencies : Dict String Dependency}
    {c : Config AgentBase Answer Interrupt Unit}
    (reached : Reachable served anyTask (.init className agentId dependencies) c)
    (terminated : c.shared.state = "TERMINATED") :
    ∃ (n : Nat) (h : Heartbeat), c.shared.heartbeats[n]? = some h ∧ h.cancellation ≠ .unasked ∧
      ¬ h.status.Live :=
  have kept := reachable_kept (fun _ _ => keeps_shared) (fresh_shared className agentId dependencies)
    (fun _ => nofun) reached
  (kept.inv.free rfl).terminated terminated

def scout : AgentBase := .init "Scout" "scout-1" .empty

def quietly (_ : Nat) (_ : Call) : Except Interrupt Unit := .ok ()

theorem scout_terminated : ∃ c, Reachable served anyTask scout c ∧ c.shared.state = "TERMINATED" ∧
    ∃ (n : Nat) (h : Heartbeat), c.shared.heartbeats[n]? = some h ∧ h.cancellation ≠ .unasked ∧
      ¬ h.status.Live := by
  have started := Reachable.spawn (.refl : Reachable served anyTask scout (.init scout)) 0 quietly rfl
    (.inl rfl)
  have scheduled := started.spawn 1 quietly rfl (.inr (.inr ⟨0, 2, rfl⟩))
  have beats := scheduled.resume 1 (.scheduled 0) (.ok ()) quietly rfl ⟨.fresh, rfl, rfl, rfl⟩
  have stops := beats.spawn 2 quietly rfl (.inr (.inl rfl))
  have ended := stops.resume 1 (.publish 0 "agent.heartbeat" "scout-1") (.error .cancelled) quietly
    rfl fun _ => ⟨⟨.running 1, .pending⟩, rfl, nofun⟩
  have joined := ended.resume 2 (.finished 0) (.ok ()) quietly rfl
    ⟨.inl rfl, ⟨.returned, .delivered⟩, rfl, id⟩
  have left := joined.resume 2 .unsubscribeAll (.ok ()) quietly rfl trivial
  exact ⟨_, left, rfl, terminated_stopped left rfl⟩

/-- A heartbeat that goes on after it has been replaced. -/
def Orphan (n : Nat) (s : AgentBase) : Prop :=
  (∃ h : Heartbeat, s.heartbeats[n]? = some h ∧ ¬ h.Asked ∧
    (h.status.Live ∨ ∃ e, h.status = .failed e)) ∧ ∃ m, s.heartbeatTask = some m ∧ n < m

theorem Orphan.stable {n : Nat} {t : AgentBase} (moved : Moves none i s t) (orphan : Orphan n s) :
    Orphan n t := by
  obtain ⟨⟨h, present, unasked, beats⟩, m, isTask, before⟩ := orphan
  obtain ⟨h', present', becomes⟩ := moved.each n h present
  obtain ⟨m', isTask', later⟩ := moved.newer m isTask
  have unasked' : ¬ h'.Asked := fun asked => unasked (becomes.left ⟨m, isTask, before⟩ asked)
  refine ⟨⟨h', present', unasked', ?_⟩, m', isTask', before.trans_le later⟩
  rcases beats with live | ⟨e, failed⟩
  · exact becomes.beating unasked' live
  · exact .inr ⟨e, (becomes.done (failed ▸ id)).trans failed⟩

/-- A heartbeat that a `start` has replaced, live and not asked to stop, is never asked to:
whatever starts and stops follow, it goes on until it fails. -/
theorem orphan_beats_on {className agentId : String} {dependencies : Dict String Dependency}
    {c d : Config AgentBase Answer Interrupt Unit} {n : Nat} {h : Heartbeat}
    (reached : Reachable served anyTask (.init className agentId dependencies) c)
    (present : c.shared.heartbeats[n]? = some h) (live : h.status.Live)
    (unasked : h.cancellation = .unasked) (replaced : c.shared.heartbeatTask ≠ some n)
    (later : Relation.ReflTransGen (Step served anyTask) c d) :
    ∃ h', d.shared.heartbeats[n]? = some h' ∧ h'.cancellation = .unasked ∧
      (h'.status.Live ∨ ∃ e, h'.status = .failed e) := by
  have keeps : ∀ i x, anyTask i x → Keeps (discipline none) i x := fun _ _ => keeps_shared
  have kept := reachable_kept keeps (fresh_shared className agentId dependencies) (fun _ => nofun)
    reached
  have before : ∃ m, c.shared.heartbeatTask = some m ∧ n < m := by
    have within := (List.getElem?_eq_some_iff.mp present).1
    have latest := kept.inv.latest
    cases isTask : c.shared.heartbeatTask with
    | none => simp_all
    | some m =>
      have other : n ≠ m := fun same => replaced (same ▸ isTask)
      rw [isTask, Option.elim_some] at latest
      exact ⟨m, rfl, by omega⟩
  have orphan : Orphan n c.shared :=
    ⟨⟨h, present, not_not_intro unasked, .inl live⟩, before⟩
  obtain ⟨⟨h', present', unasked', beats⟩, -⟩ :=
    kept_stays keeps (fun _ _ _ => Orphan.stable) kept orphan later
  exact ⟨h', present', not_not.mp unasked', beats⟩

theorem twice_started : ∃ c d, Reachable served anyTask scout c ∧
    Relation.ReflTransGen (Step served anyTask) c d ∧ d.shared.state = "STOPPING" ∧
    ∃ h, d.shared.heartbeats[0]? = some h ∧ h.cancellation = .unasked ∧
      (h.status.Live ∨ ∃ e, h.status = .failed e) := by
  have first := Reachable.spawn (.refl : Reachable served anyTask scout (.init scout)) 0 quietly rfl
    (.inl rfl)
  have second := first.spawn 1 quietly rfl (.inl rfl)
  refine ⟨_, _, second, .single (.spawn (i := 2) quietly rfl (.inr (.inl rfl))), rfl, ?_⟩
  exact orphan_beats_on second rfl trivial rfl (by decide)
    (.single (.spawn (i := 2) quietly rfl (.inr (.inl rfl))))

end Shared

section Alone

def soleUser (user : Nat) (task : Nat) (x : Task Unit) : Prop :=
  (task = user ∧ ∃ times, x = uses times) ∨
    task ≠ user ∧ ∃ n rounds, x = runHeartbeat task n rounds

variable {i : Nat} {s t : AgentBase}

theorem acts_alone (j : Nat) (other : j ≠ i) : some i ≠ some j := fun same =>
  other (Option.some.inj same).symm

structure Between (user : Nat) (s : AgentBase) : Prop extends Inv (some user) s, Quiet s

theorem Between.stable (between : Between i s) (moved : Moves (some i) i s t)
    (inv : Inv (some i) t) : Between i t :=
  ⟨inv, between.toQuiet.stable moved⟩

theorem Between.transition (between : Between i s) {newState : String} (other : newState ≠ "RUNNING") :
    Between i { s with state := newState } where
  unlocked := between.unlocked
  latest := between.latest
  free := nofun
  sole _ := ⟨fun n h present live => (between.still n h present live).elim, fun isRunning =>
    (other isRunning).elim⟩
  still := between.still
  state := other

theorem transition_between {newState : String} (known : newState ∈ states)
    (other : newState ≠ "RUNNING") :
    Triple (discipline (some i)) i (Between i) (transition newState) (fun _ => Between i)
      fun _ => Between i :=
  fun _ between => wp_transition acts_alone known between.unlocked (between.transition other)

structure Within (user : Nat) (s : AgentBase) : Prop extends Inv (some user) s where
  running : s.state = "RUNNING"

theorem Between.started (between : Between i s) :
    Within i { s.createTask with state := "RUNNING" } where
  unlocked := between.unlocked
  latest := by simp [AgentBase.createTask]
  free := nofun
  sole _ := by
    refine ⟨fun n h present live => ?_, fun _ => ⟨s.heartbeats.length, .fresh, rfl, ?_, ?_, ?_⟩⟩
    · have present : (s.heartbeats ++ [.fresh])[n]? = some h := present
      rcases Nat.lt_or_ge n s.heartbeats.length with within | beyond
      · rw [List.getElem?_append_left within] at present
        exact (between.still n h present live).elim
      · have last : n = s.heartbeats.length := by
          have := (List.getElem?_eq_some_iff.mp present).1
          rw [List.length_append, List.length_singleton] at this
          omega
        exact ⟨last ▸ rfl, .inl rfl⟩
    · simp [AgentBase.createTask]
    · exact not_not_intro rfl
    · exact .inl trivial
  running := rfl

theorem start_alone :
    Triple (discipline (some i)) i (Between i) start (fun _ => Within i) fun _ => Between i := by
  refine (transition_between (by decide) (by decide)).bind fun _ =>
    (Triple.get fun _ between => between).bind fun a => ?_
  refine (startDependencies_spec (fun _ between => between.toInv)
    (fun _ _ between moved => between.stable moved) _).bind fun _ s between => ?_
  exact wp_modify_bind (moves_createTask acts_alone between.latest)
    (wp_transition acts_alone (by decide) between.unlocked between.started)

structure Stopping (user n : Nat) (s : AgentBase) : Prop extends Inv (some user) s where
  stopping : s.state = "STOPPING"
  task : s.heartbeatTask = some n

theorem Stopping.stable {n : Nat} (stopping : Stopping i n s) (moved : Moves (some i) i s t)
    (inv : Inv (some i) t) : Stopping i n t := by
  obtain ⟨state, task, -⟩ := moved.alone rfl
  exact ⟨inv, state.trans stopping.stopping, task.trans stopping.task⟩

theorem Stopping.between {n : Nat} (stopping : Stopping i n s)
    (ended : ∀ h : Heartbeat, s.heartbeats[n]? = some h → ¬ h.status.Live) : Between i s := by
  refine ⟨stopping.toInv, fun k h present live => ?_, stopping.stopping ▸ by decide⟩
  obtain ⟨isTask, -⟩ := (stopping.sole nofun).live k h present live
  cases stopping.task.symm.trans isTask
  exact ended h present live

theorem Within.asked (within : Within i s) {n : Nat} (isTask : s.heartbeatTask = some n) :
    Stopping i n ({ s with state := "STOPPING" }.change n .cancel) where
  unlocked := within.unlocked
  latest := by simpa [AgentBase.change] using within.latest
  free := nofun
  sole _ := by
    refine ⟨fun k h present live => ?_, fun isRunning =>
      ((by decide : "STOPPING" ≠ "RUNNING") isRunning).elim⟩
    by_cases same : k = n
    · subst same
      obtain ⟨h, -, rfl⟩ : ∃ h', s.heartbeats[k]? = some h' ∧ h'.cancel = h := by
        simpa [AgentBase.change] using present
      rw [Heartbeat.status_cancel] at live
      exact ⟨isTask, .inr ⟨Heartbeat.asked_cancel live, rfl⟩⟩
    · have present : s.heartbeats[k]? = some h := by
        simpa [AgentBase.change, Ne.symm same] using present
      exact absurd ((within.sole nofun).live k h present live).1 (isTask ▸ fun same' =>
        same (Option.some.inj same').symm)
  stopping := rfl
  task := isTask

theorem join_alone (n : Nat) :
    Triple (discipline (some i)) i (Stopping i n) (join n) (fun _ => Between i)
      fun _ => Between i := by
  have last : Triple (discipline (some i)) i (Between i)
      (do outcome ((← get).heartbeats[n]?.elim (.ok ()) fun h => h.status.outcome) : Task Unit)
      (fun _ => Between i) fun _ => Between i :=
    (Triple.get fun _ between => between).bind fun a => outcome_spec _
  have waits : Triple (discipline (some i)) i (Stopping i n) (await (.finished n))
      (fun _ => Between i) fun _ => Between i := by
    refine (await_spec (fun _ stopping => stopping.toInv) fun _ _ stopping moved =>
      stopping.stable moved).conseq (fun _ => id) ?_ ?_
    all_goals
      rintro _ t ⟨stopping, result, -, h, present, ended⟩
      exact stopping.between fun h' present' => by cases present.symm.trans present'; exact ended
  intro s stopping
  refine (wp_bind _ _ s).mpr ((wp_get s).mpr ?_)
  split
  case isTrue => exact waits.bind (fun _ => last) s stopping
  case isFalse none =>
    exact last s (stopping.between fun h present live => none ⟨h, present, live⟩)

/-- Stopping and asking the heartbeat are one step, and the heartbeat is then waited for. -/
theorem stop_alone :
    Triple (discipline (some i)) i (Within i) stop (fun _ => Between i) fun _ => Between i := by
  intro s within
  obtain ⟨m, h, isTask, -⟩ := (within.sole nofun).running within.running
  refine (wp_bind _ _ s).mpr (wp_transition acts_alone (by decide) within.unlocked ?_)
  have known : Triple (discipline (some i)) i (· = { s with state := "STOPPING" }) heartbeatTask
      (fun n t => t = { s with state := "STOPPING" } ∧ t.heartbeatTask = some n)
      fun _ => Between i := by
    refine heartbeatTask_spec.conseq (fun _ => id) (fun _ _ => id) ?_
    rintro _ t ⟨rfl, unset⟩
    exact nomatch isTask.symm.trans unset
  refine known.bind (fun n t found => ?_) _ rfl
  obtain ⟨rfl, isLatest⟩ := found
  refine wp_modify_bind (fun j _ => moves_cancel isLatest j) ?_
  have joins : Triple (discipline (some i)) i (Stopping i n) (exceptCancelled (join n) (return ()))
      (fun _ => Between i) fun _ => Between i :=
    Triple.tryCatch (join_alone n) fun _ => Triple.ite (fun _ _ between => between)
      fun _ _ between => between
  have unsubscribes : Triple (discipline (some i)) i (Between i) (await .unsubscribeAll)
      (fun _ => Between i) fun _ => Between i :=
    (await_spec (fun _ between => between.toInv) fun _ _ between moved =>
      between.stable moved).conseq (fun _ => id) (fun _ _ => And.left) fun _ _ => And.left
  refine joins.bind (fun _ => unsubscribes.bind fun _ => ?_) _ (within.asked isLatest)
  exact transition_between (by decide) (by decide)

theorem use_alone :
    Triple (discipline (some i)) i (Between i) use (fun _ => Between i) fun _ => Between i := by
  have inside : Triple (discipline (some i)) i (Within i) (await .body) (fun _ => Within i)
      fun _ => Within i := by
    refine (await_spec (fun _ within => within.toInv) fun s t within moved inv => ?_).conseq
      (fun _ => id) (fun _ _ => And.left) fun _ _ => And.left
    exact ⟨inv, (moved.alone rfl).1.trans within.running⟩
  have exits : Triple (discipline (some i)) i (Within i) (do stop; return false)
      (fun swallowed t => swallowed = false ∧ Between i t) fun _ => Between i :=
    stop_alone.bind fun _ _ between => ⟨rfl, between⟩
  exact triple_context start_alone inside exits exits

theorem uses_alone (times : Nat) :
    Triple (discipline (some i)) i (Between i) (uses times) (fun _ => Between i)
      fun _ => Between i := by
  induction times with
  | zero => exact fun _ between => between
  | succ times ih => exact (Triple.attempt use_alone).bind fun _ => ih

theorem keeps_alone {user : Nat} {x : Task Unit} (isTask : soleUser user i x) :
    Keeps (discipline (some user)) i x := by
  rcases isTask with ⟨rfl, times, rfl⟩ | ⟨other, n, rounds, rfl⟩
  · intro s inv idle
    exact wp_mono (uses_alone times s ⟨inv, idle rfl⟩) (fun _ _ between =>
      ⟨between.toInv, fun _ => between.toQuiet⟩) fun _ _ between =>
      ⟨between.toInv, fun _ => between.toQuiet⟩
  · exact keeps_runHeartbeat (fun same => other (Option.some.inj same).symm) n rounds

/-- Of an agent that one task uses by `async with`, as often as it likes, at most one heartbeat
is live: the latest, while the agent runs, or stops and has asked it to end. -/
theorem sole_heartbeat {className agentId : String} {dependencies : Dict String Dependency}
    {user : Nat} {c : Config AgentBase Answer Interrupt Unit}
    (reached : Reachable served (soleUser user) (.init className agentId dependencies) c) :
    (∀ n h, c.shared.heartbeats[n]? = some h → h.status.Live →
      c.shared.heartbeatTask = some n ∧ (c.shared.state = "RUNNING" ∧ h.cancellation = .unasked ∨
        c.shared.state = "STOPPING" ∧ h.cancellation ≠ .unasked)) ∧
    (c.shared.state = "RUNNING" → ∃ n h, c.shared.heartbeatTask = some n ∧
      c.shared.heartbeats[n]? = some h ∧ h.cancellation = .unasked ∧
      (h.status.Live ∨ ∃ e, h.status = .failed e)) := by
  have fresh : Inv (some user) (.init className agentId dependencies) :=
    ⟨rfl, rfl, nofun, fun _ => ⟨fun n h present => (nomatch present), fun isRunning =>
      ((by decide : "INIT" ≠ "RUNNING") isRunning).elim⟩⟩
  have quiet : Quiet (.init className agentId dependencies) :=
    ⟨fun n h present => (nomatch present), (by decide : "INIT" ≠ "RUNNING")⟩
  have sole := (reachable_kept (fun _ _ => keeps_alone) fresh (fun _ _ => quiet)
    reached).inv.sole nofun
  refine ⟨fun n h present live => ?_, fun isRunning => ?_⟩
  · obtain ⟨isTask, isRunning | ⟨asked, stopping⟩⟩ := sole.live n h present live
    · obtain ⟨m, h', isTask', present', unasked, -⟩ := sole.running isRunning
      cases isTask.symm.trans isTask'
      cases present.symm.trans present'
      exact ⟨isTask, .inl ⟨isRunning, not_not.mp unasked⟩⟩
    · exact ⟨isTask, .inr ⟨stopping, asked⟩⟩
  · obtain ⟨n, h, isTask, present, unasked, beats⟩ := sole.running isRunning
    exact ⟨n, h, isTask, present, not_not.mp unasked, beats⟩

theorem scout_used : ∃ c, Reachable served (soleUser 0) scout c ∧ c.shared.state = "RUNNING" ∧
    (c.shared.state = "RUNNING" → ∃ n h, c.shared.heartbeatTask = some n ∧
      c.shared.heartbeats[n]? = some h ∧ h.cancellation = .unasked ∧
      (h.status.Live ∨ ∃ e, h.status = .failed e)) := by
  have within := Reachable.spawn (.refl : Reachable served (soleUser 0) scout (.init scout)) 0 quietly
    rfl (.inl ⟨rfl, 1, rfl⟩)
  exact ⟨_, within, rfl, (sole_heartbeat within).2⟩

end Alone

end KuvaAI.Heartbeats
