import KuvaAI.Cli.FullStackSteps

/-! Calls of `deploy_full_stack` among each other: who has the lock and the permits, and what
has been done when the checks of a call begin. -/
namespace KuvaAI.Deploy.FullStack
open Python Coroutine

variable {g h : Engine} {task parent child : Nat} {logging : Logging}

section Tasks

variable {permit lock : Prop}

theorem runs_validateDependencies {work : Work} {done : List (List String)} (target : StackTarget) :
    Triple orderly task (Runs task parent child work done none permit lock)
      (validateDependencies target) (fun _ => Runs task parent child work done none permit lock)
      (fun _ => Runs task parent child work done none permit lock) := by
  refine Triple.ite (fun _ => ?_) fun _ => Runs.closed.pure _
  exact Runs.closed.awaited fun validated => Runs.closed.ofExcept validated

theorem ran_of_runs {work : Work} {done : List (List String)} {α : Type} {x : Task α}
    {post : α → Engine → Prop}
    (runs : Triple orderly task (Runs task parent child work done none permit lock) x post
      (fun _ => Runs task parent child work done none permit lock)) :
    Triple orderly task (Runs task parent child work done none permit lock) x post
      (fun _ => Ran task parent child work permit lock) :=
  runs.conseq (fun _ runs => runs) (fun _ _ runs => runs) fun _ _ runs => ⟨done, runs⟩

theorem runs_attempt (component : ComponentConfig) (target : StackTarget) :
    Triple orderly task (Runs task parent child (.component component target) [] none True True)
      (attemptComponent logging parent child component target)
      (fun _ => Runs task parent child (.component component target)
        (commands (.component component target)) none True True)
      (fun _ => Ran task parent child (.component component target) True True) := by
  have held : (Work.component component target).IsComponent → True := fun _ => trivial
  refine Triple.bind (ran_of_runs (runs_validateDependencies target)) fun _ => ?_
  refine Triple.bind (runs_each held words (fun _ => 300) _ _) fun _ => ?_
  intro g runs
  refine (wp_bind _ _ _).mpr (wp_outcome (fun helmCmd made => ?_) fun _ _ => ⟨_, runs⟩)
  have rest : Triple orderly task
      (Runs task parent child (.component component target) ([] ++ component.preHooks.map words) none
        True True)
      (do
        execute logging parent child helmCmd component.timeout "Helm deployment failed"
        executeAll logging parent child waitCommand "Condition not met: " component.waitConditions
        executeAll logging parent child words "Post-hook failed: " component.postHooks
        modify fun g => g.emit "deploy.component.success" (componentTags component target))
      (fun _ => Runs task parent child (.component component target)
        (commands (.component component target)) none True True)
      (fun _ => Ran task parent child (.component component target) True True) := by
    refine Triple.bind (ran_of_runs (runs_execute held _ _ _)) fun _ => ?_
    refine Triple.bind (runs_each held waitCommand (fun _ => 300) _ _) fun _ => ?_
    refine Triple.bind (runs_each held words (fun _ => 300) _ _) fun _ => ?_
    have all : [] ++ component.preHooks.map words ++ [helmCmd] ++
        component.waitConditions.map waitCommand ++ component.postHooks.map words =
        commands (.component component target) := by
      simp [commands, made, Except.toOption]
    rw [all]
    exact ran_of_runs (runs_emit _ _)
  exact rest g runs

theorem ran_rollback (component : ComponentConfig) (target : StackTarget) :
    Triple orderly task (Ran task parent child (.component component target) True True)
      (rollbackComponent logging parent child component)
      (fun _ => Ran task parent child (.component component target) True True)
      (fun _ => Ran task parent child (.component component target) True True) := by
  rintro g ⟨done, runs⟩
  refine (wp_bind _ _ _).mpr (wp_mono (runs_executeCommand (fun _ => trivial) _ _ g runs) ?_ ?_)
  · exact fun success _ runs => ⟨_, runs⟩
  · exact fun _ _ runs => ⟨_, runs⟩

/-- The rollback is part of what the lock is held for. -/
theorem runs_deployComponent (component : ComponentConfig) (target : StackTarget) :
    Triple orderly task (Runs task parent child (.component component target) [] none True False)
      (deployComponent logging task parent child component target)
      (fun _ => Runs task parent child (.component component target)
        (commands (.component component target)) none True False)
      (fun _ => Ran task parent child (.component component target) True False) := by
  refine triple_context (ran_of_runs runs_acquireLock) (triple_exceptException
    (runs_attempt component target) (fun e => ?_) fun _ ran => ran) runs_releaseLock ?_
  · have emitted : Triple orderly task (Ran task parent child (.component component target) True True)
        (modify fun g => g.emit "deploy.component.failure" (componentTags component target) : Task PUnit)
        (fun _ => Ran task parent child (.component component target) True True)
        (fun _ => Ran task parent child (.component component target) True True) := by
      rintro g ⟨done, runs⟩
      exact wp_mono (runs_emit _ _ g runs) (fun _ _ runs => ⟨_, runs⟩) fun _ _ runs => ⟨_, runs⟩
    exact Triple.bind emitted fun _ => Triple.bind (ran_rollback component target) fun _ _ ran => ran
  · rintro g ⟨done, runs⟩
    refine wp_mono (runs_releaseLock (Q := fun _ => False) g runs) ?_ fun _ _ never => never.elim
    exact fun _ _ released => ⟨released.1, _, released.2⟩

theorem runs_limitedDeploy (component : ComponentConfig) (target : StackTarget) :
    Triple orderly task (Runs task parent child (.component component target) [] none False False)
      (limitedDeploy logging task parent child component target)
      (fun _ => Runs task parent child (.component component target)
        (commands (.component component target)) none False False)
      (fun _ => Ran task parent child (.component component target) False False) := by
  refine triple_context (ran_of_runs runs_acquirePermit) (runs_deployComponent component target)
    runs_releasePermit ?_
  rintro g ⟨done, runs⟩
  refine wp_mono (runs_releasePermit (Q := fun _ => False) g runs) ?_ fun _ _ never => never.elim
  exact fun _ _ released => ⟨released.1, _, released.2⟩

theorem runs_perform (work : Work) :
    Triple orderly task (Runs task parent child work [] none False False)
      (perform logging task parent child work)
      (fun _ => Runs task parent child work (commands work) none False False)
      (fun _ => Ran task parent child work False False) := by
  cases work with
  | infrastructure tfvars =>
    have each : Triple orderly task (Runs task parent child (.infrastructure tfvars) [] none False False)
        (deployInfrastructure logging parent child tfvars)
        (fun _ => Runs task parent child (.infrastructure tfvars)
          ([] ++ (terraformCommands tfvars).map id) none False False)
        (fun _ => Ran task parent child (.infrastructure tfvars) False False) :=
      runs_each nofun id (fun _ => 600) (fun _ => "Infrastructure deployment failed") _
    rw [List.map_id, List.nil_append] at each
    exact each
  | cloudIam cloud =>
    exact ran_of_runs (Runs.closed.awaited fun verified => Runs.closed.ofExcept verified)
  | component component target => exact runs_limitedDeploy component target

structure Idle (task : Nat) (g : Engine) : Prop where
  sound : Sound g
  free : Free task g
  settled : (g.groups task).Settled

theorem Idle.later (idle : Idle task g) (leaves : Leaves task g h) (sound : Sound h) : Idle task h :=
  ⟨sound, idle.free.later leaves, leaves.keeps_settled idle.settled⟩

theorem edits_settle {c : Child} (was : g.child? parent child = some c)
    (result : Except Interrupt Unit) : Edits parent child c { c with status := .ofResult result } g
      (g.change parent fun group => group.settle child result) := by
  apply edits_modify (f := fun c => { c with status := .ofResult result }) was
  all_goals rcases result with (e | _) | _ <;> rfl

theorem settle_errors (group : Group) (result : Except Interrupt Unit) :
    (group.settle child result).errors = group.errors ++
      (match result with | .error (.raised e) => [e] | _ => []) := by
  rcases result with (e | _) | _ <;> simp [Group.settle]

theorem Sound.settle (sound : Sound g) {c : Child} (was : g.child? parent child = some c)
    (active : ¬ c.status.Settled) (result : Except Interrupt Unit)
    (done : result = .ok () → c.done = commands c.work) (process : c.process = none)
    (permit : ∀ t, c.status = .running t → t ∉ (g.groups parent).semaphore.holders) :
    Sound (g.change parent fun group => group.settle child result) := by
  refine sound.edit (edits_settle was result) active ?_ ?_ ?_ ?_ ?_ ?_ ?_
  · rcases result with (e | _) | _
    · exact nofun
    · exact nofun
    · exact fun _ => done rfl
  · rw [groups_change, if_pos rfl, settle_errors]
    exact fun some => List.append_ne_nil_of_left_ne_nil some _
  · intro e failed
    rw [groups_change, if_pos rfl, settle_errors]
    rcases result with (e' | _) | _
    · exact List.append_ne_nil_of_right_ne_nil _ (List.cons_ne_nil _ _)
    · cases failed
    · cases failed
  · rcases result with (e | _) | _ <;> exact nofun
  · rcases result with (e | _) | _ <;> exact nofun
  · intro cmd waits
    cases process.symm.trans waits
  · exact fun t held running => absurd held (permit t running)

theorem leaves_settle {c : Child} {other : Nat} (was : g.child? parent child = some c)
    (active : ¬ c.status.Settled) (before : c.status ≠ .running other)
    (result : Except Interrupt Unit) :
    Leaves other g (g.change parent fun group => group.settle child result) := by
  refine (edits_settle was result).leaves active before ?_
  rcases result with (e | _) | _ <;> exact nofun

theorem idle_settle {work : Work} {done : List (List String)} {result : Except Interrupt Unit}
    {exn : Interrupt → Engine → Prop} (runs : Runs task parent child work done none False False g)
    (complete : result = .ok () → done = commands work) :
    wp orderly task (fun _ => Idle task) exn
      (modify fun g => g.change parent fun group => group.settle child result : Task PUnit) g := by
  have edits := edits_settle runs.present result
  refine ⟨fun other different => leaves_settle runs.present id ?_ result, ?_, ?_, ?_⟩
  · rintro ⟨⟩
    exact different rfl
  · refine runs.sound.settle runs.present id result complete rfl ?_
    rintro _ ⟨⟩
    exact fun held => ((runs.permit parent).mp held).1
  · constructor
    · exact fun held => runs.lock.mp (edits.lock ▸ held)
    · intro p held
      rw [edits.semaphore] at held
      exact ((runs.permit p).mp held).1
    · intro p k c present running
      rw [edits.now] at present
      split at present
      · cases present
        rcases result with (e | _) | _ <;> cases running
      · rename_i elsewhere
        exact elsewhere (runs.alone p k c present running)
  · rw [edits.groups task runs.apart]
    exact runs.own

theorem Sound.created (sound : Sound g) {c : Child} (present : g.child? parent child = some c)
    (created : c.status = .created) : c = ⟨c.work, .created, [], none⟩ := by
  have process : c.process = none := by
    cases waits : c.process with
    | none => rfl
    | some cmd =>
      obtain ⟨_, running, _⟩ := sound.process parent child c cmd present waits
      cases created.symm.trans running
  rw [← created, ← sound.fresh parent child c present created, ← process]

theorem wp_start {post : PUnit → Engine → Prop} {exn : Interrupt → Engine → Prop} {c : Child}
    (idle : Idle task g) (present : g.child? parent child = some c) (created : c.status = .created)
    (started : ∀ h, Runs task parent child c.work [] none False False h → post ⟨⟩ h) :
    wp orderly task post exn (modify fun g =>
      g.changeChild parent child fun c => { c with status := .running task } : Task PUnit) g := by
  have active : ¬ c.status.Settled := by
    rw [created]
    exact id
  have edits : Edits parent child c { c with status := .running task } g
      (g.changeChild parent child fun c => { c with status := .running task }) :=
    edits_modify (f := fun c => { c with status := .running task }) present rfl rfl rfl rfl
  have isCreated := idle.sound.created present created
  refine ⟨fun other different => edits.leaves active ?_ ?_, started _ ?_⟩
  · rw [created]
    exact nofun
  · rintro ⟨⟩
    exact different rfl
  · constructor
    · refine idle.sound.edit edits active nofun ?_ nofun nofun ?_ ?_ fun _ _ running => ?_
      · simp [Engine.changeChild]
      · rintro _ ⟨⟩ p k d present running
        exact absurd running (idle.free.child p k d present)
      · intro cmd waits
        rw [isCreated] at waits
        cases waits
      · cases created.symm.trans running
    · rw [edits.now, if_pos ⟨rfl, rfl⟩, isCreated]
    · intro p k d running isRunning
      rw [edits.now] at running
      split at running
      · assumption
      · exact absurd isRunning (idle.free.child p k d running)
    · exact iff_of_false (edits.lock ▸ idle.free.lock) id
    · intro p
      rw [edits.semaphore]
      exact iff_of_false (idle.free.semaphore p) fun both => both.1
    · have apart : task ≠ parent := by
        rintro rfl
        exact not_settled present active idle.settled
      rw [edits.groups task apart]
      exact idle.settled

theorem keeps_runChild : Triple orderly task (Idle task) (runChild logging task parent child)
    (fun _ => Idle task) (fun _ => Idle task) := by
  intro g idle
  refine And.intro idle.sound fun (wake : Wake) h leaves sound answered => ?_
  have later := idle.later leaves sound
  obtain ⟨c, present, created⟩ := answered
  cases wake with
  | cancelled =>
    have active : ¬ c.status.Settled := by
      rw [created]
      exact id
    have never (t : Nat) : c.status ≠ .running t := by
      rw [created]
      exact nofun
    have isCreated := sound.created present created
    refine ⟨fun other _ => leaves_settle present active (never other) (.error .cancelled), ?_⟩
    refine later.later (leaves_settle present active (never task) (.error .cancelled)) ?_
    refine sound.settle present active (.error .cancelled) nofun ?_ fun t running => ?_
    · rw [isCreated]
    · exact absurd running (never t)
  | woken =>
    change wp orderly task _ _ (((h.groups parent).children[child]?).elim (pure ())
      (startChild logging task parent child)) h
    rw [present]
    refine (wp_bind _ _ _).mpr (wp_start later present created fun u runs => ?_)
    refine (wp_bind _ _ _).mpr ((wp_attempt _ _).mpr (wp_mono (runs_perform c.work u runs) ?_ ?_))
    · exact fun _ _ ended => idle_settle ended fun _ => rfl
    · rintro e _ ⟨done, ended⟩
      exact idle_settle ended nofun

end Tasks

section Calls

variable {f : Group → Group}

structure Marks (f : Group → Group) (group : Group) : Prop where
  children : (f group).children = group.children
  errors : (f group).errors = group.errors
  semaphore : (f group).semaphore = group.semaphore
  limit : (f group).limit = group.limit

theorem child?_change (marks : Marks f (g.groups parent)) (p k : Nat) :
    (g.change parent f).child? p k = g.child? p k := by
  rw [Engine.child?, groups_change]
  split
  · rename_i same
    rw [marks.children, ← same]
    rfl
  · rfl

theorem Sound.mark (sound : Sound g) (marks : Marks f (g.groups parent))
    (gate : (f (g.groups parent)).phase ≠ .deploying →
      (g.groups parent).Settled ∧ (g.groups parent).errors = []) : Sound (g.change parent f) where
  lock := sound.lock
  semaphore p := by
    rw [groups_change]
    split
    · rw [marks.semaphore, marks.limit]
      exact sound.semaphore parent
    · exact sound.semaphore p
  done p k c present := sound.done p k c (child?_change marks p k ▸ present)
  failed p k c e present failed := by
    have before := sound.failed p k c e (child?_change marks p k ▸ present) failed
    rw [groups_change]
    split
    · rename_i same
      rw [marks.errors, ← same]
      exact before
    · exact before
  fresh p k c present := sound.fresh p k c (child?_change marks p k ▸ present)
  alone t p k c q l d first running second :=
    sound.alone t p k c q l d (child?_change marks p k ▸ first) running
      (child?_change marks q l ▸ second)
  process p k c cmd present := sound.process p k c cmd (child?_change marks p k ▸ present)
  permitted t held := by
    obtain ⟨p, permit⟩ := sound.permitted t held
    refine ⟨p, ?_⟩
    rw [groups_change]
    split
    · rename_i same
      rw [marks.semaphore, ← same]
      exact permit
    · exact permit
  holder p t held := by
    simp only [child?_change marks]
    rw [groups_change] at held
    split at held
    · rename_i same
      rw [marks.semaphore, ← same] at held
      exact sound.holder p t held
    · exact sound.holder p t held
  gate p begun := by
    rw [groups_change] at begun ⊢
    split at begun
    · rename_i same
      rw [if_pos same, marks.errors, Group.Settled, marks.children]
      exact gate begun
    · rename_i other
      rw [if_neg other]
      exact sound.gate p begun

theorem leaves_mark {other : Nat} (marks : Marks f (g.groups parent)) :
    Leaves other g (g.change parent f) where
  lock := Iff.rfl
  semaphore p := by
    rw [groups_change]
    split
    · rename_i same
      rw [marks.semaphore, same]
    · rfl
  child p k c _ := by rw [child?_change marks]
  settled _ := by
    rw [groups_change]
    split
    · rename_i same
      rw [marks.children, marks.errors, same]
      exact ⟨rfl, rfl⟩
    · exact ⟨rfl, rfl⟩

variable {components : List ComponentConfig} {target : StackTarget} {tfvars : String}

theorem child?_open (p k : Nat) (c : Child)
    (present : (g.change task fun _ => newGroup components target tfvars).child? p k = some c) :
    (p = task ∧ c = ⟨c.work, .created, [], none⟩) ∨ p ≠ task ∧ g.child? p k = some c := by
  rw [Engine.child?, groups_change] at present
  split at present
  · rename_i same
    have member := List.mem_of_getElem? present
    obtain ⟨work, _, rfl⟩ := List.mem_map.mp member
    exact .inl ⟨same, rfl⟩
  · exact .inr ⟨‹_›, present⟩

theorem Sound.empty (sound : Sound g) (settled : (g.groups parent).Settled) (t : Nat) :
    t ∉ (g.groups parent).semaphore.holders := by
  intro held
  obtain ⟨k, c, present, running⟩ := sound.holder parent t held
  have ended := (settled_iff parent).mp settled k c present
  rw [running] at ended
  exact ended

theorem Sound.opened (sound : Sound g) (settled : (g.groups task).Settled) :
    Sound (g.change task fun _ => newGroup components target tfvars) where
  lock := sound.lock
  semaphore p := by
    rw [groups_change]
    split
    · exact Permits.sound_full _
    · exact sound.semaphore p
  done p k c present succeeded := by
    rcases child?_open p k c present with ⟨_, new⟩ | ⟨_, old⟩
    · rw [new] at succeeded
      cases succeeded
    · exact sound.done p k c old succeeded
  failed p k c e present failed := by
    rcases child?_open p k c present with ⟨_, new⟩ | ⟨other, old⟩
    · rw [new] at failed
      cases failed
    · rw [groups_change, if_neg other]
      exact sound.failed p k c e old failed
  fresh p k c present created := by
    rcases child?_open p k c present with ⟨_, new⟩ | ⟨_, old⟩
    · rw [new]
    · exact sound.fresh p k c old created
  alone t p k c q l d first running second alsoRunning := by
    rcases child?_open p k c first with ⟨_, new⟩ | ⟨_, old⟩
    · rw [new] at running
      cases running
    · rcases child?_open q l d second with ⟨_, new⟩ | ⟨_, alsoOld⟩
      · rw [new] at alsoRunning
        cases alsoRunning
      · exact sound.alone t p k c q l d old running alsoOld alsoRunning
  process p k c cmd present waits := by
    rcases child?_open p k c present with ⟨_, new⟩ | ⟨_, old⟩
    · rw [new] at waits
      cases waits
    · exact sound.process p k c cmd old waits
  permitted t held := by
    obtain ⟨p, permit⟩ := sound.permitted t held
    refine ⟨p, ?_⟩
    rw [groups_change, if_neg]
    · exact permit
    · rintro rfl
      exact sound.empty settled t permit
  holder p t held := by
    rw [groups_change] at held
    split at held
    · cases held
    · rename_i other
      obtain ⟨k, c, present, running⟩ := sound.holder p t held
      refine ⟨k, c, ?_, running⟩
      rw [Engine.child?, groups_change, if_neg other]
      exact present
  gate p begun := by
    rw [groups_change] at begun ⊢
    split at begun
    · exact absurd rfl begun
    · rename_i other
      rw [if_neg other]
      exact sound.gate p begun

theorem leaves_open {other : Nat} (sound : Sound g) (settled : (g.groups task).Settled)
    (different : other ≠ task) :
    Leaves other g (g.change task fun _ => newGroup components target tfvars) where
  lock := Iff.rfl
  semaphore p := by
    rw [groups_change]
    split
    · rename_i same
      exact iff_of_false List.not_mem_nil (same ▸ sound.empty settled other)
    · rfl
  child p k c running := by
    by_cases same : p = task
    · subst same
      constructor
      · intro present
        rcases child?_open p k c present with ⟨_, new⟩ | ⟨other, _⟩
        · rw [new] at running
          cases running
        · exact absurd rfl other
      · intro present
        have ended := (settled_iff p).mp settled k c present
        rw [running] at ended
        exact ended.elim
    · rw [Engine.child?, groups_change, if_neg same]
      rfl
  settled _ := by
    rw [groups_change, if_neg different]
    exact ⟨rfl, rfl⟩

theorem free_open (free : Free task g) :
    Free task (g.change task fun _ => newGroup components target tfvars) where
  lock := free.lock
  semaphore p := by
    rw [groups_change]
    split
    · exact List.not_mem_nil
    · exact free.semaphore p
  child p k c present running := by
    rcases child?_open p k c present with ⟨_, new⟩ | ⟨_, old⟩
    · rw [new] at running
      cases running
    · exact free.child p k c old running

theorem Idle.closed : Closed fun {_} (x : Task _) => Triple orderly task (Idle task) x
    (fun _ => Idle task) fun _ => Idle task :=
  Triple.closed (fun _ idle => idle.sound) fun _ _ idle leaves sound => idle.later leaves sound

theorem wp_exitGroup {exn : Interrupt → Engine → Prop} (sound : Sound g) (free : Free task g) :
    wp orderly task (fun _ => Idle task) exn (exitGroup task) g := by
  refine And.intro sound fun (wake : Wake) h leaves sound answered => ?_
  have freeLater := free.later leaves
  cases wake with
  | woken => exact ⟨sound, freeLater, answered⟩
  | cancelled =>
    have marks : Marks (fun group => { group with aborting := true }) (h.groups task) :=
      ⟨rfl, rfl, rfl, rfl⟩
    refine ⟨fun other _ => leaves_mark marks, ?_⟩
    refine And.intro (sound.mark marks (sound.gate task)) fun (_ : Unit) u leaves sound answered => ?_
    exact ⟨sound, (freeLater.later (leaves_mark marks)).later leaves, answered⟩

theorem idle_emit (name : String) (tags : List (String × String)) :
    Triple orderly task (Idle task) (modify fun g => g.emit name tags : Task PUnit)
      (fun _ => Idle task) (fun _ => Idle task) :=
  fun _ idle => ⟨fun other _ => leaves_emit other, idle.later (leaves_emit task) (sound_emit idle.sound)⟩

structure Passed (task : Nat) (g : Engine) : Prop where
  idle : Idle task g
  errors : (g.groups task).errors = []

theorem Passed.later (passed : Passed task g) (leaves : Leaves task g h) (sound : Sound h) :
    Passed task h :=
  ⟨passed.idle.later leaves sound,
    (leaves.settled passed.idle.settled).2.trans passed.errors⟩

theorem Passed.closed : Closed fun {_} (x : Task _) => Triple orderly task (Passed task) x
    (fun _ => Passed task) fun _ => Passed task :=
  Triple.closed (fun _ passed => passed.idle.sound) fun _ _ passed leaves sound =>
    passed.later leaves sound

theorem Passed.mark (passed : Passed task g) (phase : Phase) :
    (∀ other, Leaves other g (g.change task fun group => { group with phase := phase })) ∧
      Passed task (g.change task fun group => { group with phase := phase }) := by
  have marks : Marks (fun group => { group with phase := phase }) (g.groups task) :=
    ⟨rfl, rfl, rfl, rfl⟩
  have sound := passed.idle.sound.mark marks fun _ => ⟨passed.idle.settled, passed.errors⟩
  exact ⟨fun other => leaves_mark marks, passed.later (leaves_mark marks) sound⟩

theorem passed_runChecks (checks : List (String × String)) :
    Triple orderly task (Passed task) (runChecks checks) (fun _ => Passed task)
      (fun _ => Passed task) := by
  induction checks with
  | nil => exact Passed.closed.pure _
  | cons check checks ih =>
    refine Passed.closed.awaited fun result =>
      Passed.closed.bind (Passed.closed.ofExcept result) fun _ => ?_
    exact Passed.closed.bind ih fun _ => Passed.closed.pure _

theorem passed_validateSecurity : Triple orderly task (Passed task) validateSecurity
    (fun _ => Passed task) (fun _ => Passed task) := by
  refine Passed.closed.bind (passed_runChecks _) fun checks => Passed.closed.forM fun check _ => ?_
  exact closed_raiseIf Passed.closed _ _

/-- The checks of a call begin when its group has ended without an exception. -/
theorem keeps_deployFullStack : Triple orderly task (Idle task)
    (deployFullStack task components target tfvars) (fun _ => Idle task) (fun _ => Idle task) := by
  intro g idle
  refine wp_modify_bind (fun other different => leaves_open idle.sound idle.settled different) ?_
  rw [wp_bind]
  refine wp_mono (wp_exitGroup (idle.sound.opened idle.settled) (free_open idle.free))
    (fun cancelled h idle => ?_) fun _ _ failed => failed
  rw [wp_bind, wp_get, wp_ite]
  split
  · exact Triple.bind (idle_emit _ _) (fun _ => Idle.closed.throw _) h idle
  · rename_i noErrors
    rw [wp_ite]
    split
    · exact idle
    · have passed : Passed task h := ⟨idle, Decidable.not_not.mp noErrors⟩
      have begun := passed.mark .validating
      refine wp_modify_bind (fun other _ => begun.1 other) ?_
      have rest : Triple orderly task (Passed task) (do
          validateSecurity
          let tested : Except Interrupt Unit ← wait (Call.runSmokeTests target.clusterId)
          outcome tested
          modify fun g => (g.emit "deploy.complete" (stackTags target)).change task fun group =>
            { group with phase := .complete })
          (fun _ => Idle task) (fun _ => Idle task) := by
        refine Triple.conseq ?_ (fun _ passed => passed)
          (fun _ _ (passed : Passed task _) => passed.idle) fun _ _ (passed : Passed task _) => passed.idle
        refine Passed.closed.bind passed_validateSecurity fun _ => Passed.closed.awaited fun tested =>
          Passed.closed.bind (Passed.closed.ofExcept tested) fun _ => ?_
        intro u passed
        have emitted : Passed task (u.emit "deploy.complete" (stackTags target)) :=
          passed.later (leaves_emit task) (sound_emit passed.idle.sound)
        have complete := emitted.mark .complete
        exact ⟨fun other _ => orderly.rely_trans other _ _ _ (leaves_emit other) (complete.1 other),
          complete.2⟩
      exact rest _ begun.2

end Calls

theorem sound_init : Sound .init where
  lock := Permits.sound_full 1
  semaphore _ := Permits.sound_full 0
  done _ _ _ present := nomatch present
  failed _ _ _ _ present := nomatch present
  fresh _ _ _ present := nomatch present
  alone _ _ _ _ _ _ _ present := nomatch present
  process _ _ _ _ present := nomatch present
  permitted _ held := nomatch held
  holder _ _ held := nomatch held
  gate _ begun := absurd rfl begun

theorem reaches_sound {c : Config Engine Answer Interrupt Unit} (reached : Reaches logging c) :
    Sound c.shared := by
  have runs : ∀ task x, IsTask logging task x →
      Triple orderly task (Idle task) x (fun _ => Idle task) fun _ => Idle task := by
    rintro task x (⟨components, target, tfvars, rfl⟩ | ⟨parent, child, rfl⟩)
    · exact keeps_deployFullStack
    · exact keeps_runChild
  refine reachable_inv (D := orderly) runs (fun _ _ sound idle => ⟨sound, idle.1, idle.2⟩)
    (fun _ _ idle => ⟨idle.sound, idle.free, idle.settled⟩) sound_init (fun task => ⟨?_, nofun⟩) reached
  exact ⟨nofun, fun _ => nofun, fun _ _ _ present => nomatch present⟩

/-- Of all the components of all calls, one at most waits for a command, its rollback
included, and each call has no more components under way than its target allows. -/
theorem components_exclusive (logging : Logging) (c : Config Engine Answer Interrupt Unit)
    (reached : Reaches logging c) :
    (∀ p k a cmd q l b cmd', c.shared.child? p k = some a → a.work.IsComponent →
      a.process = some cmd → c.shared.child? q l = some b → b.work.IsComponent →
      b.process = some cmd' → p = q ∧ k = l) ∧
    ∀ p, (c.shared.groups p).semaphore.free + (c.shared.groups p).semaphore.holders.length =
      (c.shared.groups p).limit := by
  have sound := reaches_sound reached
  refine ⟨?_, fun p => (sound.semaphore p).count⟩
  intro p k a cmd q l b cmd' first isComponent waits second alsoComponent alsoWaits
  obtain ⟨t, running, locked⟩ := sound.process p k a cmd first waits
  obtain ⟨u, alsoRunning, alsoLocked⟩ := sound.process q l b cmd' second alsoWaits
  obtain rfl := sound.lock.unique (locked isComponent) (alsoLocked alsoComponent)
  exact sound.alone t q l b p k a second alsoRunning first running

/-- When the checks of a call begin, each of its tasks has carried out all its commands or
was cancelled. -/
theorem checks_gated (logging : Logging) (c : Config Engine Answer Interrupt Unit)
    (reached : Reaches logging c) (p : Nat) (begun : (c.shared.groups p).phase ≠ .deploying) :
    ∀ child ∈ (c.shared.groups p).children, child.status = .cancelled ∨
      child.status = .succeeded ∧ child.done = commands child.work := by
  have sound := reaches_sound reached
  obtain ⟨settled, errors⟩ := sound.gate p begun
  intro child member
  obtain ⟨k, present⟩ := List.mem_iff_getElem?.mp member
  have ended := settled child member
  cases status : child.status with
  | created =>
    rw [status] at ended
    exact ended.elim
  | running task =>
    rw [status] at ended
    exact ended.elim
  | succeeded => exact .inr ⟨rfl, sound.done p k child present status⟩
  | failed e => exact absurd errors (sound.failed p k child e present status)
  | cancelled => exact .inl rfl

section Instance

def production : StackTarget where
  environment := "prod"
  clusterId := "kuva-prod-01"
  version := "1.3.0"
  rolloutStrategy := "canary"
  checkDependencies := false
  cloud := "aws"
  concurrency := 5
  validateIam := false
  concurrency_range := by decide

def orchestrator : ComponentConfig where
  name := "ai-orchestrator"
  chartPath := "charts/ai-core"
  valuesFiles := ["env/prod/ai-core-values.yaml"]
  waitConditions := ["condition=Available deployment/ai-orchestrator"]
  preHooks := []
  postHooks := []
  timeout := 600

def quiet : Logging := ⟨false, false⟩

def succeeding (_ : Nat) : (call : Call) → Answer call
  | .scheduled .. | .permit _ | .lock | .group _ => Wake.woken
  | .aborted _ => ()
  | .communicate .. => Waited.exited 0
  | .check _ => Except.ok true
  | .start _ | .validateDependencies _ | .verifyCloudIam _ | .runSmokeTests _ => Except.ok ()

theorem orchestrator_alone : ∃ c : Config Engine Answer Interrupt Unit, ∃ a cmd,
    c.shared.child? 0 1 = some a ∧ a.work.IsComponent ∧ a.process = some cmd ∧
      (c.shared.groups 0).semaphore.free + (c.shared.groups 0).semaphore.holders.length =
        (c.shared.groups 0).limit := by
  have idle : Reaches quiet (.init .init) := .refl
  have called := idle.spawn 0 (x := deployFullStack 0 [orchestrator] production "kuva.tfvars")
    succeeding rfl (.inl ⟨_, _, _, rfl⟩)
  have waits := called.spawn 1 (x := runChild quiet 1 0 1) succeeding rfl (.inr ⟨0, 1, rfl⟩)
  have begun := waits.resume 1 (.scheduled 0 1) Wake.woken succeeding rfl ⟨_, rfl, rfl⟩
  have started := begun.resume 1 (.start _) (.ok ()) succeeding rfl trivial
  exact ⟨_, _, _, rfl, by trivial, rfl, (components_exclusive quiet _ started).2 0⟩

theorem infrastructure_cancelled : ∃ c : Config Engine Answer Interrupt Unit,
    (c.shared.groups 0).phase = .validating ∧
      ∀ child ∈ (c.shared.groups 0).children, child.status = .cancelled ∨
        child.status = .succeeded ∧ child.done = commands child.work := by
  have idle : Reaches quiet (.init .init) := .refl
  have called := idle.spawn 0 (x := deployFullStack 0 [] production "kuva.tfvars") succeeding rfl
    (.inl ⟨_, _, _, rfl⟩)
  have waits := called.spawn 1 (x := runChild quiet 1 0 0) succeeding rfl (.inr ⟨0, 0, rfl⟩)
  have cancelled := waits.resume 1 (.scheduled 0 0) Wake.cancelled succeeding rfl ⟨_, rfl, rfl⟩
  have settled := cancelled.resume 0 (.group 0) Wake.woken succeeding rfl fun child member => by
    cases List.mem_singleton.mp member
    trivial
  exact ⟨_, rfl, checks_gated quiet _ settled 0 nofun⟩

end Instance

end KuvaAI.Deploy.FullStack
