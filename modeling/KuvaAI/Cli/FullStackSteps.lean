import KuvaAI.Cli.FullStack
import Mathlib.Logic.Function.Basic

/-! What the tasks of a group do to an engine between their steps: their statuses, the lock
and the permits, and what each task relies on the others to leave. -/
namespace KuvaAI.Deploy.FullStack
open Python Coroutine

variable {g h : Engine} {task parent child : Nat} {logging : Logging}

def commands : Work → List (List String)
  | .infrastructure tfvars => terraformCommands tfvars
  | .cloudIam _ => []
  | .component config target =>
    config.preHooks.map words ++ (helmCommand config target.toDeploymentTarget).toOption.toList ++
      config.waitConditions.map waitCommand ++ config.postHooks.map words

def Work.IsComponent : Work → Prop
  | .component .. => True
  | _ => False

def Engine.child? (g : Engine) (parent child : Nat) : Option Child := (g.groups parent).children[child]?

structure Sound (g : Engine) : Prop where
  lock : g.lock.Sound 1
  semaphore : ∀ parent, (g.groups parent).semaphore.Sound (g.groups parent).limit
  done : ∀ parent child c, g.child? parent child = some c → c.status = .succeeded →
    c.done = commands c.work
  failed : ∀ parent child c e, g.child? parent child = some c → c.status = .failed e →
    (g.groups parent).errors ≠ []
  fresh : ∀ parent child c, g.child? parent child = some c → c.status = .created → c.done = []
  alone : ∀ task parent child c p k d, g.child? parent child = some c → c.status = .running task →
    g.child? p k = some d → d.status = .running task → p = parent ∧ k = child
  /-- A process is waited for by a task, and one of a component by the holder of the lock. -/
  process : ∀ parent child c cmd, g.child? parent child = some c → c.process = some cmd →
    ∃ task, c.status = .running task ∧ (c.work.IsComponent → task ∈ g.lock.holders)
  permitted : ∀ task ∈ g.lock.holders, ∃ parent, task ∈ (g.groups parent).semaphore.holders
  holder : ∀ parent, ∀ task ∈ (g.groups parent).semaphore.holders,
    ∃ child c, g.child? parent child = some c ∧ c.status = .running task
  gate : ∀ parent, (g.groups parent).phase ≠ .deploying →
    (g.groups parent).Settled ∧ (g.groups parent).errors = []

structure Leaves (task : Nat) (g h : Engine) : Prop where
  lock : task ∈ h.lock.holders ↔ task ∈ g.lock.holders
  semaphore : ∀ parent,
    task ∈ (h.groups parent).semaphore.holders ↔ task ∈ (g.groups parent).semaphore.holders
  child : ∀ parent child c, c.status = .running task →
    (h.child? parent child = some c ↔ g.child? parent child = some c)
  settled : (g.groups task).Settled → (h.groups task).children = (g.groups task).children ∧
    (h.groups task).errors = (g.groups task).errors

structure Free (task : Nat) (g : Engine) : Prop where
  lock : task ∉ g.lock.holders
  semaphore : ∀ parent, task ∉ (g.groups parent).semaphore.holders
  child : ∀ parent child c, g.child? parent child = some c → c.status ≠ .running task

theorem Free.later (free : Free task g) (leaves : Leaves task g h) : Free task h where
  lock := leaves.lock.not.mpr free.lock
  semaphore parent := (leaves.semaphore parent).not.mpr (free.semaphore parent)
  child parent child c present running :=
    free.child parent child c ((leaves.child parent child c running).mp present) running

theorem Leaves.keeps_settled (leaves : Leaves task g h) (settled : (g.groups task).Settled) :
    (h.groups task).Settled := by
  unfold Group.Settled
  rw [(leaves.settled settled).1]
  exact settled

def orderly : Discipline Engine Answer where
  allowed := served
  inv := Sound
  rely := Leaves
  idle task g := Free task g ∧ (g.groups task).Settled
  rely_refl _ _ := ⟨Iff.rfl, fun _ => Iff.rfl, fun _ _ _ _ => Iff.rfl, fun _ => ⟨rfl, rfl⟩⟩
  rely_trans task g h u first second := by
    refine ⟨second.lock.trans first.lock, fun p => (second.semaphore p).trans (first.semaphore p),
      fun p k c running => (second.child p k c running).trans (first.child p k c running),
      fun settled => ?_⟩
    have both := second.settled (first.keeps_settled settled)
    exact ⟨both.1.trans (first.settled settled).1, both.2.trans (first.settled settled).2⟩
  idle_stable _ _ _ leaves idle := ⟨idle.1.later leaves, leaves.keeps_settled idle.2⟩

/-- The one child changes, and nothing else that others look at. -/
structure Edits (parent child : Nat) (c c' : Child) (g h : Engine) : Prop where
  was : g.child? parent child = some c
  now : ∀ p k, h.child? p k = if p = parent ∧ k = child then some c' else g.child? p k
  groups : ∀ p, p ≠ parent → h.groups p = g.groups p
  lock : h.lock = g.lock
  semaphore : ∀ p, (h.groups p).semaphore = (g.groups p).semaphore
  limit : ∀ p, (h.groups p).limit = (g.groups p).limit
  phase : ∀ p, (h.groups p).phase = (g.groups p).phase

section Edits

variable {c c' : Child}

theorem settled_iff (p : Nat) : (g.groups p).Settled ↔
    ∀ k c, g.child? p k = some c → c.status.Settled := by
  constructor
  · exact fun settled k c present => settled c (List.mem_of_getElem? present)
  · intro all c member
    obtain ⟨k, present⟩ := List.mem_iff_getElem?.mp member
    exact all k c present

theorem not_settled (was : g.child? parent child = some c) (active : ¬ c.status.Settled) :
    ¬ (g.groups parent).Settled :=
  fun settled => active ((settled_iff parent).mp settled child c was)

theorem Sound.edit (sound : Sound g) (edits : Edits parent child c c' g h)
    (active : ¬ c.status.Settled) (done : c'.status = .succeeded → c'.done = commands c'.work)
    (errors : (g.groups parent).errors ≠ [] → (h.groups parent).errors ≠ [])
    (failed : ∀ e, c'.status = .failed e → (h.groups parent).errors ≠ [])
    (begun : c'.status ≠ .created)
    (alone : ∀ task, c'.status = .running task → ∀ p k d, g.child? p k = some d →
      d.status = .running task → p = parent ∧ k = child)
    (process : ∀ cmd, c'.process = some cmd →
      ∃ task, c'.status = .running task ∧ (c'.work.IsComponent → task ∈ g.lock.holders))
    (holder : ∀ task ∈ (g.groups parent).semaphore.holders, c.status = .running task →
      c'.status = .running task) : Sound h where
  lock := edits.lock ▸ sound.lock
  semaphore p := by
    rw [edits.semaphore, edits.limit]
    exact sound.semaphore p
  done p k d present succeeded := by
    rw [edits.now] at present
    split at present
    · cases present
      exact done succeeded
    · exact sound.done p k d present succeeded
  failed p k d e present ended := by
    rw [edits.now] at present
    split at present
    · rename_i here
      cases present
      exact here.1 ▸ failed e ended
    · have before := sound.failed p k d e present ended
      by_cases same : p = parent
      · subst same
        exact errors before
      · rw [edits.groups p same]
        exact before
  fresh p k d present created := by
    rw [edits.now] at present
    split at present
    · cases present
      exact absurd created begun
    · exact sound.fresh p k d present created
  alone t p k d q l e first running second alsoRunning := by
    rw [edits.now] at first second
    split at first
    · rename_i here
      cases first
      split at second
      · rename_i there
        exact ⟨there.1.trans here.1.symm, there.2.trans here.2.symm⟩
      · have both := alone t running q l e second alsoRunning
        exact ⟨both.1.trans here.1.symm, both.2.trans here.2.symm⟩
    · split at second
      · rename_i there
        cases second
        have both := alone t alsoRunning p k d first running
        exact ⟨there.1.trans both.1.symm, there.2.trans both.2.symm⟩
      · exact sound.alone t p k d q l e first running second alsoRunning
  process p k d cmd present waits := by
    rw [edits.now] at present
    rw [edits.lock]
    split at present
    · cases present
      exact process cmd waits
    · exact sound.process p k d cmd present waits
  permitted task held := by
    simp only [edits.semaphore]
    exact sound.permitted task (edits.lock ▸ held)
  holder p task held := by
    rw [edits.semaphore] at held
    obtain ⟨k, d, present, running⟩ := sound.holder p task held
    by_cases here : p = parent ∧ k = child
    · obtain ⟨rfl, rfl⟩ := here
      obtain rfl : c = d := Option.some.inj (edits.was.symm.trans present)
      exact ⟨k, c', by rw [edits.now, if_pos ⟨rfl, rfl⟩], holder task held running⟩
    · exact ⟨k, d, by rw [edits.now, if_neg here, present], running⟩
  gate p begun := by
    rw [edits.phase] at begun
    by_cases same : p = parent
    · subst same
      exact absurd (sound.gate p begun).1 (not_settled edits.was active)
    · rw [edits.groups p same]
      exact sound.gate p begun

theorem Edits.leaves {other : Nat} (edits : Edits parent child c c' g h)
    (active : ¬ c.status.Settled) (before : c.status ≠ .running other)
    (after : c'.status ≠ .running other) : Leaves other g h where
  lock := by rw [edits.lock]
  semaphore p := by rw [edits.semaphore]
  child p k d running := by
    rw [edits.now]
    split
    · rename_i here
      obtain ⟨rfl, rfl⟩ := here
      rw [edits.was]
      constructor
      · rintro ⟨⟩
        exact (after running).elim
      · rintro ⟨⟩
        exact (before running).elim
    · rfl
  settled settled := by
    by_cases same : other = parent
    · subst same
      exact absurd settled (not_settled edits.was active)
    · rw [edits.groups other same]
      exact ⟨rfl, rfl⟩

@[simp] theorem groups_change (f : Group → Group) (p : Nat) :
    (g.change parent f).groups p = if p = parent then f (g.groups parent) else g.groups p :=
  Function.update_apply g.groups parent _ p

theorem edits_modify {f : Child → Child} {u : Group → Group}
    (was : g.child? parent child = some c)
    (children : (u (g.groups parent)).children = (g.groups parent).children.modify child f)
    (semaphore : (u (g.groups parent)).semaphore = (g.groups parent).semaphore)
    (limit : (u (g.groups parent)).limit = (g.groups parent).limit)
    (phase : (u (g.groups parent)).phase = (g.groups parent).phase) :
    Edits parent child c (f c) g (g.change parent u) := by
  refine ⟨was, fun p k => ?_, fun p other => ?_, rfl, fun p => ?_, fun p => ?_, fun p => ?_⟩
  · rw [Engine.child?, groups_change]
    by_cases same : p = parent
    · subst same
      rw [if_pos rfl, children]
      by_cases here : k = child
      · subst here
        rw [List.getElem?_modify_eq, if_pos ⟨rfl, rfl⟩]
        exact congrArg (Option.map f) was
      · rw [List.getElem?_modify_ne _ _ (Ne.symm here), if_neg fun both => here both.2]
        rfl
    · rw [if_neg same, if_neg fun both => same both.1]
      rfl
  · rw [groups_change, if_neg other]
  · rw [groups_change]
    split
    · rename_i same
      rw [semaphore, same]
    · rfl
  · rw [groups_change]
    split
    · rename_i same
      rw [limit, same]
    · rfl
  · rw [groups_change]
    split
    · rename_i same
      rw [phase, same]
    · rfl

end Edits

structure Runs (task parent child : Nat) (work : Work) (done : List (List String))
    (process : Option (List String)) (permit lock : Prop) (g : Engine) : Prop where
  sound : Sound g
  present : g.child? parent child = some ⟨work, .running task, done, process⟩
  alone : ∀ p k c, g.child? p k = some c → c.status = .running task → p = parent ∧ k = child
  lock : task ∈ g.lock.holders ↔ lock
  permit : ∀ p, task ∈ (g.groups p).semaphore.holders ↔ permit ∧ p = parent
  own : (g.groups task).Settled

section Steps

variable {work : Work} {done done' : List (List String)} {process : Option (List String)}
  {permit lock : Prop}

theorem Runs.later (runs : Runs task parent child work done process permit lock g)
    (leaves : Leaves task g h) (sound : Sound h) :
    Runs task parent child work done process permit lock h where
  sound := sound
  present := (leaves.child parent child _ rfl).mpr runs.present
  alone p k c present running := runs.alone p k c ((leaves.child p k c running).mp present) running
  lock := leaves.lock.trans runs.lock
  permit p := (leaves.semaphore p).trans (runs.permit p)
  own := leaves.keeps_settled runs.own

theorem Runs.closed : Closed fun {_} (x : Task _) => Triple orderly task
    (Runs task parent child work done process permit lock) x
    (fun _ => Runs task parent child work done process permit lock)
    fun _ => Runs task parent child work done process permit lock :=
  Triple.closed (fun _ runs => runs.sound) fun _ _ runs leaves sound => runs.later leaves sound

theorem Runs.apart (runs : Runs task parent child work done process permit lock g) : task ≠ parent := by
  rintro rfl
  exact not_settled runs.present id runs.own

theorem Runs.record (runs : Runs task parent child work done process permit lock g)
    (process' : Option (List String))
    (held : process'.isSome → work.IsComponent → lock) {f : Child → Child}
    (recorded : f ⟨work, .running task, done, process⟩ = ⟨work, .running task, done', process'⟩) :
    (∀ other, other ≠ task → Leaves other g (g.changeChild parent child f)) ∧
      Runs task parent child work done' process' permit lock (g.changeChild parent child f) := by
  have edits : Edits parent child ⟨work, .running task, done, process⟩
      ⟨work, .running task, done', process'⟩ g (g.changeChild parent child f) :=
    recorded ▸ edits_modify runs.present rfl rfl rfl rfl
  refine ⟨fun other different => edits.leaves id ?_ ?_, ?_⟩
  · rintro ⟨⟩
    exact different rfl
  · rintro ⟨⟩
    exact different rfl
  · constructor
    · refine runs.sound.edit edits id nofun ?_ nofun nofun ?_ ?_ fun _ _ same => same
      · rw [Engine.changeChild, groups_change, if_pos rfl]
        exact id
      · rintro _ ⟨⟩
        exact runs.alone
      · exact fun cmd waits => ⟨task, rfl, fun component =>
          runs.lock.mpr (held (Option.isSome_iff_exists.mpr ⟨cmd, waits⟩) component)⟩
    · rw [edits.now, if_pos ⟨rfl, rfl⟩]
    · intro p k c present running
      rw [edits.now] at present
      split at present
      · assumption
      · exact runs.alone p k c present running
    · exact edits.lock ▸ runs.lock
    · intro p
      rw [edits.semaphore]
      exact runs.permit p
    · rw [edits.groups task runs.apart]
      exact runs.own

theorem runs_executeCommand (held : work.IsComponent → lock) (cmd : List String) (timeout : Nat) :
    Triple orderly task (Runs task parent child work done none permit lock)
      (executeCommand logging parent child cmd timeout)
      (fun success =>
        Runs task parent child work (if success then done ++ [cmd] else done) none permit lock)
      (fun _ => Runs task parent child work done none permit lock) := by
  have closed {process : Option (List String)} : Closed fun {_} (x : Task _) => Triple orderly task
      (Runs task parent child work done process permit lock) x
      (fun _ => Runs task parent child work done process permit lock)
      fun _ => Runs task parent child work done process permit lock := Runs.closed
  rw [executeCommand]
  refine Triple.ite (fun _ => fun _ runs => runs) fun _ => ?_
  refine Triple.bind (closed.wait _) fun started => Triple.bind (closed.ofExcept started) fun _ => ?_
  refine Triple.bind (Triple.modify fun g runs => runs.record (some cmd) (fun _ => held) rfl) fun _ => ?_
  refine Triple.bind (closed.wait _) fun (waited : Waited) => ?_
  refine Triple.bind (Triple.modify fun g runs => runs.record none nofun rfl) fun _ => ?_
  intro g runs
  refine wp_outcome (fun success ended => ?_) fun i failed => ?_
  · cases success with
    | true => simpa [ended] using runs
    | false => simpa [ended] using runs
  · simpa [failed] using runs

theorem runs_execute (held : work.IsComponent → lock) (cmd : List String) (timeout : Nat)
    (label : String) :
    Triple orderly task (Runs task parent child work done none permit lock)
      (execute logging parent child cmd timeout label)
      (fun _ => Runs task parent child work (done ++ [cmd]) none permit lock)
      (fun _ => Runs task parent child work done none permit lock) := by
  refine Triple.bind (runs_executeCommand held cmd timeout) fun success => ?_
  cases success with
  | true => exact fun _ runs => runs
  | false => exact fun _ runs => runs

def Ran (task parent child : Nat) (work : Work) (permit lock : Prop) (g : Engine) : Prop :=
  ∃ done, Runs task parent child work done none permit lock g

theorem runs_each (held : work.IsComponent → lock) {item : Type} (cmd : item → List String)
    (timeout : item → Nat) (label : item → String) (items : List item) :
    Triple orderly task (Runs task parent child work done none permit lock)
      (items.forM fun a => execute logging parent child (cmd a) (timeout a) (label a))
      (fun _ => Runs task parent child work (done ++ items.map cmd) none permit lock)
      (fun _ => Ran task parent child work permit lock) := by
  induction items generalizing done with
  | nil => exact fun _ runs => by simpa using runs
  | cons a items ih =>
    refine Triple.bind ((runs_execute held (cmd a) (timeout a) (label a)).conseq
      (fun _ runs => runs) (fun _ _ runs => runs) fun _ _ runs => ⟨_, runs⟩) fun _ => ?_
    simpa using @ih (done ++ [cmd a])

theorem leaves_emit {name : String} {tags : List (String × String)} (other : Nat) :
    Leaves other g (g.emit name tags) :=
  ⟨Iff.rfl, fun _ => Iff.rfl, fun _ _ _ _ => Iff.rfl, fun _ => ⟨rfl, rfl⟩⟩

theorem sound_emit {name : String} {tags : List (String × String)} (sound : Sound g) :
    Sound (g.emit name tags) :=
  { sound with }

theorem runs_emit (name : String) (tags : List (String × String)) :
    Triple orderly task (Runs task parent child work done process permit lock)
      (modify fun g => g.emit name tags : Task PUnit)
      (fun _ => Runs task parent child work done process permit lock)
      (fun _ => Runs task parent child work done process permit lock) := by
  intro g runs
  exact ⟨fun other _ => leaves_emit other, runs.later (leaves_emit task) (sound_emit runs.sound)⟩

theorem runs_takeLock {g : Engine} (runs : Runs task parent child work done process True False g)
    (free : 0 < g.lock.free) :
    wp orderly task (fun _ => Runs task parent child work done process True True)
      (fun _ => Runs task parent child work done process True False) (takeLock task) g := by
  have sound := runs.sound
  refine ⟨fun other different => ⟨?_, fun _ => Iff.rfl, fun _ _ _ _ => Iff.rfl, fun _ => ⟨rfl, rfl⟩⟩,
    { runs with sound := { sound with lock := ?_, process := ?_, permitted := ?_ }, lock := ?_ }⟩
  · simp [different]
  · exact sound.lock.take free runs.lock.mp
  · intro p k c cmd present waits
    obtain ⟨t, running, holds⟩ := sound.process p k c cmd present waits
    exact ⟨t, running, fun component => Permits.mem_take.mpr (.inr (holds component))⟩
  · intro t held
    rcases Permits.mem_take.mp held with rfl | before
    · exact ⟨parent, (runs.permit parent).mpr ⟨trivial, rfl⟩⟩
    · exact sound.permitted t before
  · simp

theorem runs_acquireLock : Triple orderly task (Runs task parent child work done process True False)
    (acquireLock task) (fun _ => Runs task parent child work done process True True)
    (fun _ => Runs task parent child work done process True False) := by
  intro g runs
  rw [acquireLock, wp_bind, wp_get, wp_ite]
  split
  · refine And.intro runs.sound fun (wake : Wake) h leaves sound answered => ?_
    have later := runs.later leaves sound
    cases wake with
    | woken => exact runs_takeLock later answered
    | cancelled => exact later
  · rename_i free
    exact runs_takeLock runs (Nat.pos_of_ne_zero free)

theorem runs_releaseLock {Q : Engine → Prop} :
    Triple orderly task (Runs task parent child work done none True True) (releaseLock task)
      (fun swallowed g => swallowed = false ∧ Runs task parent child work done none True False g)
      (fun _ => Q) := by
  intro g runs
  have sound := runs.sound
  have held := runs.lock.mpr trivial
  refine ⟨fun other different => ⟨?_, fun _ => Iff.rfl, fun _ _ _ _ => Iff.rfl, fun _ => ⟨rfl, rfl⟩⟩,
    rfl, { runs with sound := { sound with lock := ?_, process := ?_, permitted := ?_ }, lock := ?_ }⟩
  · exact Permits.mem_give_of_ne different
  · exact sound.lock.give held
  · intro p k c cmd present waits
    obtain ⟨t, running, holds⟩ := sound.process p k c cmd present waits
    refine ⟨t, running, fun component => (Permits.mem_give_of_ne ?_).mpr (holds component)⟩
    rintro rfl
    obtain ⟨rfl, rfl⟩ := runs.alone p k c present running
    cases runs.present.symm.trans present
    cases waits
  · exact fun t later => sound.permitted t (List.mem_of_mem_erase later)
  · exact iff_of_false sound.lock.not_mem_give id

def Engine.exchange (g : Engine) (parent : Nat) (f : Permits → Permits) : Engine :=
  g.change parent fun group => { group with semaphore := f group.semaphore }

section Permits

variable {f : Permits → Permits}

theorem exchange_groups (p : Nat) : (g.exchange parent f).groups p =
    { g.groups p with
      semaphore := if p = parent then f (g.groups p).semaphore else (g.groups p).semaphore } := by
  rw [Engine.exchange, groups_change]
  split
  · rename_i same
    rw [same]
  · rfl

@[simp] theorem exchange_child? (p k : Nat) : (g.exchange parent f).child? p k = g.child? p k := by
  rw [Engine.child?, exchange_groups]
  rfl

theorem Sound.exchange (sound : Sound g)
    (permits : (f (g.groups parent).semaphore).Sound (g.groups parent).limit)
    (kept : ∀ t ∈ g.lock.holders, t ∈ (g.groups parent).semaphore.holders →
      t ∈ (f (g.groups parent).semaphore).holders)
    (holder : ∀ t ∈ (f (g.groups parent).semaphore).holders,
      ∃ k c, g.child? parent k = some c ∧ c.status = .running t) : Sound (g.exchange parent f) where
  lock := sound.lock
  semaphore p := by
    rw [exchange_groups]
    by_cases same : p = parent
    · subst same
      simpa using permits
    · simpa [same] using sound.semaphore p
  done p k c present := sound.done p k c (exchange_child? p k ▸ present)
  failed p k c e present ended := by
    rw [exchange_groups]
    exact sound.failed p k c e (exchange_child? p k ▸ present) ended
  fresh p k c present := sound.fresh p k c (exchange_child? p k ▸ present)
  alone t p k c q l d first running second :=
    sound.alone t p k c q l d (exchange_child? p k ▸ first) running (exchange_child? q l ▸ second)
  process p k c cmd present := sound.process p k c cmd (exchange_child? p k ▸ present)
  permitted t held := by
    obtain ⟨p, permit⟩ := sound.permitted t held
    refine ⟨p, ?_⟩
    rw [exchange_groups]
    by_cases same : p = parent
    · subst same
      simpa using kept t held permit
    · simpa [same] using permit
  holder p t held := by
    simp only [exchange_child?]
    rw [exchange_groups] at held
    by_cases same : p = parent
    · subst same
      exact holder t (by simpa using held)
    · exact sound.holder p t (by simpa [same] using held)
  gate p begun := by
    rw [exchange_groups] at begun ⊢
    exact sound.gate p begun

theorem leaves_exchange {other : Nat} (same : ∀ p : Permits, other ∈ (f p).holders ↔ other ∈ p.holders) :
    Leaves other g (g.exchange parent f) where
  lock := Iff.rfl
  semaphore p := by
    rw [exchange_groups]
    by_cases here : p = parent
    · simp [here, same]
    · simp [here]
  child p k c _ := by rw [exchange_child?]
  settled _ := by
    rw [exchange_groups]
    exact ⟨rfl, rfl⟩

end Permits

theorem runs_takePermit {g : Engine} (runs : Runs task parent child work done process False False g)
    (free : 0 < (g.groups parent).semaphore.free) :
    wp orderly task (fun _ => Runs task parent child work done process True False)
      (fun _ => Runs task parent child work done process False False) (takePermit task parent) g := by
  have sound := runs.sound
  change _ ∧ Runs task parent child work done process True False
    (g.exchange parent fun permits => permits.take task)
  refine ⟨fun other different => leaves_exchange (f := (·.take task)) fun p => by simp [different], ?_⟩
  constructor
  · refine sound.exchange ?_ ?_ ?_
    · exact (sound.semaphore parent).take free fun held => ((runs.permit parent).mp held).1
    · exact fun t _ held => Permits.mem_take.mpr (.inr held)
    · intro t held
      rcases Permits.mem_take.mp held with rfl | before
      · exact ⟨child, _, runs.present, rfl⟩
      · exact sound.holder parent t before
  · rw [exchange_child?]
    exact runs.present
  · intro p k c present
    exact runs.alone p k c (exchange_child? p k ▸ present)
  · exact runs.lock
  · intro p
    rw [exchange_groups]
    by_cases same : p = parent
    · simp [same]
    · simp [same, runs.permit]
  · rw [exchange_groups]
    exact runs.own

theorem runs_acquirePermit : Triple orderly task (Runs task parent child work done process False False)
    (acquirePermit task parent) (fun _ => Runs task parent child work done process True False)
    (fun _ => Runs task parent child work done process False False) := by
  intro g runs
  rw [acquirePermit, wp_bind, wp_get, wp_ite]
  split
  · refine And.intro runs.sound fun (wake : Wake) h leaves sound answered => ?_
    have later := runs.later leaves sound
    cases wake with
    | woken => exact runs_takePermit later answered
    | cancelled => exact later
  · rename_i free
    exact runs_takePermit runs (Nat.pos_of_ne_zero free)

theorem runs_releasePermit {Q : Engine → Prop} :
    Triple orderly task (Runs task parent child work done process True False)
      (releasePermit task parent)
      (fun swallowed g => swallowed = false ∧ Runs task parent child work done process False False g)
      (fun _ => Q) := by
  intro g runs
  have sound := runs.sound
  have held := (runs.permit parent).mpr ⟨trivial, rfl⟩
  change _ ∧ _ ∧ Runs task parent child work done process False False
    (g.exchange parent fun permits => permits.give task)
  refine ⟨fun other different =>
    leaves_exchange (f := (·.give task)) fun p => Permits.mem_give_of_ne different, rfl, ?_⟩
  constructor
  · refine sound.exchange ?_ ?_ ?_
    · exact (sound.semaphore parent).give held
    · intro t locked before
      refine (Permits.mem_give_of_ne ?_).mpr before
      rintro rfl
      exact runs.lock.mp locked
    · exact fun t later => sound.holder parent t (List.mem_of_mem_erase later)
  · rw [exchange_child?]
    exact runs.present
  · intro p k c present
    exact runs.alone p k c (exchange_child? p k ▸ present)
  · exact runs.lock
  · intro p
    rw [exchange_groups]
    by_cases same : p = parent
    · simp [same, (sound.semaphore parent).not_mem_give]
    · simp [same, runs.permit]
  · rw [exchange_groups]
    exact runs.own

end Steps

end KuvaAI.Deploy.FullStack
