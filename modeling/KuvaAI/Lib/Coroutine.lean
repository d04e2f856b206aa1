import Mathlib.Logic.Relation

/-! Tasks that share a state and run one at a time. A task runs from one await to
the next undisturbed; between them any other task may run. What a task may rely on
while it waits is what every other task keeps to in each of its steps. -/

/-- A program over the state `σ` whose outside calls `q` are answered in `A q`. -/
inductive Coroutine (σ : Type) {Q : Type} (A : Q → Type) (ε α : Type) where
  | done (a : α)
  | fail (e : ε)
  | get (k : σ → Coroutine σ A ε α)
  | set (s : σ) (k : Coroutine σ A ε α)
  /-- An outside call that is answered at once. -/
  | ask (q : Q) (k : A q → Coroutine σ A ε α)
  /-- An outside call during which other tasks run. -/
  | await (q : Q) (k : A q → Coroutine σ A ε α)

namespace Coroutine

variable {σ Q ε α β : Type} {A : Q → Type}

def bind (f : α → Coroutine σ A ε β) : Coroutine σ A ε α → Coroutine σ A ε β
  | done a => f a
  | fail e => fail e
  | get k => get fun s => bind f (k s)
  | set s k => set s (bind f k)
  | ask q k => ask q fun a => bind f (k a)
  | await q k => await q fun a => bind f (k a)

instance : Monad (Coroutine σ A ε) where
  pure := done
  bind x f := bind f x

def attempt : Coroutine σ A ε α → Coroutine σ A ε (Except ε α)
  | done a => done (.ok a)
  | fail e => done (.error e)
  | get k => get fun s => attempt (k s)
  | set s k => set s (attempt k)
  | ask q k => ask q fun a => attempt (k a)
  | await q k => await q fun a => attempt (k a)

instance : MonadExceptOf ε (Coroutine σ A ε) where
  throw := fail
  tryCatch x handler := do
    match ← attempt x with
    | .ok a => done a
    | .error e => handler e

instance : MonadStateOf σ (Coroutine σ A ε) where
  get := get done
  set s := set s (done ⟨⟩)
  modifyGet f := get fun s => set (f s).2 (done (f s).1)

def finallyDo (x : Coroutine σ A ε α) (cleanup : Coroutine σ A ε Unit) : Coroutine σ A ε α := do
  let result ← attempt x
  cleanup
  MonadExcept.ofExcept result

def call (q : Q) : Coroutine σ A ε (A q) := ask q done

def wait (q : Q) : Coroutine σ A ε (A q) := await q done

/-- To the next await or the end; `answer n` answers the call that `n` others precede. -/
def advance : Coroutine σ A ε α → (Nat → (q : Q) → A q) → Nat → σ → Coroutine σ A ε α × σ
  | done a, _, _, s => (done a, s)
  | fail e, _, _, s => (fail e, s)
  | get k, answer, n, s => advance (k s) answer n s
  | set t k, answer, n, _ => advance k answer n t
  | ask q k, answer, n, s => advance (k (answer n q)) answer (n + 1) s
  | await q k, _, _, s => (await q k, s)

structure Config (σ : Type) {Q : Type} (A : Q → Type) (ε α : Type) where
  shared : σ
  tasks : Nat → Option (Coroutine σ A ε α)

def Config.init (s : σ) : Config σ A ε α := ⟨s, fun _ => none⟩

def waiting : Coroutine σ A ε α → Option (Coroutine σ A ε α)
  | await q k => some (await q k)
  | _ => none

def Config.put (c : Config σ A ε α) (i : Nat) (ran : Coroutine σ A ε α × σ) : Config σ A ε α where
  shared := ran.2
  tasks := fun j => if j = i then waiting ran.1 else c.tasks j

/-- One step: a new task runs to its first await, or a waiting one to its next. -/
inductive Step (allowed : Nat → (q : Q) → A q → σ → Prop)
    (programs : Nat → Coroutine σ A ε α → Prop) (c : Config σ A ε α) : Config σ A ε α → Prop where
  | spawn {i x} (answer) : c.tasks i = none → programs i x →
      Step allowed programs c (c.put i (advance x answer 0 c.shared))
  | resume {i q k} (a answer) : c.tasks i = some (await q k) → allowed i q a c.shared →
      Step allowed programs c (c.put i (advance (k a) answer 0 c.shared))

def Reachable (allowed : Nat → (q : Q) → A q → σ → Prop)
    (programs : Nat → Coroutine σ A ε α → Prop) (s : σ) (c : Config σ A ε α) : Prop :=
  Relation.ReflTransGen (Step allowed programs) (.init s) c

section Steps

variable {allowed : Nat → (q : Q) → A q → σ → Prop} {programs : Nat → Coroutine σ A ε α → Prop}
  {s : σ} {c : Config σ A ε α}

theorem Reachable.spawn (reached : Reachable allowed programs s c) (i : Nat)
    {x : Coroutine σ A ε α} (answer : Nat → (q : Q) → A q) (absent : c.tasks i = none)
    (isProgram : programs i x) :
    Reachable allowed programs s (c.put i (advance x answer 0 c.shared)) :=
  reached.tail (.spawn answer absent isProgram)

theorem Reachable.resume (reached : Reachable allowed programs s c) (i : Nat) (q : Q) (a : A q)
    (answer : Nat → (q : Q) → A q) {k : A q → Coroutine σ A ε α}
    (present : c.tasks i = some (await q k)) (answered : allowed i q a c.shared) :
    Reachable allowed programs s (c.put i (advance (k a) answer 0 c.shared)) :=
  reached.tail (.resume a answer present answered)

theorem Reachable.next (_ : Reachable allowed programs s c) (i : Nat) (q : Q) (a : A q)
    (answer : Nat → (q : Q) → A q) {k : A q → Coroutine σ A ε α}
    (present : c.tasks i = some (await q k)) (answered : allowed i q a c.shared) :
    Step allowed programs c (c.put i (advance (k a) answer 0 c.shared)) :=
  .resume a answer present answered

end Steps

/-- The answers that awaits can get, what holds whenever tasks change, what each task
relies on, and what holds of a task that is not running. -/
structure Discipline (σ : Type) {Q : Type} (A : Q → Type) where
  allowed : Nat → (q : Q) → A q → σ → Prop
  inv : σ → Prop
  rely : Nat → σ → σ → Prop
  idle : Nat → σ → Prop
  rely_refl : ∀ i s, rely i s s
  rely_trans : ∀ i s t u, rely i s t → rely i t u → rely i s u
  idle_stable : ∀ i s t, rely i s t → idle i s → idle i t

section Wp

variable (D : Discipline σ A) (i : Nat)

/-- Task `i`, run from here on among tasks that keep to the discipline, keeps to it
and satisfies `post` when it ends normally and `exn` when it fails. -/
def wp (post : α → σ → Prop) (exn : ε → σ → Prop) : Coroutine σ A ε α → σ → Prop
  | done a, s => post a s
  | fail e, s => exn e s
  | get k, s => wp post exn (k s) s
  | set t k, s => (∀ j, j ≠ i → D.rely j s t) ∧ wp post exn k t
  | ask _ k, s => ∀ a, wp post exn (k a) s
  | await q k, s =>
    D.inv s ∧ ∀ a t, D.rely i s t → D.inv t → D.allowed i q a t → wp post exn (k a) t

variable {D i} {post : α → σ → Prop} {exn : ε → σ → Prop}

@[simp] theorem wp_pure (a : α) (s : σ) :
    wp D i post exn (pure a : Coroutine σ A ε α) s ↔ post a s := Iff.rfl

@[simp] theorem wp_throw (e : ε) (s : σ) :
    wp D i post exn (throw e : Coroutine σ A ε α) s ↔ exn e s := Iff.rfl

@[simp] theorem wp_get {post : σ → σ → Prop} (s : σ) :
    wp D i post exn (MonadState.get : Coroutine σ A ε σ) s ↔ post s s := Iff.rfl

@[simp] theorem wp_set {post : PUnit → σ → Prop} (t s : σ) :
    wp D i post exn (MonadStateOf.set t : Coroutine σ A ε PUnit) s ↔
      (∀ j, j ≠ i → D.rely j s t) ∧ post ⟨⟩ t := Iff.rfl

@[simp] theorem wp_modify {post : PUnit → σ → Prop} (f : σ → σ) (s : σ) :
    wp D i post exn (modify f : Coroutine σ A ε PUnit) s ↔
      (∀ j, j ≠ i → D.rely j s (f s)) ∧ post ⟨⟩ (f s) := Iff.rfl

@[simp] theorem wp_call {q : Q} {post : A q → σ → Prop} (s : σ) :
    wp D i post exn (call q : Coroutine σ A ε (A q)) s ↔ ∀ a, post a s := Iff.rfl

@[simp] theorem wp_wait {q : Q} {post : A q → σ → Prop} (s : σ) :
    wp D i post exn (wait q : Coroutine σ A ε (A q)) s ↔
      D.inv s ∧ ∀ a t, D.rely i s t → D.inv t → D.allowed i q a t → post a t := Iff.rfl

@[simp] theorem wp_bind {post : β → σ → Prop} (x : Coroutine σ A ε α)
    (f : α → Coroutine σ A ε β) (s : σ) :
    wp D i post exn (x >>= f) s ↔ wp D i (fun a => wp D i post exn (f a)) exn x s := by
  change wp D i post exn (bind f x) s ↔ _
  induction x generalizing s with
  | done a => rfl
  | fail e => rfl
  | get k ih => exact ih s s
  | set t k ih => exact and_congr_right fun _ => ih t
  | ask q k ih => exact forall_congr' fun a => ih a s
  | await q k ih =>
    exact and_congr_right fun _ => forall_congr' fun a => forall_congr' fun t =>
      imp_congr_right fun _ => imp_congr_right fun _ => imp_congr_right fun _ => ih a t

theorem wp_bind_eq {post : β → σ → Prop} (x : Coroutine σ A ε α) (f : α → Coroutine σ A ε β) :
    wp D i post exn (x >>= f) = wp D i (fun a => wp D i post exn (f a)) exn x :=
  funext fun s => propext (wp_bind x f s)

theorem wp_modify_bind {f : σ → σ} {k : PUnit → Coroutine σ A ε α} {s : σ}
    (moved : ∀ j, j ≠ i → D.rely j s (f s)) (rest : wp D i post exn (k ⟨⟩) (f s)) :
    wp D i post exn (modify f >>= k) s :=
  (wp_bind _ _ s).mpr ⟨moved, rest⟩

@[simp] theorem wp_attempt {post : Except ε α → σ → Prop} (x : Coroutine σ A ε α) (s : σ) :
    wp D i post exn (attempt x) s ↔
      wp D i (fun a => post (.ok a)) (fun e => post (.error e)) x s := by
  induction x generalizing s with
  | done a => rfl
  | fail e => rfl
  | get k ih => exact ih s s
  | set t k ih => exact and_congr_right fun _ => ih t
  | ask q k ih => exact forall_congr' fun a => ih a s
  | await q k ih =>
    exact and_congr_right fun _ => forall_congr' fun a => forall_congr' fun t =>
      imp_congr_right fun _ => imp_congr_right fun _ => imp_congr_right fun _ => ih a t

@[simp] theorem wp_tryCatch (x : Coroutine σ A ε α) (handler : ε → Coroutine σ A ε α) (s : σ) :
    wp D i post exn (tryCatch x handler) s ↔
      wp D i post (fun e => wp D i post exn (handler e)) x s := by
  refine (wp_bind (attempt x) _ s).trans ?_
  rw [wp_attempt]
  rfl

@[simp] theorem wp_finallyDo (x : Coroutine σ A ε α) (cleanup : Coroutine σ A ε Unit) (s : σ) :
    wp D i post exn (finallyDo x cleanup) s ↔
      wp D i (fun a => wp D i (fun _ => post a) exn cleanup)
        (fun e => wp D i (fun _ => exn e) exn cleanup) x s := by
  simp only [finallyDo, wp_bind_eq, wp_attempt]
  rfl

@[simp] theorem wp_ite (c : Prop) [Decidable c] (x y : Coroutine σ A ε α) (s : σ) :
    wp D i post exn (if c then x else y) s ↔
      if c then wp D i post exn x s else wp D i post exn y s := by
  split <;> rfl

theorem wp_mono {post' : α → σ → Prop} {exn' : ε → σ → Prop} {x : Coroutine σ A ε α} {s : σ}
    (holds : wp D i post exn x s) (weaker : ∀ a t, post a t → post' a t)
    (weakerExn : ∀ e t, exn e t → exn' e t) : wp D i post' exn' x s := by
  induction x generalizing s with
  | done a => exact weaker a s holds
  | fail e => exact weakerExn e s holds
  | get k ih => exact ih s holds
  | set t k ih => exact ⟨holds.1, ih holds.2⟩
  | ask q k ih => exact fun a => ih a (holds a)
  | await q k ih =>
    exact ⟨holds.1, fun a t moved inv answered => ih a (holds.2 a t moved inv answered)⟩

/-- A loop over `items`; `I` says what holds when some of them are left. -/
theorem wp_forM {x : α → Coroutine σ A ε PUnit} {I : List α → σ → Prop}
    (step : ∀ a rest s, I (a :: rest) s → wp D i (fun _ => I rest) exn (x a) s) (items : List α)
    {s : σ} (holds : I items s) : wp D i (fun _ => I []) exn (items.forM x) s := by
  induction items generalizing s with
  | nil => exact holds
  | cons a rest ih =>
    refine (wp_bind (x a) _ s).mpr (wp_mono (step a rest s holds) ?_ fun _ _ failed => failed)
    exact fun _ t later => ih later

end Wp

section Soundness

variable (D : Discipline σ A)

/-- A task of the discipline: it can be started, and leaves things as they were. -/
def Keeps (i : Nat) (x : Coroutine σ A ε α) : Prop :=
  ∀ s, D.inv s → D.idle i s →
    wp D i (fun _ t => D.inv t ∧ D.idle i t) (fun _ t => D.inv t ∧ D.idle i t) x s

def Waits (i : Nat) (x : Coroutine σ A ε α) (s : σ) : Prop :=
  ∃ q k, x = await q k ∧ ∀ a t, D.rely i s t → D.inv t → D.allowed i q a t →
    wp D i (fun _ t => D.inv t ∧ D.idle i t) (fun _ t => D.inv t ∧ D.idle i t) (k a) t

structure Kept (c : Config σ A ε α) : Prop where
  inv : D.inv c.shared
  idle : ∀ i, c.tasks i = none → D.idle i c.shared
  waits : ∀ i x, c.tasks i = some x → Waits D i x c.shared

variable {D}

theorem advance_spec {i : Nat} {post : α → σ → Prop} {exn : ε → σ → Prop}
    {x : Coroutine σ A ε α} {s : σ} (holds : wp D i post exn x s) (answer : Nat → (q : Q) → A q)
    (n : Nat) :
    (∀ j, j ≠ i → D.rely j s (advance x answer n s).2) ∧
      wp D i post exn (advance x answer n s).1 (advance x answer n s).2 := by
  induction x generalizing s n with
  | done a => exact ⟨fun j _ => D.rely_refl j s, holds⟩
  | fail e => exact ⟨fun j _ => D.rely_refl j s, holds⟩
  | get k ih => exact ih s holds n
  | set t k ih =>
    obtain ⟨moved, ended⟩ := ih holds.2 n
    exact ⟨fun j other => D.rely_trans j _ _ _ (holds.1 j other) (moved j other), ended⟩
  | ask q k ih => exact ih (answer n q) (holds (answer n q)) (n + 1)
  | await q k ih => exact ⟨fun j _ => D.rely_refl j s, holds⟩

theorem advance_ends (x : Coroutine σ A ε α) (answer : Nat → (q : Q) → A q) (n : Nat) (s : σ) :
    (∃ a, (advance x answer n s).1 = done a) ∨ (∃ e, (advance x answer n s).1 = fail e) ∨
      ∃ q k, (advance x answer n s).1 = await q k := by
  induction x generalizing s n with
  | done a => exact .inl ⟨a, rfl⟩
  | fail e => exact .inr (.inl ⟨e, rfl⟩)
  | get k ih => exact ih s n s
  | set t k ih => exact ih n t
  | ask q k ih => exact ih (answer n q) (n + 1) s
  | await q k => exact .inr (.inr ⟨q, k, rfl⟩)

theorem Waits.stable {i : Nat} {x : Coroutine σ A ε α} {s t : σ} (waits : Waits D i x s)
    (moved : D.rely i s t) : Waits D i x t := by
  obtain ⟨q, k, isAwait, holds⟩ := waits
  exact ⟨q, k, isAwait, fun a u later => holds a u (D.rely_trans i s t u moved later)⟩

theorem kept_put {c : Config σ A ε α} (kept : Kept D c) {i : Nat} {y : Coroutine σ A ε α} {s : σ}
    (moved : ∀ j, j ≠ i → D.rely j c.shared s) (inv : D.inv s) (idle : waiting y = none → D.idle i s)
    (waits : ∀ x, waiting y = some x → Waits D i x s) : Kept D (c.put i (y, s)) := by
  have here : (c.put i (y, s)).tasks i = waiting y := if_pos rfl
  have others : ∀ j, j ≠ i → (c.put i (y, s)).tasks j = c.tasks j := fun j other => if_neg other
  refine ⟨inv, fun j absent => ?_, fun j x present => ?_⟩
  · by_cases same : j = i
    · subst same
      exact idle (here ▸ absent)
    · exact D.idle_stable j _ _ (moved j same) (kept.idle j (others j same ▸ absent))
  · by_cases same : j = i
    · subst same
      exact waits x (here ▸ present)
    · exact (kept.waits j x (others j same ▸ present)).stable (moved j same)

theorem kept_advance {c : Config σ A ε α} (kept : Kept D c) {i : Nat} {x : Coroutine σ A ε α}
    (answer : Nat → (q : Q) → A q)
    (holds : wp D i (fun _ t => D.inv t ∧ D.idle i t) (fun _ t => D.inv t ∧ D.idle i t) x c.shared) :
    Kept D (c.put i (advance x answer 0 c.shared)) := by
  obtain ⟨moved, ended⟩ := advance_spec holds answer 0
  have ends := advance_ends x answer 0 c.shared
  revert moved ended ends
  generalize advance x answer 0 c.shared = ran
  obtain ⟨y, s⟩ := ran
  rintro moved ended (⟨a, rfl⟩ | ⟨e, rfl⟩ | ⟨q, k, rfl⟩)
  · exact kept_put kept moved ended.1 (fun _ => ended.2) (fun _ some => nomatch some)
  · exact kept_put kept moved ended.1 (fun _ => ended.2) (fun _ some => nomatch some)
  · refine kept_put kept moved ended.1 (fun absent => nomatch absent) (fun x present => ?_)
    cases present
    exact ⟨q, k, rfl, ended.2⟩

variable {programs : Nat → Coroutine σ A ε α → Prop}

theorem kept_step (keeps : ∀ i x, programs i x → Keeps D i x) {c d : Config σ A ε α}
    (kept : Kept D c) (step : Step D.allowed programs c d) : Kept D d := by
  cases step with
  | spawn answer absent isProgram =>
    exact kept_advance kept answer (keeps _ _ isProgram _ kept.inv (kept.idle _ absent))
  | resume a answer present answered =>
    obtain ⟨q, k, isAwait, resumes⟩ := kept.waits _ _ present
    cases isAwait
    exact kept_advance kept answer (resumes a _ (D.rely_refl _ _) kept.inv answered)

/-- The invariant holds in every state that tasks of the discipline can reach. -/
theorem reachable_kept (keeps : ∀ i x, programs i x → Keeps D i x) {s : σ} (inv : D.inv s)
    (idle : ∀ i, D.idle i s) {c : Config σ A ε α} (reached : Reachable D.allowed programs s c) :
    Kept D c := by
  induction reached with
  | refl => exact ⟨inv, fun i _ => idle i, fun _ _ some => nomatch some⟩
  | tail _ step ih => exact kept_step keeps ih step

theorem kept_step_rely (keeps : ∀ i x, programs i x → Keeps D i x) {c d : Config σ A ε α}
    (kept : Kept D c) (step : Step D.allowed programs c d) : ∃ j, D.rely j c.shared d.shared := by
  cases step with
  | @spawn i x answer absent isProgram =>
    have holds := keeps i x isProgram _ kept.inv (kept.idle _ absent)
    exact ⟨i + 1, (advance_spec holds answer 0).1 (i + 1) (Nat.succ_ne_self i)⟩
  | @resume i q k a answer present answered =>
    obtain ⟨q, k, isAwait, resumes⟩ := kept.waits _ _ present
    cases isAwait
    have holds := resumes a _ (D.rely_refl _ _) kept.inv answered
    exact ⟨i + 1, (advance_spec holds answer 0).1 (i + 1) (Nat.succ_ne_self i)⟩

/-- What every task may rely on to stay does so for the rest of a run. -/
theorem kept_stays (keeps : ∀ i x, programs i x → Keeps D i x) {P : σ → Prop}
    (stays : ∀ i s t, D.rely i s t → P s → P t) {c d : Config σ A ε α} (kept : Kept D c)
    (holds : P c.shared) (later : Relation.ReflTransGen (Step D.allowed programs) c d) :
    P d.shared := by
  have both : Kept D d ∧ P d.shared := by
    induction later with
    | refl => exact ⟨kept, holds⟩
    | tail _ step ih =>
      obtain ⟨j, moved⟩ := kept_step_rely keeps ih.1 step
      exact ⟨kept_step keeps ih.1 step, stays j _ _ moved ih.2⟩
  exact both.2

end Soundness

section Triples

variable (D : Discipline σ A) (i : Nat)

/-- Run by task `i` from a state in `pre`, `x` ends in `post` or fails in `exn`. -/
def Triple (pre : σ → Prop) (x : Coroutine σ A ε α) (post : α → σ → Prop) (exn : ε → σ → Prop) :
    Prop :=
  ∀ s, pre s → wp D i post exn x s

variable {D i} {pre : σ → Prop} {x : Coroutine σ A ε α} {post : α → σ → Prop}
  {exn : ε → σ → Prop}

namespace Triple

theorem bind {f : α → Coroutine σ A ε β} {last : β → σ → Prop} (first : Triple D i pre x post exn)
    (rest : ∀ a, Triple D i (post a) (f a) last exn) : Triple D i pre (x >>= f) last exn := by
  intro s holds
  rw [wp_bind]
  exact wp_mono (first s holds) (fun a t later => rest a t later) (fun _ _ failed => failed)

theorem conseq {pre' : σ → Prop} {post' : α → σ → Prop} {exn' : ε → σ → Prop}
    (holds : Triple D i pre x post exn) (stronger : ∀ s, pre' s → pre s)
    (weaker : ∀ a t, post a t → post' a t) (weakerExn : ∀ e t, exn e t → exn' e t) :
    Triple D i pre' x post' exn' :=
  fun s started => wp_mono (holds s (stronger s started)) weaker weakerExn

theorem get {post : σ → σ → Prop} (holds : ∀ s, pre s → post s s) :
    Triple D i pre (MonadState.get : Coroutine σ A ε σ) post exn :=
  holds

theorem modify {f : σ → σ} {post : σ → Prop}
    (holds : ∀ s, pre s → (∀ j, j ≠ i → D.rely j s (f s)) ∧ post (f s)) :
    Triple D i pre (modify f : Coroutine σ A ε PUnit) (fun _ => post) exn :=
  holds

theorem attempt {post : Except ε α → σ → Prop}
    (holds : Triple D i pre x (fun a => post (.ok a)) (fun e => post (.error e))) :
    Triple D i pre (Coroutine.attempt x) post exn :=
  fun s started => (wp_attempt x s).mpr (holds s started)

theorem tryCatch {handler : ε → Coroutine σ A ε α} {exn' : ε → σ → Prop}
    (body : Triple D i pre x post exn) (handled : ∀ e, Triple D i (exn e) (handler e) post exn') :
    Triple D i pre (tryCatch x handler) post exn' := by
  intro s holds
  rw [wp_tryCatch]
  exact wp_mono (body s holds) (fun _ _ ended => ended) (fun e t failed => handled e t failed)

theorem finallyDo {cleanup : Coroutine σ A ε Unit} {post' : α → σ → Prop} {exn' : ε → σ → Prop}
    (body : Triple D i pre x post exn)
    (afterEnd : ∀ a, Triple D i (post a) cleanup (fun _ => post' a) exn')
    (afterFailure : ∀ e, Triple D i (exn e) cleanup (fun _ => exn' e) exn') :
    Triple D i pre (finallyDo x cleanup) post' exn' := by
  intro s holds
  rw [wp_finallyDo]
  exact wp_mono (body s holds) (fun a t ended => afterEnd a t ended)
    (fun e t failed => afterFailure e t failed)

theorem ite {c : Prop} [Decidable c] {y : Coroutine σ A ε α}
    (holds : c → Triple D i pre x post exn) (fails : ¬ c → Triple D i pre y post exn) :
    Triple D i pre (if c then x else y) post exn := by
  split
  · exact holds ‹c›
  · exact fails ‹¬ c›

end Triple

/-- Programs that end where they may start keep the invariant in every state of a run. -/
theorem reachable_inv {programs : Nat → Coroutine σ A ε α → Prop} {P : Nat → σ → Prop}
    (runs : ∀ i x, programs i x → Triple D i (P i) x (fun _ => P i) fun _ => P i)
    (starts : ∀ i s, D.inv s → D.idle i s → P i s) (ends : ∀ i s, P i s → D.inv s ∧ D.idle i s) {s : σ}
    (inv : D.inv s) (idle : ∀ i, D.idle i s) {c : Config σ A ε α}
    (reached : Reachable D.allowed programs s c) : D.inv c.shared := by
  have keeps : ∀ i x, programs i x → Keeps D i x := by
    intro i x isProgram t inv idle
    exact wp_mono (runs i x isProgram t (starts i t inv idle)) (fun _ t ended => ends i t ended)
      fun _ t failed => ends i t failed
  exact (reachable_kept keeps inv idle reached).inv

end Triples

section Invariant

variable (allowed : Nat → (q : Q) → A q → σ → Prop) (inv : σ → Prop)

def Discipline.ofInvariant : Discipline σ A where
  allowed := allowed
  inv := inv
  rely := fun _ _ _ => True
  idle := fun _ _ => True
  rely_refl := fun _ _ => trivial
  rely_trans := fun _ _ _ _ _ _ => trivial
  idle_stable := fun _ _ _ _ _ => trivial

def Preserves (x : Coroutine σ A ε α) : Prop :=
  ∀ i, Triple (.ofInvariant allowed inv) i inv x (fun _ => inv) (fun _ => inv)

variable {allowed inv}

namespace Preserves

theorem pure (a : α) : Preserves allowed inv (pure a : Coroutine σ A ε α) := fun _ _ holds => holds

theorem throw (e : ε) : Preserves allowed inv (throw e : Coroutine σ A ε α) :=
  fun _ _ holds => holds

theorem get : Preserves allowed inv (MonadState.get : Coroutine σ A ε σ) := fun _ _ holds => holds

theorem modify {f : σ → σ} (kept : ∀ s, inv s → inv (f s)) :
    Preserves allowed inv (modify f : Coroutine σ A ε PUnit) :=
  fun _ s holds => ⟨fun _ _ => trivial, kept s holds⟩

theorem call (q : Q) : Preserves allowed inv (call q : Coroutine σ A ε (A q)) :=
  fun _ _ holds _ => holds

theorem wait (q : Q) : Preserves allowed inv (wait q : Coroutine σ A ε (A q)) :=
  fun _ _ holds => ⟨holds, fun _ _ _ later _ => later⟩

theorem ofExcept (result : Except ε α) :
    Preserves allowed inv (MonadExcept.ofExcept result : Coroutine σ A ε α) := by
  cases result with
  | ok a => exact pure a
  | error e => exact throw e

variable {x : Coroutine σ A ε α} (kept : Preserves allowed inv x)

include kept

theorem bind {f : α → Coroutine σ A ε β} (rest : ∀ a, Preserves allowed inv (f a)) :
    Preserves allowed inv (x >>= f) :=
  fun i => (kept i).bind fun a => rest a i

theorem attempt : Preserves allowed inv (Coroutine.attempt x : Coroutine σ A ε (Except ε α)) :=
  fun i => (kept i).attempt

theorem tryCatch {handler : ε → Coroutine σ A ε α}
    (handled : ∀ e, Preserves allowed inv (handler e)) :
    Preserves allowed inv (tryCatch x handler) :=
  fun i => (kept i).tryCatch fun e => handled e i

theorem finallyDo {cleanup : Coroutine σ A ε Unit} (cleaned : Preserves allowed inv cleanup) :
    Preserves allowed inv (finallyDo x cleanup) :=
  fun i => (kept i).finallyDo (fun _ => cleaned i) (fun _ => cleaned i)

theorem ite {c : Prop} [Decidable c] {y : Coroutine σ A ε α} (fails : Preserves allowed inv y) :
    Preserves allowed inv (if c then x else y) :=
  fun i => .ite (fun _ => kept i) (fun _ => fails i)

omit kept in
theorem forM {x : α → Coroutine σ A ε PUnit} (kept : ∀ a, Preserves allowed inv (x a))
    (items : List α) : Preserves allowed inv (items.forM x) := by
  induction items with
  | nil => exact pure _
  | cons a rest ih => exact (kept a).bind fun _ => ih

end Preserves

variable {programs : Nat → Coroutine σ A ε α → Prop}

theorem reachable_invariant (preserves : ∀ i x, programs i x → Preserves allowed inv x) {s : σ}
    (holds : inv s) {c : Config σ A ε α} (reached : Reachable allowed programs s c) :
    inv c.shared :=
  reachable_inv (D := .ofInvariant allowed inv) (fun i x isProgram => preserves i x isProgram i)
    (fun _ _ later _ => later) (fun _ _ kept => ⟨kept, trivial⟩) holds (fun _ => trivial) reached

end Invariant

section Alone

/-- What a program can come to when it runs with no other task, and the state then. -/
inductive Visits (allowed : (q : Q) → A q → σ → Prop) (x : Coroutine σ A ε α) (s : σ) :
    Coroutine σ A ε α → σ → Prop where
  | start (answer) : Visits allowed x s (advance x answer 0 s).1 (advance x answer 0 s).2
  | resume {q k t} (a answer) : Visits allowed x s (await q k) t → allowed q a t →
      Visits allowed x s (advance (k a) answer 0 t).1 (advance (k a) answer 0 t).2

def Discipline.alone (allowed : (q : Q) → A q → σ → Prop) (inv : σ → Prop) : Discipline σ A where
  allowed := fun _ => allowed
  inv := inv
  rely := fun i s t => i = 0 → t = s
  idle := fun _ _ => True
  rely_refl := fun _ _ _ => rfl
  rely_trans := fun _ _ _ _ first second same => (second same).trans (first same)
  idle_stable := fun _ _ _ _ _ => trivial

variable {allowed : (q : Q) → A q → σ → Prop} {inv : σ → Prop} {post : α → σ → Prop}
  {exn : ε → σ → Prop} {x y : Coroutine σ A ε α} {s t : σ}

theorem visits_spec (holds : wp (.alone allowed inv) 0 post exn x s) (visits : Visits allowed x s y t) :
    wp (.alone allowed inv) 0 post exn y t := by
  induction visits with
  | start answer => exact (advance_spec holds answer 0).2
  | resume a answer _ answered ih =>
    exact (advance_spec (ih.2 a _ (fun _ => rfl) ih.1 answered) answer 0).2

/-- What holds at every await and at both ends of a program holds whatever it comes to. -/
theorem visits_invariant (holds : wp (.alone allowed inv) 0 (fun _ => inv) (fun _ => inv) x s)
    (visits : Visits allowed x s y t) : inv t := by
  have ends : ∃ z answer r, (advance z answer 0 r).1 = y := by
    cases visits with
    | start answer => exact ⟨x, answer, s, rfl⟩
    | resume a answer _ _ => exact ⟨_, answer, _, rfl⟩
  have known := visits_spec holds visits
  obtain ⟨z, answer, r, rfl⟩ := ends
  rcases advance_ends z answer 0 r with ⟨a, ended⟩ | ⟨e, failed⟩ | ⟨q, k, waits⟩
  · rw [ended] at known
    exact known
  · rw [failed] at known
    exact known
  · rw [waits] at known
    exact known.1

theorem wp_wait_alone {q : Q} {f : A q → Coroutine σ A ε α} (holds : inv s)
    (rest : ∀ a, wp (.alone allowed inv) 0 post exn (f a) s) :
    wp (.alone allowed inv) 0 post exn (wait q >>= f) s := by
  rw [wp_bind, wp_wait]
  refine ⟨holds, fun a t moved _ _ => ?_⟩
  cases moved rfl
  exact rest a

theorem wp_alone {held : σ → Prop}
    (holds : wp (.ofInvariant (fun _ => allowed) held) 0 post exn x s) (weaker : ∀ s, held s → inv s) :
    wp (.alone allowed inv) 0 post exn x s := by
  induction x generalizing s with
  | done a => exact holds
  | fail e => exact holds
  | get k ih => exact ih s holds
  | set t k ih => exact ⟨fun _ other same => (other same).elim, ih holds.2⟩
  | ask q k ih => exact fun a => ih a (holds a)
  | await q k ih =>
    refine ⟨weaker s holds.1, fun a t moved _ answered => ih a (holds.2 a t trivial ?_ answered)⟩
    exact moved rfl ▸ holds.1

section Angelic

variable (allowed) (answers : (q : Q) → A q) (goal : σ → Prop)

/-- With some answers to its awaits, `x` comes to wait in a state of `goal` or to end in `post`. -/
def may (post : α → σ → Prop) : Coroutine σ A ε α → σ → Prop
  | done a, s => post a s
  | fail _, _ => False
  | get k, s => may post (k s) s
  | set t k, _ => may post k t
  | ask q k, s => may post (k (answers q)) s
  | await q k, s => goal s ∨ ∃ a, allowed q a s ∧ may post (k a) s

variable {allowed answers goal}

theorem may_bind {post : β → σ → Prop} {f : α → Coroutine σ A ε β}
    (can : may allowed answers goal (fun a => may allowed answers goal post (f a)) x s) :
    may allowed answers goal post (x >>= f) s := by
  change may allowed answers goal post (bind f x) s
  induction x generalizing s with
  | done a => exact can
  | fail e => exact can
  | get k ih => exact ih s can
  | set t k ih => exact ih can
  | ask q k ih => exact ih (answers q) can
  | await q k ih =>
    rcases can with reached | ⟨a, answered, can⟩
    · exact .inl reached
    · exact .inr ⟨a, answered, ih a can⟩

theorem may_attempt {post : Except ε α → σ → Prop}
    (can : may allowed answers goal (fun a => post (.ok a)) x s) :
    may allowed answers goal post (attempt x) s := by
  induction x generalizing s with
  | done a => exact can
  | fail e => exact can.elim
  | get k ih => exact ih s can
  | set t k ih => exact ih can
  | ask q k ih => exact ih (answers q) can
  | await q k ih =>
    rcases can with reached | ⟨a, answered, can⟩
    · exact .inl reached
    · exact .inr ⟨a, answered, ih a can⟩

theorem may_mono {post' : α → σ → Prop} (can : may allowed answers goal post x s)
    (weaker : ∀ a t, post a t → post' a t) : may allowed answers goal post' x s := by
  induction x generalizing s with
  | done a => exact weaker a s can
  | fail e => exact can
  | get k ih => exact ih s can
  | set t k ih => exact ih can
  | ask q k ih => exact ih (answers q) can
  | await q k ih =>
    rcases can with reached | ⟨a, answered, can⟩
    · exact .inl reached
    · exact .inr ⟨a, answered, ih a can⟩

theorem may_tryCatch {handler : ε → Coroutine σ A ε α} (can : may allowed answers goal post x s) :
    may allowed answers goal post (tryCatch x handler) s :=
  may_bind (may_attempt (may_mono can fun _ _ ended => ended))

theorem may_ite {c : Prop} [Decidable c] (holds : c → may allowed answers goal post x s)
    (fails : ¬ c → may allowed answers goal post y s) :
    may allowed answers goal post (if c then x else y) s := by
  split
  · exact holds ‹c›
  · exact fails ‹¬ c›

theorem visits_of_may {z : Coroutine σ A ε α} {r : σ} (can : may allowed answers goal post y t) (n : Nat)
    (visits : Visits allowed z r (advance y (fun _ => answers) n t).1
      (advance y (fun _ => answers) n t).2) :
    ∃ y t, Visits allowed z r y t ∧ (goal t ∨ ∃ a, post a t) := by
  induction y generalizing t n with
  | done a => exact ⟨_, _, visits, .inr ⟨a, can⟩⟩
  | fail e => exact can.elim
  | get k ih => exact ih t can n visits
  | set u k ih => exact ih can n visits
  | ask q k ih => exact ih (answers q) can (n + 1) visits
  | await q k ih =>
    rcases can with reached | ⟨a, answered, can⟩
    · exact ⟨_, _, visits, .inl reached⟩
    · exact ih a can 0 (.resume a _ visits answered)

theorem may_visits (can : may allowed answers goal post x s) :
    ∃ y t, Visits allowed x s y t ∧ (goal t ∨ ∃ a, post a t) :=
  visits_of_may can 0 (.start _)

/-- Among other tasks, one that has run can be run to where it may come to. -/
theorem reachable_of_may {allowed : Nat → (q : Q) → A q → σ → Prop} {i : Nat}
    (can : may (allowed i) answers goal post y t) {r : σ} {c : Config σ A ε α} {n : Nat}
    (reached : Reachable allowed programs r (c.put i (advance y (fun _ => answers) n t))) :
    ∃ d, Reachable allowed programs r d ∧ (∀ j, j ≠ i → d.tasks j = c.tasks j) ∧
      (goal d.shared ∨ d.tasks i = none ∧ ∃ a, post a d.shared) := by
  induction y generalizing t c n with
  | done a => exact ⟨_, reached, fun _ other => if_neg other, .inr ⟨if_pos rfl, a, can⟩⟩
  | fail e => exact can.elim
  | get k ih => exact ih t can reached
  | set u k ih => exact ih can reached
  | ask q k ih => exact ih (answers q) can reached
  | await q k ih =>
    rcases can with reaches | ⟨a, answered, can⟩
    · exact ⟨_, reached, fun _ other => if_neg other, .inl reaches⟩
    · have next := reached.resume i q a (fun _ => answers) (if_pos rfl) answered
      obtain ⟨d, later, others, ends⟩ := ih a can next
      exact ⟨d, later, fun j other => (others j other).trans (if_neg other), ends⟩

end Angelic

end Alone

end Coroutine
