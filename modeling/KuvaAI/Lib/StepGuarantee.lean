import KuvaAI.Lib.Coroutine

/-! What every step of a task guarantees, as a relation between the states it begins
and ends in. The relation need not compose: a step of another task may come between. -/
namespace Coroutine

variable {σ Q ε α β : Type} {A : Q → Type}

/-- Programs of a class that is closed under the ways to build them. -/
structure Closed (K : ∀ {α : Type}, Coroutine σ A ε α → Prop) : Prop where
  pure : ∀ {α : Type} (a : α), K (pure a : Coroutine σ A ε α)
  throw : ∀ {α : Type} (e : ε), K (throw e : Coroutine σ A ε α)
  get : K (MonadState.get : Coroutine σ A ε σ)
  call : ∀ q, K (call q : Coroutine σ A ε (A q))
  wait : ∀ q, K (wait q : Coroutine σ A ε (A q))
  bind : ∀ {α β : Type} {x : Coroutine σ A ε α} {f : α → Coroutine σ A ε β},
    K x → (∀ a, K (f a)) → K (x >>= f)
  attempt : ∀ {α : Type} {x : Coroutine σ A ε α}, K x → K (attempt x)

namespace Closed

variable {K : ∀ {α : Type}, Coroutine σ A ε α → Prop} (closed : Closed K)

include closed

theorem called {q : Q} {f : A q → Coroutine σ A ε α} (rest : ∀ a, K (f a)) : K (Coroutine.call q >>= f) :=
  closed.bind (closed.call q) rest

theorem awaited {q : Q} {f : A q → Coroutine σ A ε α} (rest : ∀ a, K (f a)) : K (Coroutine.wait q >>= f) :=
  closed.bind (closed.wait q) rest

theorem ofExcept (result : Except ε α) : K (MonadExcept.ofExcept result : Coroutine σ A ε α) := by
  cases result with
  | ok a => exact closed.pure a
  | error e => exact closed.throw e

theorem tryCatch {x : Coroutine σ A ε α} {handler : ε → Coroutine σ A ε α} (body : K x)
    (handled : ∀ e, K (handler e)) : K (tryCatch x handler) := by
  refine closed.bind (closed.attempt body) fun result => ?_
  cases result with
  | ok a => exact closed.pure a
  | error e => exact handled e

theorem finallyDo {x : Coroutine σ A ε α} {cleanup : Coroutine σ A ε Unit} (body : K x)
    (cleaned : K cleanup) : K (finallyDo x cleanup) :=
  closed.bind (closed.attempt body) fun result =>
    closed.bind cleaned fun _ => closed.ofExcept result

omit closed in
theorem ite {c : Prop} [Decidable c] {x y : Coroutine σ A ε α} (holds : K x) (fails : K y) :
    K (if c then x else y) := by
  split
  · exact holds
  · exact fails

theorem forM {x : α → Coroutine σ A ε PUnit} {items : List α} (each : ∀ a ∈ items, K (x a)) :
    K (items.forM x) := by
  induction items with
  | nil => exact closed.pure _
  | cons a rest ih =>
    exact closed.bind (each a List.mem_cons_self) fun _ =>
      ih fun b later => each b (List.mem_cons_of_mem a later)

end Closed

theorem Preserves.closed (allowed : Nat → (q : Q) → A q → σ → Prop) (inv : σ → Prop) :
    Closed (fun {_} (x : Coroutine σ A ε _) => Preserves allowed inv x) where
  pure := Preserves.pure
  throw := Preserves.throw
  get := Preserves.get
  call := Preserves.call
  wait := Preserves.wait
  bind kept rest := kept.bind rest
  attempt kept := kept.attempt

/-- Programs that keep what a task relies on and the others leave alone. -/
theorem Triple.closed {D : Discipline σ A} {i : Nat} {P : σ → Prop} (inv : ∀ s, P s → D.inv s)
    (stable : ∀ s t, P s → D.rely i s t → D.inv t → P t) :
    Closed (fun {_} (x : Coroutine σ A ε _) => Triple D i P x (fun _ => P) fun _ => P) where
  pure _ := fun _ holds => holds
  throw _ := fun _ holds => holds
  get := fun _ holds => holds
  call _ := fun _ holds _ => holds
  wait _ := fun s holds => ⟨inv s holds, fun _ t moved later _ => stable s t holds moved later⟩
  bind kept rest := Triple.bind kept rest
  attempt kept := Triple.attempt kept

section Steps

variable (allowed : (q : Q) → A q → σ → Prop) (G : σ → σ → Prop)

/-- In a step that began in `s₀`, `x` runs on from `s`: each step that ends while it
runs guarantees `G`, and `post` or `exn` relates the beginning of the last one to its end. -/
def swp (post : α → σ → σ → Prop) (exn : ε → σ → σ → Prop) : Coroutine σ A ε α → σ → σ → Prop
  | done a, s₀, s => post a s₀ s
  | fail e, s₀, s => exn e s₀ s
  | get k, s₀, s => swp post exn (k s) s₀ s
  | set t k, s₀, _ => swp post exn k s₀ t
  | ask _ k, s₀, s => ∀ a, swp post exn (k a) s₀ s
  | await q k, s₀, s => G s₀ s ∧ ∀ a t, allowed q a t → swp post exn (k a) t t

variable {allowed G} {G' : σ → σ → Prop} {post : α → σ → σ → Prop} {exn : ε → σ → σ → Prop}
  {s₀ s : σ}

theorem swp_get {post : σ → σ → σ → Prop} :
    swp allowed G post exn (MonadState.get : Coroutine σ A ε σ) s₀ s ↔ post s s₀ s := Iff.rfl

theorem swp_bind {post : β → σ → σ → Prop} {x : Coroutine σ A ε α} {f : α → Coroutine σ A ε β}
    (holds : swp allowed G (fun a => swp allowed G post exn (f a)) exn x s₀ s) :
    swp allowed G post exn (x >>= f) s₀ s := by
  change swp allowed G post exn (bind f x) s₀ s
  induction x generalizing s₀ s with
  | done a => exact holds
  | fail e => exact holds
  | get k ih => exact ih s holds
  | set t k ih => exact ih holds
  | ask q k ih => exact fun a => ih a (holds a)
  | await q k ih => exact ⟨holds.1, fun a t answered => ih a (holds.2 a t answered)⟩

theorem swp_attempt {post : Except ε α → σ → σ → Prop} {x : Coroutine σ A ε α}
    (holds : swp allowed G (fun a => post (.ok a)) (fun e => post (.error e)) x s₀ s) :
    swp allowed G post exn (attempt x) s₀ s := by
  induction x generalizing s₀ s with
  | done a => exact holds
  | fail e => exact holds
  | get k ih => exact ih s holds
  | set t k ih => exact ih holds
  | ask q k ih => exact fun a => ih a (holds a)
  | await q k ih => exact ⟨holds.1, fun a t answered => ih a (holds.2 a t answered)⟩

theorem swp_mono {post' : α → σ → σ → Prop} {exn' : ε → σ → σ → Prop} {x : Coroutine σ A ε α}
    (holds : swp allowed G post exn x s₀ s) (weakerStep : ∀ s₀ s, G s₀ s → G' s₀ s)
    (weaker : ∀ a s₀ s, post a s₀ s → post' a s₀ s)
    (weakerExn : ∀ e s₀ s, exn e s₀ s → exn' e s₀ s) : swp allowed G' post' exn' x s₀ s := by
  induction x generalizing s₀ s with
  | done a => exact weaker a s₀ s holds
  | fail e => exact weakerExn e s₀ s holds
  | get k ih => exact ih s holds
  | set t k ih => exact ih holds
  | ask q k ih => exact fun a => ih a (holds a)
  | await q k ih =>
    exact ⟨weakerStep s₀ s holds.1, fun a t answered => ih a (holds.2 a t answered)⟩

theorem swp_finallyDo {x : Coroutine σ A ε α} {cleanup : Coroutine σ A ε Unit}
    (holds : swp allowed G (fun a => swp allowed G (fun _ => post a) exn cleanup)
      (fun e => swp allowed G (fun _ => exn e) exn cleanup) x s₀ s) :
    swp allowed G post exn (finallyDo x cleanup) s₀ s := by
  refine swp_bind (swp_attempt (swp_mono holds (fun _ _ kept => kept) ?_ ?_))
  · exact fun a _ _ cleaned => swp_bind cleaned
  · exact fun e _ _ cleaned => swp_bind cleaned

/-- Keeps to `G` in the step it is started in and in every step of its own. -/
def Guarded (allowed : (q : Q) → A q → σ → Prop) (G : σ → σ → Prop) (x : Coroutine σ A ε α) :
    Prop :=
  ∀ s₀ s, G s₀ s → swp allowed G (fun _ => G) (fun _ => G) x s₀ s

theorem Guarded.modify {f : σ → σ} (kept : ∀ s₀ s, G s₀ s → G s₀ (f s)) :
    Guarded allowed G (modify f : Coroutine σ A ε PUnit) :=
  kept

theorem Guarded.bind {x : Coroutine σ A ε α} {f : α → Coroutine σ A ε β} (kept : Guarded allowed G x)
    (weaker : ∀ s₀ s, G s₀ s → G' s₀ s) (rest : ∀ a, Guarded allowed G' (f a)) {s₀ s : σ}
    (holds : G s₀ s) : swp allowed G' (fun _ => G') (fun _ => G') (x >>= f) s₀ s :=
  swp_bind (swp_mono (kept s₀ s holds) weaker (fun a s₀ s later => rest a s₀ s (weaker s₀ s later))
    (fun _ => weaker))

theorem Guarded.closed (allowed : (q : Q) → A q → σ → Prop) (still : ∀ s, G s s) :
    Closed (fun {_} (x : Coroutine σ A ε _) => Guarded allowed G x) where
  pure _ := fun _ _ holds => holds
  throw _ := fun _ _ holds => holds
  get := fun _ _ holds => holds
  call _ := fun _ _ holds _ => holds
  wait _ := fun _ _ holds => ⟨holds, fun _ t _ => still t⟩
  bind kept rest := fun _ _ holds => kept.bind (fun _ _ later => later) rest holds
  attempt kept := fun s₀ s holds => swp_attempt (kept s₀ s holds)

end Steps

section Soundness

variable {allowed : Nat → (q : Q) → A q → σ → Prop} {G : Nat → σ → σ → Prop}

def Guarantees (allowed : (q : Q) → A q → σ → Prop) (G : σ → σ → Prop) (x : Coroutine σ A ε α) :
    Prop :=
  ∀ s, swp allowed G (fun _ => G) (fun _ => G) x s s

def Resumes (allowed : (q : Q) → A q → σ → Prop) (G : σ → σ → Prop) (x : Coroutine σ A ε α) :
    Prop :=
  ∃ q k, x = await q k ∧
    ∀ a t, allowed q a t → swp allowed G (fun _ => G) (fun _ => G) (k a) t t

theorem advance_guaranteed {allowed : (q : Q) → A q → σ → Prop} {G : σ → σ → Prop}
    {x : Coroutine σ A ε α} {s₀ s : σ} (holds : swp allowed G (fun _ => G) (fun _ => G) x s₀ s)
    (answer : Nat → (q : Q) → A q) (n : Nat) :
    G s₀ (advance x answer n s).2 ∧
      ∀ y, waiting (advance x answer n s).1 = some y → Resumes allowed G y := by
  induction x generalizing s n with
  | done a => exact ⟨holds, fun _ some => nomatch some⟩
  | fail e => exact ⟨holds, fun _ some => nomatch some⟩
  | get k ih => exact ih s holds n
  | set t k ih => exact ih holds n
  | ask q k ih => exact ih (answer n q) (holds (answer n q)) (n + 1)
  | await q k ih =>
    refine ⟨holds.1, fun y isAwait => ?_⟩
    cases isAwait
    exact ⟨q, k, rfl, holds.2⟩

theorem resumes_put {c : Config σ A ε α} {i : Nat} {x : Coroutine σ A ε α} {s₀ : σ}
    (known : ∀ j y, c.tasks j = some y → Resumes (allowed j) (G j) y)
    (answer : Nat → (q : Q) → A q)
    (holds : swp (allowed i) (G i) (fun _ => G i) (fun _ => G i) x s₀ c.shared) (j : Nat)
    (y : Coroutine σ A ε α) (present : (c.put i (advance x answer 0 c.shared)).tasks j = some y) :
    Resumes (allowed j) (G j) y := by
  by_cases same : j = i
  · subst same
    exact (advance_guaranteed holds answer 0).2 y ((if_pos rfl).symm.trans present)
  · exact known j y ((if_neg same).symm.trans present)

variable {programs : Nat → Coroutine σ A ε α → Prop}
  (guaranteed : ∀ i x, programs i x → Guarantees (allowed i) (G i) x)

include guaranteed

theorem reachable_resumes {s : σ} {c : Config σ A ε α} (reached : Reachable allowed programs s c)
    (i : Nat) (x : Coroutine σ A ε α) (present : c.tasks i = some x) :
    Resumes (allowed i) (G i) x := by
  induction reached generalizing i x with
  | refl => exact nomatch present
  | tail _ step ih =>
    cases step with
    | spawn answer absent isProgram =>
      exact resumes_put ih answer (guaranteed _ _ isProgram _) i x present
    | resume a answer waits answered =>
      obtain ⟨q, k, isAwait, resumes⟩ := ih _ _ waits
      cases isAwait
      exact resumes_put ih answer (resumes a _ answered) i x present

/-- A step of a run is a step of one task, and keeps to what that task guarantees. -/
theorem step_guaranteed {s : σ} {c d : Config σ A ε α} (reached : Reachable allowed programs s c)
    (step : Step allowed programs c d) :
    ∃ i, (∀ j, j ≠ i → d.tasks j = c.tasks j) ∧ G i c.shared d.shared := by
  cases step with
  | @spawn i x answer absent isProgram =>
    have kept := advance_guaranteed (guaranteed i x isProgram c.shared) answer 0
    exact ⟨i, fun j other => if_neg other, kept.1⟩
  | @resume i q k a answer present answered =>
    obtain ⟨q, k, isAwait, resumes⟩ := reachable_resumes guaranteed reached i _ present
    cases isAwait
    have kept := advance_guaranteed (resumes a c.shared answered) answer 0
    exact ⟨i, fun j other => if_neg other, kept.1⟩

end Soundness

end Coroutine
