import KuvaAI.Lib.Coroutine

/-! What a program has asked when it runs with no other task, and what it was told. -/
namespace Coroutine

variable {σ Q ε α β : Type} {A : Q → Type}

/-- The awaits that are over, with their answers, the latest last. -/
abbrev Transcript (A : Q → Type) := List (Σ q, A q)

inductive Passes (allowed : (q : Q) → A q → σ → Prop) (x : Coroutine σ A ε α) (s : σ) :
    Transcript A → Coroutine σ A ε α → σ → Prop where
  | start (answer) : Passes allowed x s [] (advance x answer 0 s).1 (advance x answer 0 s).2
  | resume {told q k t} (a answer) : Passes allowed x s told (await q k) t → allowed q a t →
      Passes allowed x s (told ++ [⟨q, a⟩]) (advance (k a) answer 0 t).1 (advance (k a) answer 0 t).2

/-- Run on after `told`, a program that is left alone ends in `post` or fails in `exn`. -/
def twp (allowed : (q : Q) → A q → σ → Prop) (post : α → Transcript A → σ → Prop)
    (exn : ε → Transcript A → σ → Prop) : Coroutine σ A ε α → Transcript A → σ → Prop
  | done a, told, s => post a told s
  | fail e, told, s => exn e told s
  | get k, told, s => twp allowed post exn (k s) told s
  | set t k, told, _ => twp allowed post exn k told t
  | ask _ k, told, s => ∀ a, twp allowed post exn (k a) told s
  | await q k, told, s => ∀ a, allowed q a s → twp allowed post exn (k a) (told ++ [⟨q, a⟩]) s

variable {allowed : (q : Q) → A q → σ → Prop} {post : α → Transcript A → σ → Prop}
  {exn : ε → Transcript A → σ → Prop} {told : Transcript A} {s : σ}

@[simp] theorem twp_pure (a : α) :
    twp allowed post exn (pure a : Coroutine σ A ε α) told s ↔ post a told s := Iff.rfl

@[simp] theorem twp_throw (e : ε) :
    twp allowed post exn (throw e : Coroutine σ A ε α) told s ↔ exn e told s := Iff.rfl

@[simp] theorem twp_get {post : σ → Transcript A → σ → Prop} :
    twp allowed post exn (MonadState.get : Coroutine σ A ε σ) told s ↔ post s told s := Iff.rfl

@[simp] theorem twp_modify {post : PUnit → Transcript A → σ → Prop} (f : σ → σ) :
    twp allowed post exn (modify f : Coroutine σ A ε PUnit) told s ↔ post ⟨⟩ told (f s) := Iff.rfl

@[simp] theorem twp_call {q : Q} {post : A q → Transcript A → σ → Prop} :
    twp allowed post exn (call q : Coroutine σ A ε (A q)) told s ↔ ∀ a, post a told s := Iff.rfl

@[simp] theorem twp_wait {q : Q} {post : A q → Transcript A → σ → Prop} :
    twp allowed post exn (wait q : Coroutine σ A ε (A q)) told s ↔
      ∀ a, allowed q a s → post a (told ++ [⟨q, a⟩]) s := Iff.rfl

@[simp] theorem twp_bind {post : β → Transcript A → σ → Prop} (x : Coroutine σ A ε α)
    (f : α → Coroutine σ A ε β) :
    twp allowed post exn (x >>= f) told s ↔
      twp allowed (fun a => twp allowed post exn (f a)) exn x told s := by
  change twp allowed post exn (bind f x) told s ↔ _
  induction x generalizing told s with
  | done a => rfl
  | fail e => rfl
  | get k ih => exact ih s
  | set t k ih => exact ih
  | ask q k ih => exact forall_congr' fun a => ih a
  | await q k ih => exact forall_congr' fun a => imp_congr_right fun _ => ih a

@[simp] theorem twp_attempt {post : Except ε α → Transcript A → σ → Prop} (x : Coroutine σ A ε α) :
    twp allowed post exn (attempt x) told s ↔
      twp allowed (fun a => post (.ok a)) (fun e => post (.error e)) x told s := by
  induction x generalizing told s with
  | done a => rfl
  | fail e => rfl
  | get k ih => exact ih s
  | set t k ih => exact ih
  | ask q k ih => exact forall_congr' fun a => ih a
  | await q k ih => exact forall_congr' fun a => imp_congr_right fun _ => ih a

theorem twp_tryCatch (x : Coroutine σ A ε α) (handler : ε → Coroutine σ A ε α) :
    twp allowed post exn (tryCatch x handler) told s ↔
      twp allowed post (fun e => twp allowed post exn (handler e)) x told s := by
  refine (twp_bind (attempt x) _).trans ?_
  rw [twp_attempt]
  rfl

theorem twp_mono {post' : α → Transcript A → σ → Prop} {exn' : ε → Transcript A → σ → Prop}
    {x : Coroutine σ A ε α} (holds : twp allowed post exn x told s)
    (weaker : ∀ a told s, post a told s → post' a told s)
    (weakerExn : ∀ e told s, exn e told s → exn' e told s) : twp allowed post' exn' x told s := by
  induction x generalizing told s with
  | done a => exact weaker a told s holds
  | fail e => exact weakerExn e told s holds
  | get k ih => exact ih s holds
  | set t k ih => exact ih holds
  | ask q k ih => exact fun a => ih a (holds a)
  | await q k ih => exact fun a answered => ih a (holds a answered)

theorem twp_finallyDo {x : Coroutine σ A ε α} {cleanup : Coroutine σ A ε Unit}
    (holds : twp allowed (fun a => twp allowed (fun _ => post a) exn cleanup)
      (fun e => twp allowed (fun _ => exn e) exn cleanup) x told s) :
    twp allowed post exn (finallyDo x cleanup) told s := by
  rw [finallyDo, twp_bind, twp_attempt]
  refine twp_mono holds (fun a told s cleaned => ?_) fun e told s cleaned => ?_
  · exact (twp_bind _ _).mpr cleaned
  · exact (twp_bind _ _).mpr cleaned

theorem twp_advance {x : Coroutine σ A ε α} (holds : twp allowed post exn x told s)
    (answer : Nat → (q : Q) → A q) (n : Nat) :
    twp allowed post exn (advance x answer n s).1 told (advance x answer n s).2 := by
  induction x generalizing s n with
  | done a => exact holds
  | fail e => exact holds
  | get k ih => exact ih s holds n
  | set t k ih => exact ih holds n
  | ask q k ih => exact ih (answer n q) (holds (answer n q)) (n + 1)
  | await q k ih => exact holds

theorem passes_twp {x y : Coroutine σ A ε α} {t : σ} (holds : twp allowed post exn x [] s)
    (passes : Passes allowed x s told y t) : twp allowed post exn y told t := by
  induction passes with
  | start answer => exact twp_advance holds answer 0
  | resume a answer _ answered ih => exact twp_advance (ih a answered) answer 0

theorem passes_ended {x : Coroutine σ A ε α} {a : α} {t : σ} (holds : twp allowed post exn x [] s)
    (passes : Passes allowed x s told (done a) t) : post a told t :=
  passes_twp holds passes

end Coroutine
