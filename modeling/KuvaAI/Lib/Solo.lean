import KuvaAI.Lib.Effect
import KuvaAI.Lib.StepGuarantee
import KuvaAI.Lib.Transcript

/-! A program that runs with no other task, from its start to its end. What it asks is
answered by number, and what it has waited for is kept with the answers. -/
namespace Coroutine

variable {σ Q ε α β : Type} {A : Q → Type}

/-- How many answers have been given, the awaits that are over, and the state. -/
structure Solo (σ : Type) {Q : Type} (A : Q → Type) where
  asked : Nat
  told : Transcript A
  state : σ

def Solo.start (s : σ) : Solo σ A := ⟨0, [], s⟩

section Runs

variable (answer : Nat → (q : Q) → A q)

def solo : Coroutine σ A ε α → Effect (Solo σ A) ε α
  | done a => pure a
  | fail e => throw e
  | get k => fun w => solo (k w.state) w
  | set t k => fun w => solo k { w with state := t }
  | ask q k => fun w => solo (k (answer w.asked q)) { w with asked := w.asked + 1 }
  | await q k => fun w =>
    solo (k (answer w.asked q))
      { w with asked := w.asked + 1, told := w.told ++ [⟨q, answer w.asked q⟩] }

/-- Run to its end from `w`, the program ends in `post` or fails in `exn`. -/
abbrev ends (post : α → Solo σ A → Prop) (exn : ε → Solo σ A → Prop) (x : Coroutine σ A ε α)
    (w : Solo σ A) : Prop :=
  Effect.wp (solo answer x) post exn w

variable {post : α → Solo σ A → Prop} {exn : ε → Solo σ A → Prop} {w : Solo σ A}

theorem ends_pure (a : α) : ends answer post exn (pure a) w ↔ post a w := Iff.rfl

theorem ends_get {post : σ → Solo σ A → Prop} :
    ends answer post exn (MonadState.get : Coroutine σ A ε σ) w ↔ post w.state w := Iff.rfl

theorem ends_modify {post : PUnit → Solo σ A → Prop} (f : σ → σ) :
    ends answer post exn (modify f : Coroutine σ A ε PUnit) w ↔
      post ⟨⟩ { w with state := f w.state } := Iff.rfl

theorem ends_call {q : Q} {post : A q → Solo σ A → Prop} :
    ends answer post exn (call q : Coroutine σ A ε (A q)) w ↔
      post (answer w.asked q) { w with asked := w.asked + 1 } := Iff.rfl

theorem ends_wait {q : Q} {post : A q → Solo σ A → Prop} :
    ends answer post exn (wait q : Coroutine σ A ε (A q)) w ↔
      post (answer w.asked q)
        { w with asked := w.asked + 1, told := w.told ++ [⟨q, answer w.asked q⟩] } := Iff.rfl

theorem solo_bind (x : Coroutine σ A ε α) (f : α → Coroutine σ A ε β) :
    solo answer (x >>= f) = solo answer x >>= fun a => solo answer (f a) := by
  change solo answer (bind f x) = _
  induction x with
  | done a => rfl
  | fail e => rfl
  | get k ih => exact funext fun w => congrFun (ih w.state) w
  | set t k ih => exact funext fun w => congrFun ih _
  | ask q k ih => exact funext fun w => congrFun (ih _) _
  | await q k ih => exact funext fun w => congrFun (ih _) _

theorem solo_get_bind (f : σ → Coroutine σ A ε β) :
    solo answer (MonadState.get >>= f) w = solo answer (f w.state) w := by
  rw [solo_bind]
  rfl

theorem ends_bind {post : β → Solo σ A → Prop} (x : Coroutine σ A ε α)
    (f : α → Coroutine σ A ε β) :
    ends answer post exn (x >>= f) w ↔
      ends answer (fun a => ends answer post exn (f a)) exn x w := by
  rw [ends, solo_bind, Effect.wp_bind]

theorem ends_attempt {post : Except ε α → Solo σ A → Prop} (x : Coroutine σ A ε α) :
    ends answer post exn (attempt x) w ↔
      ends answer (fun a => post (.ok a)) (fun e => post (.error e)) x w := by
  induction x generalizing w with
  | done a => rfl
  | fail e => rfl
  | get k ih => exact ih w.state
  | set t k ih => exact ih
  | ask q k ih => exact ih _
  | await q k ih => exact ih _

theorem ends_tryCatch (x : Coroutine σ A ε α) (handler : ε → Coroutine σ A ε α) :
    ends answer post exn (tryCatch x handler) w ↔
      ends answer post (fun e => ends answer post exn (handler e)) x w := by
  refine (ends_bind answer (attempt x) _).trans ?_
  rw [ends_attempt]
  rfl

theorem ends_first {x : Coroutine σ A ε α} {reached : α → Solo σ A → Prop}
    (holds : ends answer reached (fun _ _ => False) x w) (f : α → Coroutine σ A ε β)
    (post : β → Solo σ A → Prop) (exn : ε → Solo σ A → Prop) :
    ∃ a v, reached a v ∧ (ends answer post exn (x >>= f) w ↔ ends answer post exn (f a) v) := by
  obtain ⟨a, v, ran, reached⟩ := Effect.exists_of_wp holds
  refine ⟨a, v, reached, ?_⟩
  rw [ends_bind]
  exact Effect.wp_of_ok ran

theorem ends_ofExcept (result : Except ε α) :
    ends answer post exn (MonadExcept.ofExcept result : Coroutine σ A ε α) w ↔
      match result with
      | .ok a => post a w
      | .error e => exn e w := by
  cases result <;> rfl

theorem ends_finallyDo {x : Coroutine σ A ε α} {cleanup : Coroutine σ A ε Unit} :
    ends answer post exn (finallyDo x cleanup) w ↔
      ends answer (fun a => ends answer (fun _ => post a) exn cleanup)
        (fun e => ends answer (fun _ => exn e) exn cleanup) x w := by
  rw [finallyDo, ends_bind, ends_attempt]
  constructor
  · intro holds
    apply Effect.wp_mono holds
    · exact fun a v cleaned => (ends_bind answer _ _).mp cleaned
    · exact fun e v cleaned => (ends_bind answer _ _).mp cleaned
  · intro holds
    apply Effect.wp_mono holds
    · exact fun a v cleaned => (ends_bind answer _ _).mpr cleaned
    · exact fun e v cleaned => (ends_bind answer _ _).mpr cleaned

theorem ends_ite {c : Prop} [Decidable c] {x y : Coroutine σ A ε α}
    (holds : c → ends answer post exn x w) (fails : ¬ c → ends answer post exn y w) :
    ends answer post exn (if c then x else y) w := by
  split
  · exact holds ‹c›
  · exact fails ‹¬ c›

theorem told_prefix (x : Coroutine σ A ε α) (w : Solo σ A) :
    w.told <+: (solo answer x w).2.told := by
  induction x generalizing w with
  | done a => exact List.prefix_refl _
  | fail e => exact List.prefix_refl _
  | get k ih => exact ih w.state w
  | set t k ih => exact ih { w with state := t }
  | ask q k ih => exact ih (answer w.asked q) { w with asked := w.asked + 1 }
  | await q k ih => exact (List.prefix_append _ [⟨q, answer w.asked q⟩]).trans (ih _ ⟨_, _, _⟩)

def KeepsAlone (inv : σ → Prop) (x : Coroutine σ A ε α) : Prop :=
  ∀ w, inv w.state → ends answer (fun _ v => inv v.state) (fun _ v => inv v.state) x w

theorem KeepsAlone.closed (inv : σ → Prop) :
    Closed (fun {_} (x : Coroutine σ A ε _) => KeepsAlone answer inv x) where
  pure _ _ holds := holds
  throw _ _ holds := holds
  get _ holds := holds
  call _ _ holds := holds
  wait _ _ holds := holds
  bind kept rest w holds := by
    rw [ends_bind]
    exact Effect.wp_mono (kept w holds) (fun a v holds => rest a v holds) fun _ _ holds => holds
  attempt kept w holds := (ends_attempt answer _).mpr (kept w holds)

end Runs

section Interleaving

def ended : Except ε α → Coroutine σ A ε α
  | .ok a => done a
  | .error e => fail e

variable {allowed : (q : Q) → A q → σ → Prop} {answer : Nat → (q : Q) → A q}

theorem passes_solo (allows : ∀ n q s, allowed q (answer n q) s) {x y : Coroutine σ A ε α} {s t : σ}
    {told : Transcript A} (n m : Nat)
    (passes : Passes allowed x s told (advance y (fun i => answer (n + i)) m t).1
      (advance y (fun i => answer (n + i)) m t).2) :
    Passes allowed x s (solo answer y ⟨n + m, told, t⟩).2.told
      (ended (solo answer y ⟨n + m, told, t⟩).1) (solo answer y ⟨n + m, told, t⟩).2.state := by
  induction y generalizing n m t told with
  | done a => exact passes
  | fail e => exact passes
  | get k ih => exact ih t n m passes
  | set u k ih => exact ih n m passes
  | ask q k ih => exact ih _ n (m + 1) passes
  | await q k ih =>
    exact ih _ (n + m + 1) 0
      (.resume _ (fun i => answer (n + m + 1 + i)) passes (allows (n + m) q t))

theorem solo_passes (allows : ∀ n q s, allowed q (answer n q) s) (x : Coroutine σ A ε α) (s : σ) :
    Passes allowed x s (solo answer x (.start s)).2.told (ended (solo answer x (.start s)).1)
      (solo answer x (.start s)).2.state :=
  passes_solo allows 0 0 (.start fun i => answer (0 + i))

end Interleaving

end Coroutine
