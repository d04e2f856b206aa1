/-! Programs with a state and exceptions, and the weakest preconditions of their
runs. An exception keeps what the state has become by then, as it does in a
language whose objects are mutable. -/

def Effect (σ ε α : Type) : Type := σ → Except ε α × σ

namespace Effect

variable {σ ε α β : Type}

instance : Monad (Effect σ ε) where
  pure a := fun s => (.ok a, s)
  bind x f := fun s =>
    match x s with
    | (.ok a, t) => f a t
    | (.error e, t) => (.error e, t)

instance : MonadExceptOf ε (Effect σ ε) where
  throw e := fun s => (.error e, s)
  tryCatch x handler := fun s =>
    match x s with
    | (.ok a, t) => (.ok a, t)
    | (.error e, t) => handler e t

instance : MonadStateOf σ (Effect σ ε) where
  get := fun s => (.ok s, s)
  set s := fun _ => (.ok (), s)
  modifyGet f := fun s => (.ok (f s).1, (f s).2)

theorem modify_run (f : σ → σ) (s : σ) : (modify f : Effect σ ε PUnit) s = (.ok ⟨⟩, f s) := rfl

def fromExcept (x : Except ε α) : Effect σ ε α := fun s => (x, s)

def finallyDo (x : Effect σ ε α) (cleanup : σ → σ) : Effect σ ε α := fun s =>
  ((x s).1, cleanup (x s).2)

/-- Runs `cleanup` however `x` ends. An exception of it takes the place of that end. -/
def ensuring (x : Effect σ ε α) (cleanup : Effect σ ε PUnit) : Effect σ ε α := fun s =>
  match cleanup (x s).2 with
  | (.ok _, t) => ((x s).1, t)
  | (.error e, t) => (.error e, t)

/-- From `s`, a normal end of `x` satisfies `post` and an exception `exn`. -/
def wp (x : Effect σ ε α) (post : α → σ → Prop) (exn : ε → σ → Prop) (s : σ) : Prop :=
  match x s with
  | (.ok a, t) => post a t
  | (.error e, t) => exn e t

section Rules

variable (post : α → σ → Prop) (exn : ε → σ → Prop) (s : σ)

@[simp] theorem wp_get (post : σ → σ → Prop) :
    wp (get : Effect σ ε σ) post exn s ↔ post s s := Iff.rfl

@[simp] theorem wp_set (post : PUnit → σ → Prop) (t : σ) :
    wp (set t : Effect σ ε PUnit) post exn s ↔ post ⟨⟩ t := Iff.rfl

@[simp] theorem wp_pure (a : α) : wp (pure a : Effect σ ε α) post exn s ↔ post a s := Iff.rfl

@[simp] theorem wp_throw (e : ε) : wp (throw e : Effect σ ε α) post exn s ↔ exn e s := Iff.rfl

@[simp] theorem wp_fromExcept_ok (a : α) :
    wp (fromExcept (.ok a) : Effect σ ε α) post exn s ↔ post a s := Iff.rfl

@[simp] theorem wp_fromExcept_error (e : ε) :
    wp (fromExcept (.error e) : Effect σ ε α) post exn s ↔ exn e s := Iff.rfl

@[simp] theorem wp_modify (post : PUnit → σ → Prop) (f : σ → σ) :
    wp (modify f : Effect σ ε PUnit) post exn s ↔ post ⟨⟩ (f s) := Iff.rfl

@[simp] theorem wp_bind (x : Effect σ ε α) (f : α → Effect σ ε β) (post : β → σ → Prop) :
    wp (x >>= f) post exn s ↔ wp x (fun a => wp (f a) post exn) exn s := by
  simp only [wp, bind]
  cases x s with
  | mk result t => cases result <;> rfl

@[simp] theorem wp_tryCatch (x : Effect σ ε α) (handler : ε → Effect σ ε α) :
    wp (tryCatch x handler) post exn s ↔
      wp x post (fun e => wp (handler e) post exn) s := by
  simp only [wp, tryCatch, tryCatchThe, MonadExceptOf.tryCatch]
  cases x s with
  | mk result t => cases result <;> rfl

@[simp] theorem wp_finallyDo (x : Effect σ ε α) (cleanup : σ → σ) :
    wp (finallyDo x cleanup) post exn s ↔
      wp x (fun a t => post a (cleanup t)) (fun e t => exn e (cleanup t)) s := by
  simp only [wp, finallyDo]
  cases x s with
  | mk result t => cases result <;> rfl

@[simp] theorem wp_ensuring (x : Effect σ ε α) (cleanup : Effect σ ε PUnit) :
    wp (ensuring x cleanup) post exn s ↔
      wp x (fun a t => wp cleanup (fun _ u => post a u) exn t)
        (fun e t => wp cleanup (fun _ u => exn e u) exn t) s := by
  simp only [wp, ensuring]
  cases x s with
  | mk result t =>
    cases cleaned : cleanup t with
    | mk ended u => cases result <;> cases ended <;> simp [cleaned]

@[simp] theorem wp_ite (c : Prop) [Decidable c] (x y : Effect σ ε α) :
    wp (if c then x else y) post exn s ↔ if c then wp x post exn s else wp y post exn s := by
  split <;> rfl

theorem wp_state (x : Effect σ ε α) (holds : σ → Prop) :
    wp x (fun _ => holds) (fun _ => holds) s ↔ holds (x s).2 := by
  simp only [wp]
  cases x s with
  | mk result t => cases result <;> rfl

theorem wp_result (x : Effect σ ε α) (result : Except ε α) (holds : σ → Prop) :
    wp x (fun a t => result = .ok a ∧ holds t) (fun e t => result = .error e ∧ holds t) s ↔
      (x s).1 = result ∧ holds (x s).2 := by
  simp only [wp]
  cases x s with
  | mk ended t => cases ended <;> simp [eq_comm]

variable {post exn s}

theorem wp_of_ok {x : Effect σ ε α} {a : α} {t : σ} (ran : x s = (.ok a, t)) :
    wp x post exn s ↔ post a t := by
  rw [wp, ran]

theorem wp_of_error {x : Effect σ ε α} {e : ε} {t : σ} (ran : x s = (.error e, t)) :
    wp x post exn s ↔ exn e t := by
  rw [wp, ran]

theorem wp_of_eq_ok {x : Effect σ ε α} {a : α} {t : σ} (holds : wp x post exn s)
    (ran : x s = (.ok a, t)) : post a t :=
  (wp_of_ok ran).mp holds

theorem wp_cases {x : Effect σ ε α} (holds : wp x post exn s) :
    (∃ a t, x s = (.ok a, t) ∧ post a t) ∨ ∃ e t, x s = (.error e, t) ∧ exn e t := by
  cases ran : x s with
  | mk result t =>
    cases result with
    | ok a => exact .inl ⟨a, t, rfl, (wp_of_ok ran).mp holds⟩
    | error e => exact .inr ⟨e, t, rfl, (wp_of_error ran).mp holds⟩

theorem wp_mono {x : Effect σ ε α} {post' : α → σ → Prop} {exn' : ε → σ → Prop}
    (holds : wp x post exn s) (weaker : ∀ a t, post a t → post' a t)
    (weakerExn : ∀ e t, exn e t → exn' e t) : wp x post' exn' s := by
  rcases wp_cases holds with ⟨a, t, ran, ended⟩ | ⟨e, t, ran, failed⟩
  · exact (wp_of_ok ran).mpr (weaker a t ended)
  · exact (wp_of_error ran).mpr (weakerExn e t failed)

theorem wp_of_forall {x : Effect σ ε α} (holds : ∀ a t, post a t) (holdsExn : ∀ e t, exn e t) :
    wp x post exn s := by
  have anything : wp x (fun _ _ => True) (fun _ _ => True) s :=
    (wp_state s x fun _ => True).mpr trivial
  exact wp_mono anything (fun a t _ => holds a t) fun e t _ => holdsExn e t

theorem exists_of_wp {x : Effect σ ε α} (holds : wp x post (fun _ _ => False) s) :
    ∃ a t, x s = (.ok a, t) ∧ post a t := by
  rcases wp_cases holds with ended | ⟨_, _, _, failed⟩
  · exact ended
  · exact failed.elim

theorem exists_of_wp_error {x : Effect σ ε α} (holds : wp x (fun _ _ => False) exn s) :
    ∃ e t, x s = (.error e, t) ∧ exn e t := by
  rcases wp_cases holds with ⟨_, _, _, ended⟩ | failed
  · exact ended.elim
  · exact failed

end Rules

def Triple (pre : σ → Prop) (x : Effect σ ε α) (post : α → σ → Prop) (exn : ε → σ → Prop) : Prop :=
  ∀ s, pre s → wp x post exn s

namespace Triple

variable {pre : σ → Prop} {x : Effect σ ε α} {post : α → σ → Prop} {exn : ε → σ → Prop}

theorem bind {f : α → Effect σ ε β} {last : β → σ → Prop} (first : Triple pre x post exn)
    (rest : ∀ a, Triple (post a) (f a) last exn) : Triple pre (x >>= f) last exn := by
  intro s holds
  rw [wp_bind]
  apply wp_mono (first s holds)
  · exact fun a t reached => rest a t reached
  · exact fun _ _ raised => raised

theorem tryCatch {handler : ε → Effect σ ε α} {exn' : ε → σ → Prop} (body : Triple pre x post exn)
    (handled : ∀ e, Triple (exn e) (handler e) post exn') :
    Triple pre (tryCatch x handler) post exn' := by
  intro s holds
  rw [wp_tryCatch]
  apply wp_mono (body s holds)
  · exact fun _ _ reached => reached
  · exact fun e t raised => handled e t raised

theorem ite {c : Prop} [Decidable c] {y : Effect σ ε α} (holds : Triple pre x post exn)
    (fails : Triple pre y post exn) : Triple pre (if c then x else y) post exn := by
  split
  · exact holds
  · exact fails

end Triple

end Effect
