import KuvaAI.Lib.Effect

/-! Programs of one thread over a lock that is not reentrant. -/
namespace OwnLock
open Effect

/-- What ends a program early. A thread that asks for the lock it holds is stuck: no
handler runs after that and nothing is released. -/
inductive Halt (ε : Type) where
  | raised (e : ε)
  | stuck

structure Guarded (σ : Type) where
  held : Bool
  state : σ

abbrev Prog (σ ε α : Type) := Effect (Guarded σ) (Halt ε) α

variable {σ ε α : Type}

def plain (x : Effect σ ε α) : Prog σ ε α := fun s =>
  match x s.state with
  | (.ok a, t) => (.ok a, ⟨s.held, t⟩)
  | (.error e, t) => (.error (.raised e), ⟨s.held, t⟩)

def withLock (x : Prog σ ε α) : Prog σ ε α := fun s =>
  if s.held then (.error .stuck, s)
  else match x ⟨true, s.state⟩ with
    | (.ok a, t) => (.ok a, ⟨false, t.state⟩)
    | (.error (.raised e), t) => (.error (.raised e), ⟨false, t.state⟩)
    | (.error .stuck, t) => (.error .stuck, t)

def catching (x : Prog σ ε α) (handler : ε → Prog σ ε α) : Prog σ ε α := fun s =>
  match x s with
  | (.error (.raised e), t) => handler e t
  | ended => ended

@[simp] theorem plain_modify (f : σ → σ) (s : Guarded σ) :
    plain (modify f : Effect σ ε PUnit) s = (.ok ⟨⟩, ⟨s.held, f s.state⟩) := rfl

def Free (x : Prog σ ε α) (s : Guarded σ) : Prop :=
  wp x (fun _ _ => True) (fun halt _ => halt ≠ .stuck) s

section Runs

variable {s u : Guarded σ}

theorem catching_of_ok {x : Prog σ ε α} {handler : ε → Prog σ ε α} {a : α}
    (ran : x s = (.ok a, u)) : catching x handler s = (.ok a, u) := by
  simp [catching, ran]

theorem catching_of_raised {x : Prog σ ε α} {handler : ε → Prog σ ε α} {e : ε}
    (ran : x s = (.error (.raised e), u)) : catching x handler s = handler e u := by
  simp [catching, ran]

theorem catching_of_stuck {x : Prog σ ε α} {handler : ε → Prog σ ε α}
    (ran : x s = (.error .stuck, u)) : catching x handler s = (.error .stuck, u) := by
  simp [catching, ran]

theorem free_of_ok {x : Prog σ ε α} {a : α} (ran : x s = (.ok a, u)) : Free x s := by
  simp [Free, wp_of_ok ran]

theorem free_of_raised {x : Prog σ ε α} {e : ε} (ran : x s = (.error (.raised e), u)) :
    Free x s := by
  simp [Free, wp_of_error ran]

theorem not_free {x : Prog σ ε α} (ran : x s = (.error .stuck, u)) : ¬ Free x s := by
  simp [Free, wp_of_error ran]

end Runs

end OwnLock
