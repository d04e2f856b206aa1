import Mathlib.Data.List.Basic
import Mathlib.Data.List.Infix

/-! Runs of a state machine, and what holds in every state of them. -/
namespace Runs

variable {S A : Type} (step : S → A → S)

def run (s : S) (actions : List A) : S := actions.foldl step s

@[simp] theorem run_nil (s : S) : run step s [] = s := rfl

@[simp] theorem run_cons (s : S) (a : A) (rest : List A) :
    run step s (a :: rest) = run step (step s a) rest := rfl

theorem run_append (s : S) (first rest : List A) :
    run step s (first ++ rest) = run step (run step s first) rest :=
  List.foldl_append

/-- Something holds after every part of a run that begins it. -/
def Always (Good : S → Prop) (s : S) (actions : List A) : Prop :=
  ∀ first, first <+: actions → Good (run step s first)

/-- Every step of a run is taken in a state in which it is clean. -/
def Each (Clean : S → A → Prop) (s : S) (actions : List A) : Prop :=
  ∀ first a, first ++ [a] <+: actions → Clean (run step s first) a

section Cons

variable {step}

theorem always_nil {Good : S → Prop} {s : S} : Always step Good s [] ↔ Good s := by
  constructor
  · exact fun always => always [] (List.prefix_refl [])
  · intro good first begins
    rw [List.prefix_nil.mp begins]
    exact good

theorem always_cons {Good : S → Prop} {s : S} {a : A} {rest : List A} :
    Always step Good s (a :: rest) ↔ Good s ∧ Always step Good (step s a) rest := by
  constructor
  · intro always
    refine ⟨always [] List.nil_prefix, ?_⟩
    exact fun first begins => always (a :: first) (List.cons_prefix_cons.mpr ⟨rfl, begins⟩)
  · rintro ⟨good, always⟩ first begins
    cases first with
    | nil => exact good
    | cons b first =>
      obtain ⟨rfl, rest⟩ := List.cons_prefix_cons.mp begins
      exact always first rest

theorem each_nil {Clean : S → A → Prop} {s : S} : Each step Clean s [] := by
  intro first a begins
  simp at begins

theorem each_cons {Clean : S → A → Prop} {s : S} {a : A} {rest : List A} :
    Each step Clean s (a :: rest) ↔ Clean s a ∧ Each step Clean (step s a) rest := by
  constructor
  · intro each
    refine ⟨each [] a (List.cons_prefix_cons.mpr ⟨rfl, List.nil_prefix⟩), ?_⟩
    exact fun first b begins => each (a :: first) b (List.cons_prefix_cons.mpr ⟨rfl, begins⟩)
  · rintro ⟨clean, each⟩ first b begins
    cases first with
    | nil =>
      obtain ⟨rfl, _⟩ := List.cons_prefix_cons.mp begins
      exact clean
    | cons c first =>
      obtain ⟨rfl, rest⟩ := List.cons_prefix_cons.mp begins
      exact each first b rest

theorem each_congr {Clean Clean' : S → A → Prop} (same : ∀ s a, Clean s a ↔ Clean' s a) (s : S)
    (actions : List A) : Each step Clean s actions ↔ Each step Clean' s actions := by
  constructor
  · exact fun each first a begins => (same _ a).mp (each first a begins)
  · exact fun each first a begins => (same _ a).mpr (each first a begins)

theorem each_congr_inv {Inv : S → Prop} {Clean Clean' : S → A → Prop}
    (keeps : ∀ s a, Inv s → Inv (step s a)) (same : ∀ s a, Inv s → (Clean s a ↔ Clean' s a)) (s : S)
    (actions : List A) (inv : Inv s) : Each step Clean s actions ↔ Each step Clean' s actions := by
  induction actions generalizing s with
  | nil => exact iff_of_true each_nil each_nil
  | cons a rest ih =>
    rw [each_cons, each_cons]
    exact and_congr (same s a inv) (ih (step s a) (keeps s a inv))

theorem invariant {Inv : S → Prop} (keeps : ∀ s a, Inv s → Inv (step s a)) (s : S)
    (actions : List A) (inv : Inv s) : Inv (run step s actions) := by
  induction actions generalizing s with
  | nil => exact inv
  | cons a rest ih => exact ih (step s a) (keeps s a inv)

theorem always_iff_each_of_mem (Inv : S → Prop) {Good : S → Prop} {Clean : S → A → Prop} (s : S)
    (actions : List A) (keeps : ∀ s, ∀ a ∈ actions, Inv s → Inv (step s a))
    (exact_ : ∀ s, ∀ a ∈ actions, Inv s → Good s → (Good (step s a) ↔ Clean s a))
    (inv : Inv s) (good : Good s) : Always step Good s actions ↔ Each step Clean s actions := by
  induction actions generalizing s with
  | nil => exact iff_of_true (always_nil.mpr good) each_nil
  | cons a rest ih =>
    have here := exact_ s a List.mem_cons_self inv good
    have later := ih (step s a) (fun s b hb => keeps s b (List.mem_cons_of_mem _ hb))
      (fun s b hb => exact_ s b (List.mem_cons_of_mem _ hb)) (keeps s a List.mem_cons_self inv)
    rw [always_cons, each_cons]
    constructor
    · rintro ⟨_, always⟩
      have next : Good (step s a) := always [] List.nil_prefix
      exact ⟨here.mp next, (later next).mp always⟩
    · rintro ⟨clean, each⟩
      exact ⟨good, (later (here.mpr clean)).mpr each⟩

/-- When a step keeps what is good exactly if it is clean, a run is good all along
exactly if all its steps are clean. -/
theorem always_iff_each {Inv Good : S → Prop} {Clean : S → A → Prop}
    (keeps : ∀ s a, Inv s → Inv (step s a))
    (exact_ : ∀ s a, Inv s → Good s → (Good (step s a) ↔ Clean s a)) (s : S) (actions : List A)
    (inv : Inv s) (good : Good s) : Always step Good s actions ↔ Each step Clean s actions :=
  always_iff_each_of_mem Inv s actions (fun s a _ => keeps s a) (fun s a _ => exact_ s a) inv good

theorem always_iff_last {Good : S → Prop} (stays : ∀ s a, Good (step s a) → Good s) (s : S)
    (actions : List A) : Always step Good s actions ↔ Good (run step s actions) := by
  induction actions generalizing s with
  | nil => exact always_nil
  | cons a rest ih =>
    rw [always_cons, ih (step s a), run_cons]
    constructor
    · exact fun both => both.2
    · intro last
      have next : Good (step s a) := (ih (step s a)).mpr last [] List.nil_prefix
      exact ⟨stays s a next, last⟩

end Cons

end Runs
