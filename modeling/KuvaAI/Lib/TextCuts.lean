import Mathlib.Data.List.Infix

/-! Texts that are put together from parts with a mark between them, and when the parts
can be told from the text. -/
namespace TextCuts

variable {α : Type} {mark : α} {a b c d : List α}

/-- Two ways to cut a text at a mark: the same one, or the first part of one goes on to a
mark of the other. -/
theorem cut_cases (same : a ++ mark :: b = c ++ mark :: d) :
    (a = c ∧ b = d) ∨ (∃ more, a = c ++ mark :: more ∧ d = more ++ mark :: b) ∨
      ∃ more, c = a ++ mark :: more ∧ b = more ++ mark :: d := by
  rcases List.append_eq_append_iff.mp same with ⟨rest, rfl, tail⟩ | ⟨rest, rfl, tail⟩
  · cases rest with
    | nil => exact .inl ⟨(List.append_nil a).symm, (List.cons.inj tail).2⟩
    | cons x more =>
      obtain ⟨rfl, rfl⟩ := List.cons.inj tail
      exact .inr (.inr ⟨more, rfl, rfl⟩)
  · cases rest with
    | nil => exact .inl ⟨List.append_nil c, (List.cons.inj tail).2.symm⟩
    | cons x more =>
      obtain ⟨rfl, rfl⟩ := List.cons.inj tail
      exact .inr (.inl ⟨more, rfl, rfl⟩)

theorem mark_after (unmarked : mark ∉ a) (same : a ++ b = c ++ mark :: d) :
    ∃ more, c = a ++ more ∧ b = more ++ mark :: d := by
  rcases List.append_eq_append_iff.mp same with ⟨more, split, rest⟩ | ⟨more, rfl, rest⟩
  · exact ⟨more, split, rest⟩
  · cases more with
    | nil => exact ⟨[], (List.append_nil _).symm ▸ (List.append_nil _).symm, rest.symm⟩
    | cons x more =>
      obtain ⟨rfl, _⟩ := List.cons.inj rest
      exact (unmarked (List.mem_append_right _ List.mem_cons_self)).elim

theorem pair_unique {x y : α} (differ : x ≠ y) (front : ¬ [x, y] <:+: a) (back : ¬ [x, y] <:+: b)
    (same : a ++ x :: y :: b = c ++ x :: y :: d) : a = c ∧ b = d := by
  rcases List.append_eq_append_iff.mp same with ⟨rest, rfl, tail⟩ | ⟨rest, rfl, tail⟩
  · match rest with
    | [] =>
      obtain ⟨_, later⟩ := List.cons.inj tail
      exact ⟨(List.append_nil a).symm, (List.cons.inj later).2⟩
    | [z] =>
      obtain ⟨_, later⟩ := List.cons.inj tail
      exact (differ (List.cons.inj later).1.symm).elim
    | z :: z' :: more =>
      obtain ⟨rfl, later⟩ := List.cons.inj tail
      obtain ⟨rfl, split⟩ := List.cons.inj later
      exact (back ⟨more, d, by simpa using split.symm⟩).elim
  · match rest with
    | [] =>
      obtain ⟨_, later⟩ := List.cons.inj tail
      exact ⟨List.append_nil c, (List.cons.inj later).2.symm⟩
    | [z] =>
      obtain ⟨_, later⟩ := List.cons.inj tail
      exact (differ (List.cons.inj later).1.symm).elim
    | z :: z' :: more =>
      obtain ⟨rfl, later⟩ := List.cons.inj tail
      obtain ⟨rfl, _⟩ := List.cons.inj later
      exact (front ⟨c, more, by simp⟩).elim

theorem first_mark {p : α → Prop} {m m' : α} (front : ∀ x ∈ a, ¬ p x) (front' : ∀ x ∈ c, ¬ p x)
    (mark : p m) (mark' : p m') (same : a ++ m :: b = c ++ m' :: d) : a = c ∧ m = m' ∧ b = d := by
  induction a generalizing c with
  | nil =>
    cases c with
    | nil => exact ⟨rfl, List.cons.inj same⟩
    | cons y c =>
      obtain ⟨rfl, -⟩ := List.cons.inj same
      exact (front' m List.mem_cons_self mark).elim
  | cons x a ih =>
    cases c with
    | nil =>
      obtain ⟨rfl, -⟩ := List.cons.inj same
      exact (front x List.mem_cons_self mark').elim
    | cons y c =>
      obtain ⟨rfl, rest⟩ := List.cons.inj same
      obtain ⟨rfl, others⟩ := ih (fun z mem => front z (List.mem_cons_of_mem _ mem))
        (fun z mem => front' z (List.mem_cons_of_mem _ mem)) rest
      exact ⟨rfl, others⟩

def Breaks (mark : α) (rest : List α) : Prop := rest = [] ∨ ∃ more, rest = mark :: more

theorem line_end (front : mark ∉ a) (front' : mark ∉ c) (breaks : Breaks mark b)
    (breaks' : Breaks mark d) (same : a ++ b = c ++ d) : a = c ∧ b = d := by
  have unmarked : ∀ {l : List α}, mark ∉ l → ∀ x ∈ l, ¬ x = mark :=
    fun none x mem isMark => none (isMark ▸ mem)
  rcases breaks with rfl | ⟨more, rfl⟩ <;> rcases breaks' with rfl | ⟨more', rfl⟩
  · exact ⟨by simpa using same, rfl⟩
  · exact (front (by simpa using congrArg (mark ∈ ·) same)).elim
  · exact (front' (by simpa using congrArg (mark ∈ ·) same)).elim
  · obtain ⟨rfl, -, rfl⟩ := first_mark (unmarked front) (unmarked front') rfl rfl same
    exact ⟨rfl, rfl⟩

section Three

variable {first second third : List α}

/-- The parts are the only three that are not empty and give the text. -/
def Determined (mark : α) (first second third : List α) : Prop :=
  ∀ a b c : List α, a ≠ [] → b ≠ [] → c ≠ [] →
    a ++ mark :: (b ++ mark :: c) = first ++ mark :: (second ++ mark :: third) →
    a = first ∧ b = second ∧ c = third

theorem mem_tail_append {more : List α} (nonempty : a ≠ []) : mark ∈ (a ++ mark :: more).tail := by
  cases a with
  | nil => exact (nonempty rfl).elim
  | cons x a => exact List.mem_append_right _ List.mem_cons_self

theorem mem_dropLast_append {more : List α} (nonempty : more ≠ []) :
    mark ∈ (a ++ mark :: more).dropLast := by
  rw [List.dropLast_append_of_ne_nil (List.cons_ne_nil mark more), List.dropLast_cons_of_ne_nil nonempty]
  exact List.mem_append_right _ List.mem_cons_self

theorem mem_tail_cut (marked : mark ∈ a.tail) : ∃ start more, a = start ++ mark :: more ∧ start ≠ [] := by
  cases a with
  | nil => cases marked
  | cons x a =>
    obtain ⟨start, more, rfl⟩ := List.append_of_mem marked
    exact ⟨x :: start, more, rfl, List.cons_ne_nil _ _⟩

theorem mem_dropLast_cut (marked : mark ∈ a.dropLast) :
    ∃ start more, a = start ++ mark :: more ∧ more ≠ [] := by
  obtain ⟨start, more, split⟩ := List.append_of_mem marked
  have nonempty : a ≠ [] := by
    rintro rfl
    cases marked
  refine ⟨start, more ++ [a.getLast nonempty], ?_, by simp⟩
  rw [← List.cons_append, ← List.append_assoc, ← split, List.dropLast_concat_getLast]

theorem single_cut {start more : List α} (single : start ++ mark :: more = [mark]) :
    start = [] ∧ more = [] := by
  cases start with
  | nil => exact ⟨rfl, (List.cons.inj single).2⟩
  | cons x start =>
    have nothing := (List.cons.inj single).2
    simp at nothing

theorem determined_of_unmarked (front : mark ∉ first.tail) (middle : second = [mark] ∨ mark ∉ second)
    (back : mark ∉ third.dropLast) : Determined mark first second third := by
  intro a b c nonemptyA nonemptyB nonemptyC same
  have whole : ∀ {more : List α}, third = more ++ mark :: c → False := fun split =>
    back (split ▸ mem_dropLast_append nonemptyC)
  have empty : ∀ {start more : List α}, second = start ++ mark :: more → start = [] ∧ more = [] := by
    intro start more split
    rcases middle with single | unmarked
    · exact single_cut (split ▸ single)
    · exact (unmarked (split ▸ List.mem_append_right _ List.mem_cons_self)).elim
  rcases cut_cases same with ⟨isFirst, later⟩ | ⟨more, isFirst, later⟩ | ⟨more, isFirst, _⟩
  · rcases cut_cases later with ⟨isSecond, isThird⟩ | ⟨more, _, isThird⟩ | ⟨more, isSecond, _⟩
    · exact ⟨isFirst, isSecond, isThird⟩
    · exact (whole isThird).elim
    · exact (nonemptyB (empty isSecond).1).elim
  · -- The first part has taken the mark after it, and then the second or its only mark.
    rcases cut_cases later with ⟨_, isThird⟩ | ⟨rest, isSecond, last⟩ | ⟨rest, _, isThird⟩
    · exact (whole isThird).elim
    · obtain ⟨rfl, rfl⟩ := empty isSecond
      cases b with
      | nil => exact (nonemptyB rfl).elim
      | cons x b => exact (whole (List.cons.inj last).2.symm).elim
    · rw [← List.cons_append, ← List.append_assoc] at isThird
      exact (whole isThird).elim
  · exact (front (isFirst ▸ mem_tail_append nonemptyA)).elim

/-- The parts can be told from the text exactly if there are no marks in them, but for one
at the start, one at the end, and one that is all of the second part. -/
theorem determined_iff (nonemptyFirst : first ≠ []) (nonemptySecond : second ≠ []) (nonemptyThird : third ≠ []) :
    Determined mark first second third ↔
      mark ∉ first.tail ∧ (second = [mark] ∨ mark ∉ second) ∧ mark ∉ third.dropLast := by
  constructor
  · intro determined
    refine ⟨fun marked => ?_, ?_, fun marked => ?_⟩
    · obtain ⟨start, more, rfl, nonempty⟩ := mem_tail_cut marked
      have other := (determined start (more ++ mark :: second) third nonempty (by simp) nonemptyThird
        (by simp)).1
      simp at other
    · by_contra several
      obtain ⟨single, marked⟩ := not_or.mp several
      obtain ⟨start, more, rfl⟩ := List.append_of_mem (not_not.mp marked)
      by_cases front : start = []
      · have back : more ≠ [] := by
          rintro rfl
          exact single (by rw [front]; rfl)
        have other := (determined (first ++ mark :: start) more third (by simp) back nonemptyThird
          (by simp)).1
        simp at other
      · have other := (determined first start (more ++ mark :: third) nonemptyFirst front (by simp)
          (by simp)).2.1
        simp at other
    · obtain ⟨start, more, rfl, nonempty⟩ := mem_dropLast_cut marked
      have other := (determined first (second ++ mark :: start) more nonemptyFirst (by simp) nonempty
        (by simp)).2.1
      simp at other
  · rintro ⟨front, middle, back⟩
    exact determined_of_unmarked front middle back

theorem Determined.no_fourth (determined : Determined mark first second third) {d : List α}
    (nonemptyA : a ≠ []) (nonemptyB : b ≠ []) (nonemptyD : d ≠ []) :
    a ++ mark :: (b ++ mark :: (c ++ mark :: d)) ≠ first ++ mark :: (second ++ mark :: third) := by
  intro same
  have one := determined a b (c ++ mark :: d) nonemptyA nonemptyB (by simp) same
  have two := determined a (b ++ mark :: c) d nonemptyA (by simp) nonemptyD (by simpa using same)
  have equal := one.2.1.trans two.2.1.symm
  simp at equal

end Three

end TextCuts
