import Mathlib.Data.List.Sort

/-! First match of a scan over a stable sort. The sort is by a key in a linear
order; elements of equal key keep their list order, so the element a scan stops
at is described on the unsorted list alone. -/
namespace StableSelect

variable {α κ : Type} [LinearOrder κ] (key : α → κ)

def sortOn (xs : List α) : List α := xs.insertionSort (fun a b => key a ≤ key b)

/-- `a` satisfies `q`, no earlier element with a key at most its own does, and
no later element with a smaller key does. -/
def Leads (q : α → Prop) (xs : List α) (a : α) : Prop :=
  ∃ before after, xs = before ++ a :: after ∧ q a ∧
    (∀ b ∈ before, key b ≤ key a → ¬ q b) ∧ (∀ b ∈ after, key b < key a → ¬ q b)

theorem sortOn_cons (x : α) (xs : List α) :
    sortOn key (x :: xs) = (sortOn key xs).orderedInsert (fun a b => key a ≤ key b) x :=
  List.insertionSort_cons _ _ _

theorem sortOn_perm (xs : List α) : (sortOn key xs).Perm xs := List.perm_insertionSort _ xs

@[simp] theorem mem_sortOn (xs : List α) (a : α) : a ∈ sortOn key xs ↔ a ∈ xs :=
  (sortOn_perm key xs).mem_iff

theorem sortOn_sorted (xs : List α) : (sortOn key xs).Pairwise (fun a b => key a ≤ key b) := by
  have total : Std.Total (fun a b : α => key a ≤ key b) := ⟨fun a b => le_total (key a) (key b)⟩
  have trans : IsTrans α (fun a b => key a ≤ key b) := ⟨fun _ _ _ hab hbc => le_trans hab hbc⟩
  exact List.pairwise_insertionSort _ xs

/-- Inserting into a sorted list changes the first match only when the new
element matches and no match has a smaller key. -/
theorem find?_orderedInsert (q : α → Bool) (x : α) (xs : List α)
    (sorted : xs.Pairwise (fun a b => key a ≤ key b)) :
    (xs.orderedInsert (fun a b => key a ≤ key b) x).find? q =
      if q x then
        match xs.find? q with
        | none => some x
        | some y => if key x ≤ key y then some x else some y
      else xs.find? q := by
  induction xs with
  | nil => cases hx : q x <;> simp [hx]
  | cons y ys ih =>
    obtain ⟨least, tail⟩ := List.pairwise_cons.mp sorted
    by_cases le : key x ≤ key y
    · rw [List.orderedInsert_cons_of_le _ ys le, List.find?_cons]
      cases hx : q x with
      | false => simp
      | true =>
        cases found : (y :: ys).find? q with
        | none => simp
        | some z =>
          have below : key x ≤ key z := by
            rcases List.mem_cons.mp (List.mem_of_find?_eq_some found) with same | later
            · exact same ▸ le
            · exact le_trans le (least z later)
          simp [below]
    · rw [List.orderedInsert_of_not_le _ ys le, List.find?_cons, List.find?_cons, ih tail]
      cases hy : q y with
      | false => simp
      | true => simp [le]

theorem leads_cons (q : α → Prop) (x : α) (xs : List α) (a : α) :
    Leads key q (x :: xs) a ↔
      (a = x ∧ q x ∧ ∀ b ∈ xs, key b < key x → ¬ q b) ∨
      (Leads key q xs a ∧ (key x ≤ key a → ¬ q x)) := by
  constructor
  · rintro ⟨before, after, split, hit, early, late⟩
    cases before with
    | nil =>
      obtain ⟨rfl, rfl⟩ := List.cons.inj split
      exact .inl ⟨rfl, hit, late⟩
    | cons b before =>
      obtain ⟨rfl, rfl⟩ := List.cons.inj split
      exact .inr ⟨⟨before, after, rfl, hit, fun c hc => early c (List.mem_cons_of_mem _ hc), late⟩,
        early x List.mem_cons_self⟩
  · rintro (⟨rfl, hit, late⟩ | ⟨⟨before, after, rfl, hit, early, late⟩, first⟩)
    · exact ⟨[], xs, rfl, hit, by simp, late⟩
    · refine ⟨x :: before, after, rfl, hit, ?_, late⟩
      intro b hb
      rcases List.mem_cons.mp hb with rfl | hb
      · exact first
      · exact early b hb

theorem Leads.least {q : α → Prop} {xs : List α} {a : α} (lead : Leads key q xs a) :
    a ∈ xs ∧ q a ∧ ∀ b ∈ xs, q b → key a ≤ key b := by
  obtain ⟨before, after, rfl, hit, early, late⟩ := lead
  refine ⟨by simp, hit, ?_⟩
  intro b hb hq
  rcases List.mem_append.mp hb with hb | hb
  · exact le_of_not_ge (fun le => early b hb le hq)
  · rcases List.mem_cons.mp hb with rfl | hb
    · exact le_rfl
    · exact le_of_not_gt (fun lt => late b hb lt hq)

theorem find?_sortOn_eq_none (q : α → Bool) (xs : List α) :
    (sortOn key xs).find? q = none ↔ ∀ a ∈ xs, q a = false := by
  simp [List.find?_eq_none]

theorem find?_sortOn_eq_some (q : α → Bool) (xs : List α) (a : α) :
    (sortOn key xs).find? q = some a ↔ Leads key (fun b => q b = true) xs a := by
  induction xs generalizing a with
  | nil => simp [sortOn, Leads]
  | cons x xs ih =>
    rw [sortOn_cons, find?_orderedInsert key q x _ (sortOn_sorted key xs), leads_cons]
    cases hx : q x with
    | false => simp [ih]
    | true =>
      cases found : (sortOn key xs).find? q with
      | none =>
        have absent := (find?_sortOn_eq_none key q xs).mp found
        have nobody : ¬ Leads key (fun b => q b = true) xs a := by
          intro lead
          have least := lead.least
          simp [absent a least.1] at least
        simp only [nobody, false_and, or_false, if_true, Option.some.injEq, true_and]
        exact ⟨fun same => ⟨same.symm, fun b hb _ => by simp [absent b hb]⟩, fun h => h.1.symm⟩
      | some y =>
        have lead := (ih y).mp found
        have only : ∀ b, Leads key (fun b => q b = true) xs b ↔ b = y := by
          intro b
          rw [← ih b, found, Option.some.injEq, eq_comm]
        by_cases le : key x ≤ key y
        · have least : ∀ b ∈ xs, key b < key x → ¬ q b = true := by
            intro b hb lt hq
            exact absurd (lead.least.2.2 b hb hq) (not_le_of_gt (lt_of_lt_of_le lt le))
          simp only [if_true, le, only, Option.some.injEq, true_and, not_true_eq_false, imp_false]
          constructor
          · exact fun same => .inl ⟨same.symm, least⟩
          · rintro (⟨same, _⟩ | ⟨rfl, off⟩)
            · exact same.symm
            · exact absurd le off
        · have blocked : ¬ ∀ b ∈ xs, key b < key x → ¬ q b = true := fun h =>
            h y lead.least.1 (lt_of_not_ge le) lead.least.2.1
          simp only [if_true, if_neg le, only, Option.some.injEq, not_true_eq_false,
            imp_false, blocked, and_false, false_or]
          constructor
          · rintro rfl
            exact ⟨rfl, le⟩
          · exact fun h => h.1.symm

theorem leads_head (q : α → Prop) (xs : List α) {a : α} (hit : q a)
    (least : ∀ b ∈ xs, q b → key a ≤ key b) : Leads key q (a :: xs) a :=
  ⟨[], xs, rfl, hit, by simp, fun b hb lt hq => absurd (least b hb hq) (not_le_of_gt lt)⟩

/-- The front holds elements of the list that have the least keys, in the order of these. -/
structure Leading (front xs : List α) : Prop where
  least : ∃ rest, (front ++ rest).Perm xs ∧ ∀ a ∈ front, ∀ b ∈ rest, key a ≤ key b
  sorted : front.Pairwise fun a b => key a ≤ key b

theorem take_sortOn_leading (k : Nat) (xs : List α) : Leading key ((sortOn key xs).take k) xs := by
  have sorted := sortOn_sorted key xs
  rw [← List.take_append_drop k (sortOn key xs), List.pairwise_append] at sorted
  constructor
  · refine ⟨(sortOn key xs).drop k, ?_, sorted.2.2⟩
    rw [List.take_append_drop]
    exact sortOn_perm key xs
  · exact sorted.1

section Fronts

variable {key} {front xs : List α} (leading : Leading key front xs)
include leading

theorem Leading.subset : ∀ a ∈ front, a ∈ xs := by
  obtain ⟨rest, perm, _⟩ := leading.least
  intro a member
  exact perm.mem_iff.mp (List.mem_append_left rest member)

theorem Leading.exists_le (some : front ≠ []) : ∀ b ∈ xs, ∃ a ∈ front, key a ≤ key b := by
  obtain ⟨rest, perm, below⟩ := leading.least
  intro b member
  rcases List.mem_append.mp (perm.mem_iff.mpr member) with inside | outside
  · exact ⟨b, inside, le_refl _⟩
  · obtain ⟨a, first⟩ := List.exists_mem_of_ne_nil front some
    exact ⟨a, first, below a first b outside⟩

end Fronts

end StableSelect
