import Mathlib.Data.List.Chain
import Mathlib.Data.List.TakeDrop

/-! Reversals of a part of a list. They rearrange it, and they lead from a list to each of
its rearrangements in fewer steps than it has elements. -/
namespace Reversal

variable {α : Type}

def reverseBetween (i j : Nat) (xs : List α) : List α :=
  xs.take i ++ ((xs.take (j + 1)).drop i).reverse ++ xs.drop (j + 1)

def Reversed (xs ys : List α) : Prop := ∃ i j, i < j ∧ j < xs.length ∧ ys = reverseBetween i j xs

theorem reverseBetween_perm {i j : Nat} (xs : List α) (ordered : i ≤ j) :
    (reverseBetween i j xs).Perm xs := by
  have upTo : (xs.take (j + 1)).take i ++ (xs.take (j + 1)).drop i = xs.take (j + 1) :=
    List.take_append_drop i _
  rw [List.take_take, Nat.min_eq_left (by omega)] at upTo
  have same : xs.take i ++ (xs.take (j + 1)).drop i ++ xs.drop (j + 1) = xs := by
    rw [upTo, List.take_append_drop]
  conv_rhs => rw [← same]
  exact ((List.reverse_perm _).append_left _).append_right _

@[simp] theorem reverseBetween_cons (i j : Nat) (a : α) (xs : List α) :
    reverseBetween (i + 1) (j + 1) (a :: xs) = a :: reverseBetween i j xs := by
  simp [reverseBetween]

theorem reverseBetween_front (before : List α) (a : α) (after : List α) :
    reverseBetween 0 before.length (before ++ a :: after) = a :: (before.reverse ++ after) := by
  have longer := Nat.le_succ before.length
  simp [reverseBetween, List.take_append, List.drop_append, List.take_of_length_le longer,
    List.drop_of_length_le longer]

theorem Reversed.perm {xs ys : List α} (reversed : Reversed xs ys) : ys.Perm xs := by
  obtain ⟨i, j, ordered, _, rfl⟩ := reversed
  exact reverseBetween_perm xs ordered.le

theorem Reversed.cons {xs ys : List α} (a : α) (reversed : Reversed xs ys) :
    Reversed (a :: xs) (a :: ys) := by
  obtain ⟨i, j, ordered, within, rfl⟩ := reversed
  exact ⟨i + 1, j + 1, Nat.succ_lt_succ ordered, Nat.succ_lt_succ within, by simp⟩

structure Path (xs : List α) (visited : List (List α)) (ys : List α) : Prop where
  chain : List.IsChain Reversed (xs :: visited)
  ends : (xs :: visited).getLast? = some ys

theorem Path.refl (xs : List α) : Path xs [] xs := ⟨.singleton xs, rfl⟩

theorem Path.head {xs ys zs : List α} {visited : List (List α)} (step : Reversed xs ys)
    (path : Path ys visited zs) : Path xs (ys :: visited) zs :=
  ⟨path.chain.cons_cons step, by rw [List.getLast?_cons_cons, path.ends]⟩

theorem Path.cons {xs ys : List α} {visited : List (List α)} (a : α) (path : Path xs visited ys) :
    Path (a :: xs) (visited.map (a :: ·)) (a :: ys) := by
  have mapped : (a :: xs) :: visited.map (a :: ·) = (xs :: visited).map (a :: ·) := rfl
  constructor
  · rw [mapped, List.isChain_map]
    exact path.chain.imp fun _ _ reversed => reversed.cons a
  · rw [mapped, List.getLast?_map, path.ends]
    rfl

theorem Path.perm {xs ys : List α} {visited : List (List α)} (path : Path xs visited ys) :
    ys.Perm xs := by
  obtain ⟨chain, ends⟩ := path
  induction visited generalizing xs with
  | nil =>
    cases ends
    exact .refl _
  | cons next visited ih =>
    rw [List.isChain_cons_cons] at chain
    exact (ih chain.2 (by rwa [List.getLast?_cons_cons] at ends)).trans chain.1.perm

theorem exists_path {xs ys : List α} (perm : xs.Perm ys) :
    ∃ visited, Path xs visited ys ∧ visited.length ≤ xs.length - 1 := by
  induction ys generalizing xs with
  | nil =>
    obtain rfl := perm.eq_nil
    exact ⟨[], .refl _, Nat.le_refl 0⟩
  | cons y ys ih =>
    obtain ⟨before, after, rfl⟩ := List.append_of_mem (perm.mem_iff.mpr List.mem_cons_self)
    have rest : (before.reverse ++ after).Perm ys := by
      apply List.Perm.cons_inv (a := y)
      exact (((List.reverse_perm before).append_right after).cons y).trans
        (List.perm_middle.symm.trans perm)
    obtain ⟨visited, path, short⟩ := ih rest
    cases before with
    | nil =>
      refine ⟨visited.map (y :: ·), path.cons y, ?_⟩
      simp only [List.length_map, List.reverse_nil, List.nil_append, List.length_cons] at short ⊢
      omega
    | cons first before =>
      have brought : Reversed (first :: before ++ y :: after)
          (y :: ((first :: before).reverse ++ after)) :=
        ⟨0, (first :: before).length, by simp, by simp, (reverseBetween_front _ _ _).symm⟩
      refine ⟨_, (path.cons y).head brought, ?_⟩
      simp only [List.length_cons, List.length_map, List.length_append, List.length_reverse]
        at short ⊢
      omega

/-- Reversals lead to exactly the rearrangements. -/
theorem perm_iff_path {xs ys : List α} : ys.Perm xs ↔
    ∃ visited, Path xs visited ys ∧ visited.length ≤ xs.length - 1 := by
  constructor
  · exact fun perm => exists_path perm.symm
  · rintro ⟨visited, path, _⟩
    exact path.perm

end Reversal
