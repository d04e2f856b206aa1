import Mathlib.Algebra.Order.Chebyshev
import Mathlib.Algebra.BigOperators.Fin
import Mathlib.Algebra.Order.Field.Basic
import Mathlib.Tactic.Ring
import Mathlib.Tactic.Linarith
import Mathlib.Tactic.FieldSimp

/-! The spread of finitely many values: how far one of them can lie from their mean, and how
many can lie far from it. -/
namespace Spread

variable {F : Type} [Field F]

def mean (values : List F) : F := values.sum / values.length

def squares (values : List F) : F := (values.map fun v => (v - mean values) ^ 2).sum

def variance (values : List F) : F := squares values / values.length

theorem sum_map_sub (values : List F) (m : F) :
    (values.map fun v => v - m).sum = values.sum - values.length * m := by
  induction values with
  | nil => simp
  | cons v rest ih =>
    simp only [List.map_cons, List.sum_cons, List.length_cons, ih]
    push_cast
    ring

variable [LinearOrder F] [IsStrictOrderedRing F]

theorem variance_replicate (n : Nat) (v : F) : variance (List.replicate n v) = 0 := by
  cases n with
  | zero => simp [variance]
  | succ n =>
    have positive : ((n + 1 : Nat) : F) ≠ 0 := Nat.cast_ne_zero.mpr n.succ_ne_zero
    have middle : mean (List.replicate (n + 1) v) = v := by
      rw [mean, List.sum_replicate, List.length_replicate, nsmul_eq_mul]
      exact mul_div_cancel_left₀ v positive
    rw [variance, squares, middle, List.map_replicate, sub_self]
    simp

theorem length_pos {values : List F} (some : values ≠ []) : (0 : F) < values.length :=
  Nat.cast_pos.mpr (List.length_pos_iff.mpr some)

theorem sum_deviations {values : List F} (some : values ≠ []) :
    (values.map fun v => v - mean values).sum = 0 := by
  have positive := length_pos some
  rw [sum_map_sub, mean]
  field_simp
  ring

theorem variance_nonneg (values : List F) : 0 ≤ variance values := by
  refine div_nonneg (List.sum_nonneg fun x member => ?_) (Nat.cast_nonneg _)
  obtain ⟨v, -, rfl⟩ := List.mem_map.mp member
  exact sq_nonneg _

theorem sq_sum_le (values : List F) :
    values.sum ^ 2 ≤ values.length * (values.map fun v => v ^ 2).sum := by
  have cauchy := sq_sum_le_card_mul_sum_sq (s := Finset.univ)
    (f := fun i : Fin values.length => values[i.1])
  rwa [Finset.card_univ, Fintype.card_fin, Fin.sum_univ_getElem,
    Fin.sum_univ_fun_getElem values fun v => v ^ 2] at cauchy

/-- One value is as far from the mean as all others together, so that it can only be so far. -/
theorem sq_deviation_le {values : List F} {x : F} (member : x ∈ values) :
    values.length * (x - mean values) ^ 2 ≤ (values.length - 1) * squares values := by
  have some := List.ne_nil_of_mem member
  set m := mean values with isMean
  have perm := List.perm_cons_erase member
  set others := values.erase x
  have length : (values.length : F) = others.length + 1 := by
    rw [perm.length_eq, List.length_cons]
    push_cast
    ring
  have even : (x - m) + (others.map fun v => v - m).sum = 0 := by
    rw [← sum_deviations some, ← isMean, (perm.map fun v => v - m).sum_eq]
    rfl
  have all : squares values = (x - m) ^ 2 + (others.map fun v => (v - m) ^ 2).sum := by
    rw [squares, ← isMean, (perm.map fun v => (v - m) ^ 2).sum_eq]
    rfl
  have opposite : (others.map fun v => v - m).sum = -(x - m) := by linarith
  have cauchy := sq_sum_le (others.map fun v => v - m)
  rw [List.length_map, List.map_map, opposite, neg_sq] at cauchy
  rw [length, all]
  change _ ≤ _ * (others.map fun v => (v - m) ^ 2).sum at cauchy
  linarith

/-- Those that are further off than some distance have their share of the spread. -/
theorem count_far_le {values : List F} {t : F} (far : List F) (sub : far.Sublist values)
    (distance : ∀ v ∈ far, t ≤ (v - mean values) ^ 2) : far.length * t ≤ squares values := by
  have together : (far.map fun v => (v - mean values) ^ 2).sum ≤ squares values := by
    refine (sub.map _).sum_le_sum fun x member => ?_
    obtain ⟨v, -, rfl⟩ := List.mem_map.mp member
    exact sq_nonneg _
  refine le_trans ?_ together
  have each := List.card_nsmul_le_sum (far.map fun v => (v - mean values) ^ 2) t ?_
  · simpa using each
  · intro x member
    obtain ⟨v, within, rfl⟩ := List.mem_map.mp member
    exact distance v within

section Scores

variable {values : List F} {sd t : F} (root : sd * sd = variance values) (varies : sd ≠ 0)

include root varies

theorem variance_pos : 0 < variance values := by
  rw [← root]
  exact mul_self_pos.mpr varies

theorem length_mul_variance : values.length * variance values = squares values := by
  have nonzero : (values.length : F) ≠ 0 := by
    intro none
    have positive := variance_pos root varies
    rw [variance, none, div_zero] at positive
    exact lt_irrefl 0 positive
  rw [variance, mul_div_cancel₀ _ nonzero]

theorem sq_of_score {x : F} (nonneg : 0 ≤ t) (beyond : t < |(x - mean values) / sd|) :
    t ^ 2 * variance values < (x - mean values) ^ 2 := by
  have squared : t ^ 2 < ((x - mean values) / sd) ^ 2 := by
    rw [← sq_abs ((x - mean values) / sd)]
    exact pow_lt_pow_left₀ beyond nonneg two_ne_zero
  have positive := variance_pos root varies
  rw [div_pow, sq sd, root] at squared
  exact (lt_div_iff₀ positive).mp squared

theorem score_le_of_few {x : F} (nonneg : 0 ≤ t) (member : x ∈ values)
    (few : (values.length : F) - 1 ≤ t ^ 2) : |(x - mean values) / sd| ≤ t := by
  by_contra beyond
  have away := sq_of_score root varies nonneg (not_le.mp beyond)
  have bound := sq_deviation_le member
  have positive := variance_pos root varies
  have some := length_pos (List.ne_nil_of_mem member)
  rw [← length_mul_variance root varies, mul_left_comm] at bound
  have near := le_of_mul_le_mul_left bound some
  exact absurd (lt_of_lt_of_le away near) (not_lt.mpr (mul_le_mul_of_nonneg_right few positive.le))

theorem count_scores_le (nonneg : 0 ≤ t) (far : List F) (sub : far.Sublist values)
    (beyond : ∀ v ∈ far, t < |(v - mean values) / sd|) : far.length * t ^ 2 ≤ values.length := by
  have share := count_far_le far sub fun v member =>
    (sq_of_score root varies nonneg (beyond v member)).le
  rw [← length_mul_variance root varies, ← mul_assoc] at share
  exact le_of_mul_le_mul_right share (variance_pos root varies)

end Scores

end Spread
