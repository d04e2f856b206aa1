import KuvaAI.Workflow.CycleValidator
import KuvaAI.Lib.Rotation

/-! The cycles that the validators report: one list for all rotations of a cycle. -/
namespace KuvaAI.Validator
open Rotation

theorem simplifyCycle_eq (cycle : List String) : simplifyCycle cycle = leastFirst cycle := by
  unfold simplifyCycle leastFirst
  cases cycle.min? <;> rfl

theorem simplifyCycle_slices {cycle : List String} (nonempty : cycle ≠ []) :
    ∃ least ∈ cycle, (∀ name ∈ cycle, least ≤ name) ∧
      simplifyCycle cycle =
        cycle.drop (cycle.idxOf least) ++ cycle.take (cycle.idxOf least) := by
  cases found : cycle.min? with
  | none => exact absurd (List.min?_eq_none_iff.mp found) nonempty
  | some least =>
    obtain ⟨member, below⟩ := List.min?_eq_some_iff.mp found
    have within := List.idxOf_lt_length_of_mem member
    refine ⟨least, member, below, ?_⟩
    rw [simplifyCycle, found, ← List.rotate_eq_drop_append_take within.le]

theorem simplifyCycle_starts {cycle : List String} (nonempty : cycle ≠ []) :
    ∃ least rest, simplifyCycle cycle = least :: rest ∧ ∀ name ∈ cycle, least ≤ name := by
  obtain ⟨least, member, below, slices⟩ := simplifyCycle_slices nonempty
  have within := List.idxOf_lt_length_of_mem member
  rw [List.drop_eq_getElem_cons within, List.getElem_idxOf] at slices
  exact ⟨least, _, slices, below⟩

/-- The report of a cycle is its rotation from the least name on, and two cycles have one
report exactly if they are rotations of each other. -/
theorem reports_canonical (cycle : List String) (nonempty : cycle ≠ []) (nodup : cycle.Nodup) :
    (simplifyCycle cycle).IsRotated cycle ∧
    (∃ least rest, simplifyCycle cycle = least :: rest ∧ ∀ name ∈ cycle, least ≤ name) ∧
    simplifyCycle (simplifyCycle cycle) = simplifyCycle cycle ∧
    ∀ other : List String, simplifyCycle cycle = simplifyCycle other ↔ cycle.IsRotated other := by
  have starts := simplifyCycle_starts nonempty
  have rotated := leastFirst_isRotated cycle
  simp only [simplifyCycle_eq] at starts ⊢
  refine ⟨rotated, starts, ?_, fun other => leastFirst_eq_iff nodup⟩
  exact ((leastFirst_eq_iff nodup).mpr rotated.symm).symm

theorem billing_reported : (["billing", "audit", "core"] : List String).Nodup ∧
    (simplifyCycle ["billing", "audit", "core"]).IsRotated ["billing", "audit", "core"] ∧
    simplifyCycle ["billing", "audit", "core"] = ["audit", "core", "billing"] := by
  have canonical := reports_canonical ["billing", "audit", "core"] (by simp) (by simp)
  exact ⟨by simp, canonical.1, by decide +kernel⟩

end KuvaAI.Validator
