import Mathlib.Data.List.Infix

/-! Histories: what happened, the latest last, and properties of each event that look
at what came before it. -/
namespace History

variable {E : Type}

def Each (P : List E → E → Prop) (history : List E) : Prop :=
  ∀ before e, before ++ [e] <+: history → P before e

variable {P : List E → E → Prop} {history : List E} {e : E}

theorem each_nil : Each P [] := by
  intro before e begins
  simp at begins

theorem each_snoc : Each P (history ++ [e]) ↔ Each P history ∧ P history e := by
  constructor
  · intro each
    refine ⟨fun before a begins => ?_, each history e (List.prefix_refl _)⟩
    exact each before a (begins.trans (List.prefix_append _ _))
  · rintro ⟨each, last⟩ before a begins
    rcases List.prefix_concat_iff.mp begins with same | earlier
    · obtain ⟨rfl, last'⟩ := List.append_inj' same rfl
      cases last'
      exact last
    · exact each before a earlier

end History
