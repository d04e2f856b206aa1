import Mathlib.Data.List.Infix

/-! The shell-style patterns of `fnmatch`, in which a path is globbed. -/
namespace KuvaAI.Python

/-- What a pattern is made of. A bracket lists ranges of characters, and one that is
turned around lists none. -/
inductive GlobPart where
  | star
  | any
  | lit (c : Char)
  | bracket (negated : Bool) (ranges : List (Char × Char))
  deriving DecidableEq

def bracketRanges : List Char → List (Char × Char)
  | lo :: '-' :: hi :: rest => (lo, hi) :: bracketRanges rest
  | c :: rest => (c, c) :: bracketRanges rest
  | [] => []

/-- What a bracket lists, if it is closed. The end of it as its first character is listed. -/
def bracketed (pat : List Char) : Option (List Char) :=
  let first := if pat.head? = some ']' then 1 else 0
  let listed := pat.take first ++ (pat.drop first).takeWhile fun c => c ≠ ']'
  if listed.length < pat.length then some listed else none

def translate : Nat → List Char → List GlobPart
  | _, [] => []
  | taken + 1, _ :: pat => translate taken pat
  | 0, c :: pat =>
    if c = '*' then .star :: translate 0 pat
    else if c = '?' then .any :: translate 0 pat
    else if c = '[' then
      let negated := decide (pat.head? = some '!')
      let mark := if negated then 1 else 0
      match bracketed (pat.drop mark) with
      | some listed =>
        .bracket negated (bracketRanges listed) :: translate (mark + listed.length + 1) pat
      | none => .lit c :: translate 0 pat
    else .lit c :: translate 0 pat

def GlobPart.accepts : GlobPart → Char → Bool
  | .star, _ => true
  | .any, _ => true
  | .lit d, c => c = d
  | .bracket negated ranges, c =>
    let inside := ranges.any fun range => range.1 ≤ c ∧ c ≤ range.2
    inside != negated

def matchParts : List GlobPart → List Char → Bool
  | [], text => text.isEmpty
  | .star :: parts, text => text.tails.any fun rest => matchParts parts rest
  | _ :: _, [] => false
  | part :: parts, c :: text => part.accepts c && matchParts parts text

/-- `fnmatch.fnmatchcase`. -/
def fnmatch (name pattern : String) : Bool :=
  matchParts (translate 0 pattern.toList) name.toList

def PlainGlob (text : List Char) : Prop := ∀ c ∈ text, c ≠ '*' ∧ c ≠ '?' ∧ c ≠ '['

instance (text : List Char) : Decidable (PlainGlob text) :=
  List.decidableBAll _ text

section Matching

variable {text pat : List Char} {parts : List GlobPart}

theorem translate_plain (plain : PlainGlob text) :
    translate 0 (text ++ pat) = text.map .lit ++ translate 0 pat := by
  induction text with
  | nil => rfl
  | cons c text ih =>
    obtain ⟨noStar, noAny, noBracket⟩ := plain c List.mem_cons_self
    have rest := ih fun d member => plain d (List.mem_cons_of_mem _ member)
    simp [translate, noStar, noAny, noBracket, rest]

@[simp] theorem matchParts_lit (rest : List Char) :
    matchParts (text.map .lit ++ parts) (text ++ rest) = matchParts parts rest := by
  induction text with
  | nil => rfl
  | cons c text ih => simp [matchParts, GlobPart.accepts, ih]

theorem matchParts_star {rest : List Char} (accepted : matchParts parts rest) :
    matchParts (.star :: parts) (text ++ rest) := by
  simp only [matchParts, List.any_eq_true, List.mem_tails]
  exact ⟨rest, List.suffix_append text rest, accepted⟩

theorem matchParts_self (text : List Char) : matchParts (text.map .lit) text := by
  have ends : matchParts (text.map .lit ++ []) (text ++ []) = matchParts [] [] := matchParts_lit []
  rw [List.append_nil, List.append_nil] at ends
  rw [ends]
  rfl

end Matching

end KuvaAI.Python
