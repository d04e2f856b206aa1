import KuvaAI.Lib.TextPattern
import KuvaAI.Python.Value

/-! The scrubbing of payment cards and social security numbers in structured.py. What the
regular expressions call digits and word characters is a parameter. -/
namespace KuvaAI.Logging
open Python TextPattern

section Patterns

variable (isDigit isWord : Char → Bool)

def digits (n : Nat) : List (Piece Char) := List.replicate n (.one isDigit)

/-- `[- ]?`. -/
def separator : Piece Char := .optional fun c => c = '-' ∨ c = ' '

/-- `\b\d{4}[- ]?\d{4}[- ]?\d{4}[- ]?\d{4}\b`. -/
def paymentPattern : List (Piece Char) :=
  [.boundary] ++ digits isDigit 4 ++ [separator] ++ digits isDigit 4 ++ [separator] ++ digits isDigit 4 ++
    [separator] ++ digits isDigit 4 ++ [.boundary]

/-- `\b\d{3}-\d{2}-\d{4}\b`. -/
def ssnPattern : List (Piece Char) :=
  [.boundary] ++ digits isDigit 3 ++ [.one fun c => c = '-'] ++ digits isDigit 2 ++
    [.one fun c => c = '-'] ++ digits isDigit 4 ++ [.boundary]

def paymentMark : List Char := "***PAYMENT***".toList

def ssnMark : List Char := "***SSN***".toList

def reSub (pattern : List (Piece Char)) (repl s : List Char) : List Char :=
  sub isWord pattern repl none 0 s

def piiScrubber : Value → Value
  | .str s =>
    .str (String.ofList (reSub isWord (ssnPattern isDigit) ssnMark
      (reSub isWord (paymentPattern isDigit) paymentMark s.toList)))
  | value => value

end Patterns

section Scrubbing

variable {isDigit isWord : Char → Bool} (digitsWord : ∀ c, isDigit c = true → isWord c = true)
  (star : isWord '*' = false)

include star

theorem paymentMark_sealed : Sealed isWord '*' 11 paymentMark where
  plain := star
  first := by decide
  last := by decide
  close := by
    have close : ∀ part ∈ paymentMark.tails, part ≠ [] → '*' ∈ part.take 11 := by decide
    exact fun part nonempty suffix => close part ((List.mem_tails part _).mpr suffix) nonempty

theorem ssnMark_sealed : Sealed isWord '*' 11 ssnMark where
  plain := star
  first := by decide
  last := by decide
  close := by
    have close : ∀ part ∈ ssnMark.tails, part ≠ [] → '*' ∈ part.take 11 := by decide
    exact fun part nonempty suffix => close part ((List.mem_tails part _).mpr suffix) nonempty

include digitsWord

theorem digit_ne_star : isDigit '*' = false :=
  Bool.eq_false_iff.mpr fun fits => Bool.false_ne_true (star.symm.trans (digitsWord '*' fits))

theorem paymentPattern_guarded : Guarded isWord '*' 11 (paymentPattern isDigit) := by
  change Guarded isWord '*' 11 (.boundary :: .one isDigit :: (digits isDigit 3 ++ [separator] ++
    digits isDigit 4 ++ [separator] ++ digits isDigit 4 ++ [separator] ++ digits isDigit 3 ++
    [.one isDigit, .boundary]))
  refine guarded_of_bounded digitsWord digitsWord ?_ star ?_
  · simp [digits, separator, Piece.Avoids, digit_ne_star digitsWord star]
  · simp [digits, separator, Piece.least]

theorem ssnPattern_guarded : Guarded isWord '*' 11 (ssnPattern isDigit) := by
  change Guarded isWord '*' 11 (.boundary :: .one isDigit :: (digits isDigit 2 ++
    [.one fun c => c = '-'] ++ digits isDigit 2 ++ [.one fun c => c = '-'] ++ digits isDigit 3 ++
    [.one isDigit, .boundary]))
  refine guarded_of_bounded digitsWord digitsWord ?_ star ?_
  · simp [digits, Piece.Avoids, digit_ne_star digitsWord star]
  · simp [digits, Piece.least]

theorem reSub_clean (s : List Char) :
    ¬ Occurs isWord (paymentPattern isDigit) none
        (reSub isWord (ssnPattern isDigit) ssnMark (reSub isWord (paymentPattern isDigit) paymentMark s)) ∧
    ¬ Occurs isWord (ssnPattern isDigit) none
        (reSub isWord (ssnPattern isDigit) ssnMark (reSub isWord (paymentPattern isDigit) paymentMark s)) := by
  have payment := paymentPattern_guarded digitsWord star
  have ssn := ssnPattern_guarded digitsWord star
  have first := scan_sub paymentMark payment.nonempty none s
  have cards := first.clean payment payment (paymentMark_sealed star) (fun _ _ stays => stays) (.inl rfl)
  have second := scan_sub ssnMark ssn.nonempty none
    (reSub isWord (paymentPattern isDigit) paymentMark s)
  refine ⟨?_, ?_⟩
  · exact (second.absent cards).clean ssn payment (ssnMark_sealed star) (fun _ _ stays => stays) (.inl rfl)
  · exact second.clean ssn ssn (ssnMark_sealed star) (fun _ _ stays => stays) (.inl rfl)

omit digitsWord star in
theorem reSub_unchanged {pattern : List (Piece Char)} (guarded : Guarded isWord '*' 11 pattern)
    {repl s : List Char} (absent : ¬ Occurs isWord pattern none s) : reSub isWord pattern repl s = s :=
  (scan_sub repl guarded.nonempty none s).unchanged absent

end Scrubbing

/-- What has been scrubbed has neither a payment card nor a social security number in it,
and is not changed by being scrubbed again. -/
theorem scrubbed_clean (isDigit isWord : Char → Bool) (digitsWord : ∀ c, isDigit c = true → isWord c = true)
    (star : isWord '*' = false) (s : String) :
    ∃ scrubbed, piiScrubber isDigit isWord (.str s) = .str scrubbed ∧
      ¬ Occurs isWord (paymentPattern isDigit) none scrubbed.toList ∧
      ¬ Occurs isWord (ssnPattern isDigit) none scrubbed.toList ∧
      piiScrubber isDigit isWord (.str scrubbed) = .str scrubbed := by
  obtain ⟨cards, numbers⟩ := reSub_clean digitsWord star s.toList
  refine ⟨_, rfl, ?_, ?_, ?_⟩
  · rwa [String.toList_ofList]
  · rwa [String.toList_ofList]
  · rw [piiScrubber, String.toList_ofList, reSub_unchanged (paymentPattern_guarded digitsWord star) cards,
      reSub_unchanged (ssnPattern_guarded digitsWord star) numbers]

def asciiWord (c : Char) : Bool := c.isAlphanum || c = '_'

theorem order_clean : ∃ scrubbed,
    piiScrubber Char.isDigit asciiWord (.str "4111 1111-11111111 of 078-05-1120") = .str scrubbed ∧
      ¬ Occurs asciiWord (paymentPattern Char.isDigit) none scrubbed.toList ∧
      ¬ Occurs asciiWord (ssnPattern Char.isDigit) none scrubbed.toList ∧
      piiScrubber Char.isDigit asciiWord (.str scrubbed) = .str scrubbed :=
  scrubbed_clean Char.isDigit asciiWord (fun c digit => by simp [asciiWord, Char.isAlphanum, digit]) rfl _

/-- A number that is not set off from a word is left. -/
example : reSub asciiWord (ssnPattern Char.isDigit) ssnMark "078-05-1120 and x219-09-9999".toList =
    "***SSN*** and x219-09-9999".toList := by decide +kernel

end KuvaAI.Logging
