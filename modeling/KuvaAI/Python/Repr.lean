import KuvaAI.Python.Uuid

/-! `repr` of strings, lists of strings and dictionaries. Each of them can be read
back from the front of a longer text, so the text of a dictionary determines its
entries. -/
namespace KuvaAI.Python

section Repr

-- which characters beyond ASCII the Unicode database calls printable
variable (printable : Char → Bool)

def quoteOf (s : String) : Char := if '\'' ∈ s.toList ∧ '"' ∉ s.toList then '"' else '\''

/-- The letter after the backslash and the number of hexadecimal digits after
the letter; `none` where the character stands for itself. -/
def escapeCode (quote c : Char) : Option (Char × Nat) :=
  if c = quote ∨ c = '\\' then some (c, 0)
  else if c = '\t' then some ('t', 0)
  else if c = '\n' then some ('n', 0)
  else if c = '\r' then some ('r', 0)
  else if c.toNat < 32 ∨ c.toNat = 127 then some ('x', 2)
  else if c.toNat < 127 ∨ printable c then none
  else if c.toNat < 256 then some ('x', 2)
  else if c.toNat < 65536 then some ('u', 4)
  else some ('U', 8)

def escapeChar (quote c : Char) : List Char :=
  match escapeCode printable quote c with
  | none => [c]
  | some (letter, width) => '\\' :: letter :: hexNumber width c.toNat

def reprChars (s : String) : List Char :=
  quoteOf s :: (s.toList.flatMap (escapeChar printable (quoteOf s)) ++ [quoteOf s])

def widthOf (letter : Char) : Nat :=
  if letter = 'x' then 2 else if letter = 'u' then 4 else if letter = 'U' then 8 else 0

def unescape (letter : Char) : Char :=
  if letter = 't' then '\t' else if letter = 'n' then '\n' else if letter = 'r' then '\r' else letter

def IsQuote (quote : Char) : Prop := quote = '\'' ∨ quote = '"'

theorem isQuote_quoteOf (s : String) : IsQuote (quoteOf s) := by
  unfold quoteOf
  split
  · exact .inr rfl
  · exact .inl rfl

theorem IsQuote.ne_backslash {quote : Char} (isQuote : IsQuote quote) : quote ≠ '\\' := by
  rcases isQuote with rfl | rfl <;> decide

theorem escapeCode_some {quote c letter : Char} {width : Nat} (isQuote : IsQuote quote)
    (code : escapeCode printable quote c = some (letter, width)) :
    width = widthOf letter ∧ (width = 0 → c = unescape letter) ∧ (0 < width → c.toNat < 16 ^ width) := by
  unfold escapeCode at code
  split at code
  · rename_i special
    obtain ⟨rfl, rfl⟩ := code
    rcases special with rfl | rfl
    · rcases isQuote with rfl | rfl <;> decide
    · decide
  split at code
  · rename_i tab
    obtain ⟨rfl, rfl⟩ := code
    exact ⟨by decide, fun _ => tab, by simp⟩
  split at code
  · rename_i newline
    obtain ⟨rfl, rfl⟩ := code
    exact ⟨by decide, fun _ => newline, by simp⟩
  split at code
  · rename_i carriage
    obtain ⟨rfl, rfl⟩ := code
    exact ⟨by decide, fun _ => carriage, by simp⟩
  split at code
  · obtain ⟨rfl, rfl⟩ := code
    exact ⟨by decide, by simp, by omega⟩
  split at code
  · cases code
  split at code
  · obtain ⟨rfl, rfl⟩ := code
    exact ⟨by decide, by simp, by omega⟩
  split at code
  · obtain ⟨rfl, rfl⟩ := code
    exact ⟨by decide, by simp, by omega⟩
  · obtain ⟨rfl, rfl⟩ := code
    refine ⟨by decide, by simp, fun _ => ?_⟩
    exact c.val.toNat_lt

theorem escapeCode_quote {quote c : Char} (special : c = quote ∨ c = '\\') :
    escapeCode printable quote c = some (c, 0) := by
  rw [escapeCode, if_pos special]

theorem escapeChar_head {quote c : Char} (isQuote : IsQuote quote) {rest tail : List Char} :
    escapeChar printable quote c ++ rest ≠ quote :: tail := by
  intro same
  unfold escapeChar at same
  split at same
  · rename_i plain
    rw [escapeCode_quote printable (.inl (List.cons.inj same).1)] at plain
    cases plain
  · exact isQuote.ne_backslash (List.cons.inj same).1.symm

theorem escapeChar_delimited {quote c d : Char} (isQuote : IsQuote quote) {rest tail : List Char}
    (same : escapeChar printable quote c ++ rest = escapeChar printable quote d ++ tail) :
    c = d ∧ rest = tail := by
  unfold escapeChar at same
  cases codeC : escapeCode printable quote c with
  | none =>
    cases codeD : escapeCode printable quote d with
    | none =>
      simp only [codeC, codeD] at same
      exact List.cons.inj same
    | some code =>
      simp only [codeC, codeD] at same
      rw [(List.cons.inj same).1, escapeCode_quote printable (.inr rfl)] at codeC
      cases codeC
  | some code =>
    cases codeD : escapeCode printable quote d with
    | none =>
      simp only [codeC, codeD] at same
      rw [← (List.cons.inj same).1, escapeCode_quote printable (.inr rfl)] at codeD
      cases codeD
    | some code' =>
      obtain ⟨letter, width⟩ := code
      obtain ⟨letter', width'⟩ := code'
      simp only [codeC, codeD] at same
      obtain ⟨letters, digits⟩ := List.cons.inj (List.cons.inj same).2
      subst letters
      obtain ⟨widths, letterC, boundC⟩ := escapeCode_some printable isQuote codeC
      obtain ⟨widths', letterD, boundD⟩ := escapeCode_some printable isQuote codeD
      rw [← widths'] at widths
      subst widths
      obtain ⟨numbers, rests⟩ := List.append_inj digits (by simp)
      refine ⟨?_, rests⟩
      rcases Nat.eq_zero_or_pos width with zero | positive
      · rw [letterC zero, letterD zero]
      · exact Char.toNat_inj.mp (hexNumber_injective (boundC positive) (boundD positive) numbers)

theorem escapes_delimited {quote : Char} (isQuote : IsQuote quote) {s t rest tail : List Char}
    (same : s.flatMap (escapeChar printable quote) ++ quote :: rest =
      t.flatMap (escapeChar printable quote) ++ quote :: tail) : s = t ∧ rest = tail := by
  induction s generalizing t with
  | nil =>
    cases t with
    | nil => exact ⟨rfl, (List.cons.inj same).2⟩
    | cons d t =>
      rw [List.flatMap_cons, List.append_assoc] at same
      exact absurd same.symm (escapeChar_head printable isQuote)
  | cons c s ih =>
    cases t with
    | nil =>
      rw [List.flatMap_cons, List.append_assoc] at same
      exact absurd same (escapeChar_head printable isQuote)
    | cons d t =>
      rw [List.flatMap_cons, List.flatMap_cons, List.append_assoc, List.append_assoc] at same
      obtain ⟨heads, tails⟩ := escapeChar_delimited printable isQuote same
      obtain ⟨others, rests⟩ := ih tails
      exact ⟨by rw [heads, others], rests⟩

theorem reprChars_delimited {s t : String} {rest tail : List Char}
    (same : reprChars printable s ++ rest = reprChars printable t ++ tail) : s = t ∧ rest = tail := by
  rw [reprChars, reprChars, List.cons_append, List.cons_append, List.append_assoc,
    List.append_assoc] at same
  obtain ⟨quotes, same⟩ := List.cons.inj same
  rw [← quotes] at same
  obtain ⟨chars, rests⟩ := escapes_delimited printable (isQuote_quoteOf s) same
  exact ⟨String.toList_injective chars, rests⟩

def reprTail : List String → List Char
  | [] => [']']
  | x :: xs => ',' :: ' ' :: (reprChars printable x ++ reprTail xs)

def reprList : List String → List Char
  | [] => ['[', ']']
  | x :: xs => '[' :: (reprChars printable x ++ reprTail printable xs)

theorem reprChars_ne_cons {s : String} {c : Char} {rest tail : List Char} (other : ¬ IsQuote c) :
    reprChars printable s ++ rest ≠ c :: tail := by
  intro same
  have head : quoteOf s = c := (List.cons.inj same).1
  exact other (head ▸ isQuote_quoteOf s)

theorem not_isQuote_bracket : ¬ IsQuote ']' := by unfold IsQuote; decide

theorem not_isQuote_brace : ¬ IsQuote '\x7d' := by unfold IsQuote; decide

theorem reprTail_delimited {xs ys : List String} {rest tail : List Char}
    (same : reprTail printable xs ++ rest = reprTail printable ys ++ tail) : xs = ys ∧ rest = tail := by
  induction xs generalizing ys with
  | nil =>
    cases ys with
    | nil => exact ⟨rfl, (List.cons.inj same).2⟩
    | cons y ys => exact absurd (List.cons.inj same).1 (by decide)
  | cons x xs ih =>
    cases ys with
    | nil => exact absurd (List.cons.inj same).1 (by decide)
    | cons y ys =>
      simp only [reprTail, List.cons_append, List.append_assoc, List.cons.injEq, true_and] at same
      obtain ⟨heads, tails⟩ := reprChars_delimited printable same
      obtain ⟨others, rests⟩ := ih tails
      exact ⟨by rw [heads, others], rests⟩

theorem reprList_delimited {xs ys : List String} {rest tail : List Char}
    (same : reprList printable xs ++ rest = reprList printable ys ++ tail) : xs = ys ∧ rest = tail := by
  cases xs with
  | nil =>
    cases ys with
    | nil => exact ⟨rfl, (List.cons.inj (List.cons.inj same).2).2⟩
    | cons y ys =>
      simp only [reprList, List.cons_append, List.append_assoc, List.cons.injEq, true_and] at same
      exact absurd same.symm (reprChars_ne_cons printable not_isQuote_bracket)
  | cons x xs =>
    cases ys with
    | nil =>
      simp only [reprList, List.cons_append, List.append_assoc, List.cons.injEq, true_and] at same
      exact absurd same (reprChars_ne_cons printable not_isQuote_bracket)
    | cons y ys =>
      simp only [reprList, List.cons_append, List.append_assoc, List.cons.injEq, true_and] at same
      obtain ⟨heads, tails⟩ := reprChars_delimited printable same
      obtain ⟨others, rests⟩ := reprTail_delimited printable tails
      exact ⟨by rw [heads, others], rests⟩

def dictTail : List (String × List Char) → List Char
  | [] => ['\x7d']
  | (key, value) :: rest =>
    ',' :: ' ' :: (reprChars printable key ++ ':' :: ' ' :: (value ++ dictTail rest))

def reprDict : List (String × List Char) → List Char
  | [] => ['\x7b', '\x7d']
  | (key, value) :: rest =>
    '\x7b' :: (reprChars printable key ++ ':' :: ' ' :: (value ++ dictTail printable rest))

def Ends (rest : List Char) : Prop := ∃ tail, rest = ',' :: tail ∨ rest = '\x7d' :: tail

theorem ends_dictTail (entries : List (String × List Char)) (rest : List Char) :
    Ends (dictTail printable entries ++ rest) := by
  cases entries with
  | nil => exact ⟨rest, .inr rfl⟩
  | cons e entries => exact ⟨_, .inl rfl⟩

def Apart (v w : List Char) : Prop :=
  ∀ {rest tail : List Char}, Ends rest → Ends tail → v ++ rest = w ++ tail → v = w ∧ rest = tail

theorem apart_reprChars (s t : String) : Apart (reprChars printable s) (reprChars printable t) := by
  intro rest tail _ _ same
  obtain ⟨rfl, rests⟩ := reprChars_delimited printable same
  exact ⟨rfl, rests⟩

theorem apart_reprList (xs ys : List String) : Apart (reprList printable xs) (reprList printable ys) := by
  intro rest tail _ _ same
  obtain ⟨rfl, rests⟩ := reprList_delimited printable same
  exact ⟨rfl, rests⟩

theorem reprChars_injective : Function.Injective (reprChars printable) :=
  fun _ _ same => (reprChars_delimited printable (congrArg (· ++ []) same)).1

theorem reprList_injective : Function.Injective (reprList printable) :=
  fun _ _ same => (reprList_delimited printable (congrArg (· ++ []) same)).1

theorem entry_delimited {key key' : String} {v w : List Char} {es fs : List (String × List Char)}
    {rest tail : List Char} (apart : key = key' → Apart v w)
    (same : reprChars printable key ++ ':' :: ' ' :: (v ++ dictTail printable es) ++ rest =
      reprChars printable key' ++ ':' :: ' ' :: (w ++ dictTail printable fs) ++ tail) :
    key = key' ∧ v = w ∧ dictTail printable es ++ rest = dictTail printable fs ++ tail := by
  simp only [List.append_assoc, List.cons_append] at same
  obtain ⟨keys, same⟩ := reprChars_delimited printable same
  simp only [List.cons.injEq, true_and] at same
  obtain ⟨values, rests⟩ := apart keys (ends_dictTail printable es rest)
    (ends_dictTail printable fs tail) same
  exact ⟨keys, values, rests⟩

theorem dictTail_delimited {es fs : List (String × List Char)} {rest tail : List Char}
    (apart : ∀ key v w, (key, v) ∈ es → (key, w) ∈ fs → Apart v w)
    (same : dictTail printable es ++ rest = dictTail printable fs ++ tail) : es = fs := by
  induction es generalizing fs with
  | nil =>
    cases fs with
    | nil => rfl
    | cons f fs => exact absurd (List.cons.inj same).1 (by decide)
  | cons e es ih =>
    cases fs with
    | nil => exact absurd (List.cons.inj same).1 (by decide)
    | cons f fs =>
      obtain ⟨key, v⟩ := e
      obtain ⟨key', w⟩ := f
      have here : key = key' → Apart v w := by
        rintro rfl
        exact apart key v w List.mem_cons_self List.mem_cons_self
      obtain ⟨rfl, rfl, rests⟩ := entry_delimited printable here
        (List.cons.inj (List.cons.inj same).2).2
      rw [ih (fun k a b ha hb => apart k a b (List.mem_cons_of_mem _ ha) (List.mem_cons_of_mem _ hb))
        rests]

theorem reprDict_injective {es fs : List (String × List Char)}
    (apart : ∀ key v w, (key, v) ∈ es → (key, w) ∈ fs → Apart v w)
    (same : reprDict printable es = reprDict printable fs) : es = fs := by
  cases es with
  | nil =>
    cases fs with
    | nil => rfl
    | cons f fs =>
      exact absurd (List.cons.inj same).2.symm (reprChars_ne_cons printable not_isQuote_brace)
  | cons e es =>
    cases fs with
    | nil => exact absurd (List.cons.inj same).2 (reprChars_ne_cons printable not_isQuote_brace)
    | cons f fs =>
      -- After the brace both texts go on as the tail of a longer dictionary would.
      have texts := congrArg (fun cs => ',' :: ' ' :: (cs ++ [])) (List.cons.inj same).2
      exact dictTail_delimited printable apart texts

end Repr

end KuvaAI.Python
