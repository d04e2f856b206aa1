import Mathlib.Algebra.GroupWithZero.Nat
import Mathlib.Data.List.Infix

/-! Patterns over a text: sequences of characters of given classes, some of them
optional, and of word boundaries. The matcher backtracks; what it finds is what matches,
and a substitution goes from left to right over matches that do not overlap. -/
namespace TextPattern

variable {α : Type}

inductive Piece (α : Type) where
  /-- One of the two neighbours is a word character and the other is not. -/
  | boundary
  | one (cls : α → Bool)
  | optional (cls : α → Bool)

section Matching

variable (word : α → Bool)

/-- Whether a neighbour is a word character; at an end of the text there is none. -/
def wordy (neighbour : Option α) : Bool := neighbour.any word

/-- These pieces match exactly `text`, between the neighbours `prev` and `next`. -/
inductive Matches (next : Option α) : List (Piece α) → Option α → List α → Prop where
  | nil (prev) : Matches next [] prev []
  | boundary {ps prev text} (edge : wordy word prev ≠ wordy word (text.head?.or next))
      (rest : Matches next ps prev text) : Matches next (.boundary :: ps) prev text
  | one {cls a ps prev text} (fits : cls a = true) (rest : Matches next ps (some a) text) :
      Matches next (.one cls :: ps) prev (a :: text)
  | take {cls a ps prev text} (fits : cls a = true) (rest : Matches next ps (some a) text) :
      Matches next (.optional cls :: ps) prev (a :: text)
  | skip {cls ps prev text} (rest : Matches next ps prev text) :
      Matches next (.optional cls :: ps) prev text

def MatchesAt (ps : List (Piece α)) (prev : Option α) (text : List α) : Prop :=
  ∃ m rest, text = m ++ rest ∧ Matches word rest.head? ps prev m

def Occurs (ps : List (Piece α)) (prev : Option α) (text : List α) : Prop :=
  ∃ before rest, text = before ++ rest ∧ MatchesAt word ps (before.getLast?.or prev) rest

/-- The length of the first match at the start of the text; an optional character is taken
first, and left when the rest does not match then. -/
def matchLength : List (Piece α) → Option α → List α → Option Nat
  | [], _, _ => some 0
  | .boundary :: ps, prev, text =>
    if wordy word prev ≠ wordy word text.head? then matchLength ps prev text else none
  | .one _ :: _, _, [] => none
  | .one cls :: ps, _, a :: text =>
    if cls a then (matchLength ps (some a) text).map (· + 1) else none
  | .optional _ :: ps, prev, [] => matchLength ps prev []
  | .optional cls :: ps, prev, a :: text =>
    if cls a then
      ((matchLength ps (some a) text).map (· + 1)).or (matchLength ps prev (a :: text))
    else matchLength ps prev (a :: text)

/-- Every match is replaced, once `skip` characters, which belong to one, are passed. No
character is taken for an empty match. -/
def sub (ps : List (Piece α)) (repl : List α) : Option α → Nat → List α → List α
  | _, _, [] => []
  | _, skip + 1, a :: text => sub ps repl (some a) skip text
  | prev, 0, a :: text =>
    match matchLength word ps prev (a :: text) with
    | some (n + 1) => repl ++ sub ps repl (some a) n text
    | _ => a :: sub ps repl (some a) 0 text

variable {word} {ps : List (Piece α)} {prev : Option α} {text : List α}

theorem matchLength_sound {n : Nat} (found : matchLength word ps prev text = some n) :
    ∃ m rest, text = m ++ rest ∧ m.length = n ∧ Matches word rest.head? ps prev m := by
  fun_induction matchLength word ps prev text generalizing n with
  | case1 prev text =>
    cases found
    exact ⟨[], text, rfl, rfl, .nil prev⟩
  | case2 ps prev text edge ih =>
    obtain ⟨m, rest, rfl, length, isMatch⟩ := ih found
    rw [List.head?_append] at edge
    exact ⟨m, rest, rfl, length, .boundary edge isMatch⟩
  | case3 => cases found
  | case4 => cases found
  | case5 cls ps prev a text fits ih =>
    obtain ⟨k, foundRest, rfl⟩ := Option.map_eq_some_iff.mp found
    obtain ⟨m, rest, rfl, rfl, isMatch⟩ := ih foundRest
    exact ⟨a :: m, rest, rfl, rfl, .one fits isMatch⟩
  | case6 => cases found
  | case7 cls ps prev ih =>
    obtain ⟨m, rest, split, length, isMatch⟩ := ih found
    exact ⟨m, rest, split, length, .skip isMatch⟩
  | case8 cls ps prev a text fits ihTake ihSkip =>
    rcases Option.or_eq_some_iff.mp found with taken | ⟨_, left⟩
    · obtain ⟨k, foundRest, rfl⟩ := Option.map_eq_some_iff.mp taken
      obtain ⟨m, rest, rfl, rfl, isMatch⟩ := ihTake foundRest
      exact ⟨a :: m, rest, rfl, rfl, .take fits isMatch⟩
    · obtain ⟨m, rest, split, length, isMatch⟩ := ihSkip left
      exact ⟨m, rest, split, length, .skip isMatch⟩
  | case9 cls ps prev a text _ ih =>
    obtain ⟨m, rest, split, length, isMatch⟩ := ih found
    exact ⟨m, rest, split, length, .skip isMatch⟩

theorem matchLength_complete {m rest : List α} (isMatch : Matches word rest.head? ps prev m) :
    (matchLength word ps prev (m ++ rest)).isSome := by
  induction isMatch with
  | nil => rfl
  | boundary edge _ ih =>
    rw [← List.head?_append] at edge
    rw [matchLength, if_pos edge]
    exact ih
  | one fits _ ih => simpa [matchLength, fits] using ih
  | take fits _ ih => simp [matchLength, fits, ih]
  | @skip cls ps prev m _ ih =>
    cases whole : m ++ rest with
    | nil => simpa [matchLength, whole] using ih
    | cons a text =>
      rw [whole] at ih
      by_cases fits : cls a = true
      · simp [matchLength, fits, ih]
      · simpa [matchLength, fits] using ih

theorem matchLength_isSome_iff :
    (matchLength word ps prev text).isSome ↔ MatchesAt word ps prev text := by
  constructor
  · intro found
    obtain ⟨n, length⟩ := Option.isSome_iff_exists.mp found
    obtain ⟨m, rest, split, _, isMatch⟩ := matchLength_sound length
    exact ⟨m, rest, split, isMatch⟩
  · rintro ⟨m, rest, rfl, isMatch⟩
    exact matchLength_complete isMatch

theorem MatchesAt.occurs (here : MatchesAt word ps prev text) : Occurs word ps prev text :=
  ⟨[], text, rfl, here⟩

theorem Occurs.append {m : List α} (later : Occurs word ps (m.getLast?.or prev) text) :
    Occurs word ps prev (m ++ text) := by
  obtain ⟨before, rest, rfl, here⟩ := later
  refine ⟨m ++ before, rest, (List.append_assoc ..).symm, ?_⟩
  rwa [List.getLast?_append, Option.or_assoc]

theorem Matches.congr {next next' prev' : Option α} (same : wordy word next = wordy word next')
    (isMatch : Matches word next ps prev text) (before : wordy word prev = wordy word prev') :
    Matches word next' ps prev' text := by
  induction isMatch generalizing prev' with
  | nil => exact .nil prev'
  | @boundary ps prev text edge _ ih =>
    refine .boundary ?_ (ih before)
    cases text with
    | nil =>
      rw [List.head?_nil, Option.none_or] at edge ⊢
      rwa [← before, ← same]
    | cons a text => rwa [← before]
  | one fits _ ih => exact .one fits (ih rfl)
  | take fits _ ih => exact .take fits (ih rfl)
  | skip _ ih => exact .skip (ih before)

end Matching

section Substitution

variable (word : α → Bool)

/-- The way from a text to what a substitution makes of it: characters are copied where
`stays` holds, and matches are replaced. -/
inductive Scan (ps : List (Piece α)) (repl : List α) (stays : Option α → List α → Prop) :
    Option α → List α → List α → Prop where
  | nil (prev) : Scan ps repl stays prev [] []
  | copy {a prev text out} (stay : stays prev (a :: text))
      (rest : Scan ps repl stays (some a) text out) : Scan ps repl stays prev (a :: text) (a :: out)
  | replace {prev m text out} (isMatch : Matches word text.head? ps prev m)
      (rest : Scan ps repl stays (m.getLast?.or prev) text out) :
      Scan ps repl stays prev (m ++ text) (repl ++ out)

variable {word} {ps : List (Piece α)} {repl : List α} {prev : Option α} {text : List α}

theorem last_cons (a : α) (text : List α) (prev : Option α) :
    (a :: text).getLast?.or prev = text.getLast?.or (some a) := by
  rw [List.getLast?_cons, Option.some_or]
  cases text.getLast? <;> rfl

theorem sub_skip (word : α → Bool) (ps : List (Piece α)) (repl : List α) (prev : Option α)
    (skipped text : List α) :
    sub word ps repl prev skipped.length (skipped ++ text) =
      sub word ps repl (skipped.getLast?.or prev) 0 text := by
  induction skipped generalizing prev with
  | nil => rfl
  | cons a skipped ih => rw [List.cons_append, List.length_cons, sub, ih, last_cons]

variable (repl) in
theorem scan_sub (nonempty : ∀ next prev, ¬ Matches word next ps prev []) (prev : Option α)
    (text : List α) :
    Scan word ps repl (fun prev text => ¬ MatchesAt word ps prev text) prev text
      (sub word ps repl prev 0 text) := by
  induction length : text.length using Nat.strong_induction_on generalizing prev text with
  | _ n ih =>
    subst length
    cases text with
    | nil => exact .nil prev
    | cons a text =>
      rw [sub]
      cases found : matchLength word ps prev (a :: text) with
      | none =>
        have stay : ¬ MatchesAt word ps prev (a :: text) := by
          rw [← matchLength_isSome_iff, found]
          exact Bool.false_ne_true
        exact .copy stay (ih _ (Nat.lt_succ_self _) (some a) text rfl)
      | some k =>
        obtain ⟨m, rest, split, rfl, isMatch⟩ := matchLength_sound found
        cases m with
        | nil => exact (nonempty _ _ isMatch).elim
        | cons b m =>
          obtain ⟨rfl, same⟩ := List.cons.inj split
          change text = m ++ rest at same
          subst same
          have shorter : rest.length < (a :: (m ++ rest)).length := by
            rw [List.length_cons, List.length_append]
            omega
          have later := ih _ shorter ((a :: m).getLast?.or prev) rest rfl
          rw [last_cons, ← sub_skip] at later
          exact Scan.replace (m := a :: m) isMatch (last_cons a m prev ▸ later)

end Substitution

section Guards

/-- Matches start and end with word characters, next to others, have at least `size`
characters, and none of them is `mark`. -/
structure Guarded (word : α → Bool) (mark : α) (size : Nat) (ps : List (Piece α)) : Prop where
  starts : ∀ {next prev m}, Matches word next ps prev m → wordy word prev = false ∧ wordy word m.head? = true
  ends : ∀ {next prev m}, Matches word next ps prev m → wordy word next = false ∧ wordy word m.getLast? = true
  long : ∀ {next prev m}, Matches word next ps prev m → size ≤ m.length
  unmarked : ∀ {next prev m}, Matches word next ps prev m → mark ∉ m

/-- The mark begins it and is never further away than `size` in it, up to its end. -/
structure Sealed (word : α → Bool) (mark : α) (size : Nat) (repl : List α) : Prop where
  plain : word mark = false
  first : repl.head? = some mark
  last : repl.getLast? = some mark
  close : ∀ part, part ≠ [] → part <:+ repl → mark ∈ part.take size

variable {word : α → Bool} {mark : α} {size : Nat} {ps qs : List (Piece α)} {repl : List α}
  {stays : Option α → List α → Prop} {prev : Option α} {text out : List α}

theorem Guarded.nonempty (guarded : Guarded word mark size ps) (next prev : Option α) :
    ¬ Matches word next ps prev [] := by
  intro isMatch
  have head := (guarded.starts isMatch).2
  cases head

/-- What is left unmarked at the start of the output and ends with a word character has
been copied, and what follows it has a neighbour of the same kind. -/
theorem Scan.copied (scan : Scan word qs repl stays prev text out) (guarded : Guarded word mark size qs)
    (isSealed : Sealed word mark size repl) {m after : List α} (split : out = m ++ after)
    (unmarked : mark ∉ m) (ends : wordy word (m.getLast?.or prev) = true) :
    ∃ rest, text = m ++ rest ∧ wordy word rest.head? = wordy word after.head? := by
  induction m generalizing prev text out with
  | nil =>
    obtain rfl : out = after := split
    cases scan with
    | nil => exact ⟨[], rfl, rfl⟩
    | copy => exact ⟨_, rfl, rfl⟩
    | replace isMatch _ =>
      have before := (guarded.starts isMatch).1
      rw [List.getLast?_nil, Option.none_or, before] at ends
      cases ends
  | cons c m ih =>
    have other := List.ne_of_not_mem_cons unmarked
    cases scan with
    | nil => cases split
    | copy _ later =>
      obtain ⟨rfl, tail⟩ := List.cons.inj split
      rw [last_cons] at ends
      obtain ⟨rest, rfl, same⟩ := ih later tail (List.not_mem_of_not_mem_cons unmarked) ends
      exact ⟨rest, rfl, same⟩
    | @replace _ m' text' out' isMatch _ =>
      have head := congrArg List.head? split
      rw [List.head?_append, isSealed.first] at head
      cases head
      exact absurd rfl other

theorem Sealed.no_start (isSealed : Sealed word mark size repl) (guarded : Guarded word mark size ps)
    {part : List α} (nonempty : part ≠ []) (suffix : part <:+ repl) :
    ¬ MatchesAt word ps prev (part ++ out) := by
  rintro ⟨m, after, split, isMatch⟩
  have close := isSealed.close part nonempty suffix
  have early : mark ∈ (part ++ out).take size := by
    rw [List.take_append]
    exact List.mem_append_left _ close
  rw [split, List.take_append_of_le_length (guarded.long isMatch)] at early
  exact guarded.unmarked isMatch (List.mem_of_mem_take early)

/-- No match is in the output if there is none where characters have been copied. What
came before may have changed, unless the text goes on with a word character. -/
theorem Scan.clean (scan : Scan word qs repl stays prev text out) (guardedRepl : Guarded word mark size qs)
    (guarded : Guarded word mark size ps) (isSealed : Sealed word mark size repl)
    (absent : ∀ prev text, stays prev text → ¬ MatchesAt word ps prev text) {prevOut : Option α}
    (near : wordy word prevOut = wordy word prev ∨ wordy word text.head? = false) :
    ¬ Occurs word ps prevOut out := by
  induction scan generalizing prevOut with
  | nil prev =>
    rintro ⟨before, rest, split, m, after, rfl, isMatch⟩
    have empty := (List.append_eq_nil_iff.mp (List.append_eq_nil_iff.mp split.symm).2).1
    exact guarded.nonempty _ _ (empty ▸ isMatch)
  | @copy a prev text out stay rest ih =>
    rintro ⟨before, later, split, here⟩
    cases before with
    | nil =>
      obtain rfl : a :: out = later := split
      obtain ⟨m, after, split, isMatch⟩ := here
      obtain ⟨starts, head⟩ := guarded.starts isMatch
      have last := (guarded.ends isMatch).2
      have ends : wordy word (m.getLast?.or prev) = true := by
        cases isLast : m.getLast? with
        | none => rw [isLast] at last; cases last
        | some c => rwa [isLast] at last
      obtain ⟨rest', split', same⟩ :=
        (Scan.copy stay rest).copied guardedRepl isSealed split (guarded.unmarked isMatch) ends
      have before : wordy word prevOut = wordy word prev := by
        refine near.resolve_right fun plain => ?_
        cases m with
        | nil => cases head
        | cons c m =>
          cases split
          rw [List.head?_cons] at head plain
          rw [head] at plain
          cases plain
      rw [List.getLast?_nil, Option.none_or] at isMatch
      exact absent prev _ stay ⟨m, rest', split', isMatch.congr same.symm before⟩
    | cons b before =>
      obtain ⟨rfl, rfl⟩ := List.cons.inj split
      rw [last_cons] at here
      exact ih (.inl rfl) ⟨before, later, rfl, here⟩
  | @replace prev m text out isMatch rest ih =>
    rintro ⟨before, later, split, here⟩
    have after : wordy word text.head? = false := (guardedRepl.ends isMatch).1
    rcases List.append_eq_append_iff.mp split with ⟨part, rfl, rfl⟩ | ⟨part, rfl, rfl⟩
    · rw [List.getLast?_append, isSealed.last, Option.or_assoc, Option.some_or] at here
      exact ih (.inr after) ⟨part, later, rfl, here⟩
    · by_cases empty : part = []
      · subst empty
        have last := isSealed.last
        rw [List.append_nil] at last
        rw [last] at here
        exact ih (.inr after) ⟨[], _, rfl, here⟩
      · exact isSealed.no_start guarded empty (List.suffix_append before part) here

theorem Scan.absent (scan : Scan word qs repl stays prev text out) (absent : ¬ Occurs word ps prev text) :
    Scan word qs repl (fun prev text => ¬ MatchesAt word ps prev text) prev text out := by
  induction scan with
  | nil prev => exact .nil prev
  | @copy a prev text out _ _ ih =>
    exact .copy (fun here => absent here.occurs) (ih fun later => absent (Occurs.append (m := [a]) later))
  | replace isMatch _ ih => exact .replace isMatch (ih fun later => absent later.append)

theorem Scan.unchanged (scan : Scan word ps repl stays prev text out) (absent : ¬ Occurs word ps prev text) :
    out = text := by
  induction scan with
  | nil => rfl
  | @copy a prev text out _ _ ih => exact congrArg _ (ih fun later => absent (Occurs.append (m := [a]) later))
  | replace isMatch _ _ =>
    have here : MatchesAt word ps _ _ := ⟨_, _, rfl, isMatch⟩
    exact (absent here.occurs).elim

end Guards

section Pieces

namespace Piece

def Avoids (mark : α) : Piece α → Prop
  | boundary => True
  | one cls | optional cls => cls mark = false

def least : Piece α → Nat
  | one _ => 1
  | boundary | optional _ => 0

end Piece

variable {word : α → Bool} {mark : α} {ps : List (Piece α)} {prev next : Option α} {m : List α}

theorem Matches.unmarked (avoids : ∀ p ∈ ps, p.Avoids mark) (isMatch : Matches word next ps prev m) :
    mark ∉ m := by
  induction isMatch with
  | nil => exact List.not_mem_nil
  | boundary _ _ ih => exact ih fun p member => avoids p (List.mem_cons_of_mem _ member)
  | skip _ ih => exact ih fun p member => avoids p (List.mem_cons_of_mem _ member)
  | one fits _ ih | take fits _ ih =>
    have first := avoids _ List.mem_cons_self
    refine List.not_mem_cons_of_ne_of_not_mem ?_ (ih fun p member => avoids p (List.mem_cons_of_mem _ member))
    rintro rfl
    exact Bool.false_ne_true (first.symm.trans fits)

theorem Matches.least (isMatch : Matches word next ps prev m) : (ps.map Piece.least).sum ≤ m.length := by
  induction isMatch with
  | nil => exact Nat.le_refl 0
  | boundary _ _ ih => simpa [Piece.least] using ih
  | one _ _ ih =>
    rw [List.map_cons, List.sum_cons, List.length_cons, Piece.least]
    omega
  | take _ _ ih =>
    rw [List.map_cons, List.sum_cons, List.length_cons, Piece.least]
    omega
  | skip _ ih => simpa [Piece.least] using ih

theorem Matches.last {cls : α → Bool}
    (isMatch : Matches word next (ps ++ [.one cls, .boundary]) prev m) :
    ∃ a, m.getLast? = some a ∧ cls a = true ∧ word a ≠ wordy word next := by
  induction ps generalizing prev m with
  | nil =>
    cases isMatch with
    | @one _ a _ _ text fits rest =>
      cases rest with
      | boundary edge rest =>
        cases rest with
        | nil => exact ⟨a, rfl, fits, edge⟩
  | cons p ps ih =>
    cases isMatch with
    | boundary _ rest => exact ih rest
    | skip rest => exact ih rest
    | one _ rest | take _ rest =>
      obtain ⟨a, last, fits, edge⟩ := ih rest
      exact ⟨a, by rw [List.getLast?_cons, last]; rfl, fits, edge⟩

theorem guarded_of_bounded {first final : α → Bool} (firstWord : ∀ a, first a = true → word a = true)
    (finalWord : ∀ a, final a = true → word a = true) {size : Nat}
    (avoids : ∀ p ∈ ps, p.Avoids mark) (plain : word mark = false)
    (long : size ≤ (ps.map Piece.least).sum + 2) :
    Guarded word mark size (.boundary :: .one first :: (ps ++ [.one final, .boundary])) where
  starts isMatch := by
    cases isMatch with
    | boundary edge rest =>
      cases rest with
      | one fits _ =>
        have isWord := firstWord _ fits
        rw [List.head?_cons, Option.some_or, wordy, wordy, Option.any_some, isWord] at edge
        exact ⟨Bool.eq_false_iff.mpr edge, isWord⟩
  ends isMatch := by
    rw [← List.cons_append, ← List.cons_append] at isMatch
    obtain ⟨a, last, fits, edge⟩ := isMatch.last
    rw [finalWord a fits] at edge
    rw [last]
    exact ⟨Bool.eq_false_iff.mpr edge.symm, finalWord a fits⟩
  long isMatch := by
    have least := isMatch.least
    simp only [List.map_cons, List.map_append, List.map_nil, List.sum_cons, List.sum_append, List.sum_nil,
      Piece.least] at least
    omega
  unmarked isMatch := by
    have avoidsWord : ∀ cls : α → Bool, (∀ a, cls a = true → word a = true) → cls mark = false := by
      refine fun cls isWord => Bool.eq_false_iff.mpr fun fits => ?_
      exact Bool.false_ne_true (plain.symm.trans (isWord mark fits))
    refine isMatch.unmarked fun p member => ?_
    simp only [List.mem_cons, List.mem_append, List.not_mem_nil, or_false] at member
    rcases member with rfl | rfl | middle | rfl | rfl
    · trivial
    · exact avoidsWord first firstWord
    · exact avoids p middle
    · exact avoidsWord final finalWord
    · trivial

end Pieces

end TextPattern
