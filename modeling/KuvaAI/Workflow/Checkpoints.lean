import KuvaAI.Lib.Dict
import KuvaAI.Lib.Lexical
import KuvaAI.Python.Fnmatch
import KuvaAI.Workflow.Annealing
import Mathlib.Data.String.Basic

/-! The files of the checkpoints, by their names: a name tells the second in which its
state was saved and the iteration, and the latest state is the one in the last name of the
string order. The module `json`, which is not imported, is given here. -/
namespace KuvaAI.Annealing.Checkpoints
open Python Lexical

/-- The local time of a save. All fields but the year are written with two digits. -/
structure Stamp where
  year : Nat
  month : Fin 100
  day : Fin 100
  hour : Fin 100
  minute : Fin 100
  second : Fin 100
  deriving DecidableEq

/-- `%Y%m%d`. -/
def Stamp.date (t : Stamp) : List Char :=
  Nat.toDigits 10 t.year ++ (padded 2 t.month ++ padded 2 t.day)

/-- `%H%M%S`. -/
def Stamp.clock (t : Stamp) : List Char :=
  padded 2 t.hour ++ (padded 2 t.minute ++ padded 2 t.second)

def Stamp.text (t : Stamp) : List Char := t.date ++ '-' :: t.clock

/-- A part of a file name, so it has no separator of directories and no null. -/
structure Label where
  text : String
  named : ∀ c ∈ text.toList, c ≠ '/' ∧ c ≠ Char.ofNat 0

structure Json (F S C : Type) where
  dump : SAState F S → C
  load : C → Except Exn (SAState F S)
  load_dump : ∀ state, load (dump state) = .ok state

structure Save (F S : Type) where
  stamp : Stamp
  state : SAState F S

section Directory

variable {F S C : Type} (json : Json F S C) (label : Label)

def fileName (s : Save F S) : String :=
  label.text ++ "_state_" ++ String.ofList s.stamp.text ++ "_iter" ++ toString s.state.iteration ++
    ".json"

def saveState (dir : Dict String C) (s : Save F S) : Dict String C :=
  dir.set (fileName label s) (json.dump s.state)

def pattern : String := label.text ++ "_state_*.json"

/-- Two stars must be a component of a path by themselves. -/
def Invalid : Prop := ['*', '*'] <:+: (pattern label).toList

instance : Decidable (Invalid label) :=
  inferInstanceAs (Decidable (['*', '*'] <:+: (pattern label).toList))

def glob (dir : Dict String C) : Except Exn (List String) :=
  if Invalid label then
    .error ⟨.valueError, "Invalid pattern: '**' can only be an entire path component"⟩
  else
    .ok (dir.keys.filter fun name => fnmatch name (pattern label))

def loadLatestState (dir : Dict String C) : Except Exn (Option (SAState F S)) := do
  let checkpoints ← glob label dir
  match (checkpoints.insertionSort (· ≥ ·)).head? with
  | none => return none
  | some newest =>
    match dir.get? newest with
    | some contents => return some (← json.load contents)
    | none => throw ⟨.oSError, "[Errno 2] No such file or directory: '" ++ newest ++ "'"⟩

end Directory

section Names

def Save.digits {F S : Type} (s : Save F S) : List Char := Nat.toDigits 10 s.state.iteration

def Outranked {F S : Type} (s t : Save F S) : Prop :=
  s.stamp.text < t.stamp.text ∨ s.stamp.text = t.stamp.text ∧ s.digits < t.digits

theorem isDigit_of_mem_date {t : Stamp} {c : Char} (member : c ∈ t.date) : c.isDigit := by
  simp only [Stamp.date, List.mem_append] at member
  rcases member with year | month | day
  · exact Nat.isDigit_of_mem_toDigits (by decide) (by decide) year
  · exact isDigit_of_mem_padded month
  · exact isDigit_of_mem_padded day

@[simp] theorem length_clock (t : Stamp) : t.clock.length = 6 := by simp [Stamp.clock]

theorem above_dash (t : Stamp) : ∀ c ∈ t.date, '-' < c :=
  fun _ member => lt_of_isDigit (by decide) (isDigit_of_mem_date member)

/-- A year of four digits makes the texts stand in the order of the calendar. -/
theorem text_lt_iff {s t : Stamp} (hs : 1000 ≤ s.year ∧ s.year < 10000)
    (ht : 1000 ≤ t.year ∧ t.year < 10000) :
    s.text < t.text ↔
      [s.year, s.month, s.day, s.hour, s.minute, s.second] <
        [t.year, t.month, t.day, t.hour, t.minute, t.second] := by
  have years : ∀ u : Stamp, 1000 ≤ u.year ∧ u.year < 10000 →
      u.text = padded 4 u.year ++ (padded 2 u.month ++ (padded 2 u.day ++ '-' :: u.clock)) := by
    intro u bounds
    simp [Stamp.text, Stamp.date, toDigits_eq_padded 3 bounds.1 bounds.2]
  have four : (padded 4 s.year < padded 4 t.year ↔ s.year < t.year) ∧
      (padded 4 s.year = padded 4 t.year ↔ s.year = t.year) :=
    ⟨padded_lt_iff (by omega) (by omega), padded_eq_iff (by omega) (by omega)⟩
  have two (i j : Fin 100) : (padded 2 i < padded 2 j ↔ i.val < j.val) ∧
      (padded 2 i = padded 2 j ↔ i.val = j.val) :=
    ⟨padded_lt_iff i.isLt j.isLt, padded_eq_iff i.isLt j.isLt⟩
  simp only [years s hs, years t ht, Stamp.clock, append_lt_append_iff, length_padded, four, two,
    List.cons_lt_cons_iff, lt_irrefl, false_or, and_false, or_false, true_and]

variable {F S : Type} {label : Label} {s t : Save F S}

theorem toList_fileName (s : Save F S) :
    (fileName label s).toList = label.text.toList ++ ("_state_".toList ++
      (s.stamp.date ++ '-' :: (s.stamp.clock ++ ("_iter".toList ++ (s.digits ++ '.' :: "json".toList))))) := by
  have dot : ".json".toList = '.' :: "json".toList := by decide
  simp [fileName, Stamp.text, Save.digits, dot]

theorem fileName_lt_iff : fileName label s < fileName label t ↔ Outranked s t := by
  have above (u : Save F S) : ∀ c ∈ u.digits, '.' < c := fun c member =>
    lt_of_isDigit (by decide) (Nat.isDigit_of_mem_toDigits (by decide) (by decide) member)
  have texts : s.stamp.text = t.stamp.text ↔
      s.stamp.date = t.stamp.date ∧ s.stamp.clock = t.stamp.clock := by
    constructor
    · intro same
      obtain ⟨dates, clocks⟩ := List.append_inj' same (by simp)
      exact ⟨dates, (List.cons.inj clocks).2⟩
    · rintro ⟨dates, clocks⟩
      rw [Stamp.text, Stamp.text, dates, clocks]
  rw [String.lt_iff_toList_lt, toList_fileName, toList_fileName, append_lt_append_iff rfl,
    append_lt_append_iff rfl, append_mark_lt_iff (above_dash _) (above_dash _),
    append_lt_append_iff (by simp), append_lt_append_iff rfl, append_mark_lt_iff (above s) (above t),
    Outranked, texts, Stamp.text, Stamp.text, append_mark_lt_iff (above_dash _) (above_dash _)]
  simp only [lt_irrefl, false_or, true_and, and_false, or_false]
  tauto

theorem outranked_total (other : s.state.iteration ≠ t.state.iteration) :
    Outranked s t ∨ Outranked t s := by
  have digits : s.digits ≠ t.digits := by
    intro same
    apply other
    have numbers := congrArg (fun digits => Nat.ofDigitChars 10 digits 0) same
    simpa [Save.digits, Nat.ofDigitChars_ten_toDigits] using numbers
  rcases lt_trichotomy s.stamp.text t.stamp.text with before | same | after
  · exact .inl (.inl before)
  · rcases digits.lt_or_gt with less | more
    · exact .inl (.inr ⟨same, less⟩)
    · exact .inr (.inr ⟨same.symm, more⟩)
  · exact .inr (.inl after)

end Names

section Saves

variable {F S C : Type} (json : Json F S C) (label : Label)

def saveAll (dir : Dict String C) (saves : List (Save F S)) : Dict String C :=
  saves.foldl (saveState json label) dir

def Globbed (s : Save F S) : Prop :=
  ¬ Invalid label ∧ fnmatch (fileName label s) (pattern label)

theorem globbed_of_plain {label : Label} (plain : PlainGlob label.text.toList) (s : Save F S) :
    Globbed label s := by
  have form : (pattern label).toList = label.text.toList ++ "_state_*.json".toList := by simp [pattern]
  constructor
  · intro infixed
    have stars := infixed.sublist.count_le '*'
    have none : label.text.toList.count '*' = 0 :=
      List.count_eq_zero.mpr fun member => (plain '*' member).1 rfl
    rw [form, List.count_append, none] at stars
    revert stars
    decide
  · have front : PlainGlob (label.text.toList ++ "_state_".toList) := by
      intro c member
      rcases List.mem_append.mp member with inLabel | inMark
      · exact plain c inLabel
      · exact (by simp [PlainGlob] : PlainGlob "_state_".toList) c inMark
    have parts : translate 0 (pattern label).toList =
        (label.text.toList ++ "_state_".toList).map .lit ++ .star :: ".json".toList.map .lit := by
      have marks : "_state_*.json".toList = "_state_".toList ++ "*.json".toList := by decide
      have tail : translate 0 "*.json".toList = .star :: ".json".toList.map .lit := by decide
      rw [form, marks, ← List.append_assoc, translate_plain front, tail]
    have name : (fileName label s).toList = (label.text.toList ++ "_state_".toList) ++
        ((s.stamp.text ++ ("_iter".toList ++ s.digits)) ++ ".json".toList) := by
      simp [fileName, Save.digits]
    rw [fnmatch, parts, name, matchParts_lit]
    exact matchParts_star (matchParts_self _)

variable {json label} {dir : Dict String C} {saves : List (Save F S)} {last : Save F S}

theorem mem_keys_saveAll (name : String) :
    name ∈ (saveAll json label dir saves).keys ↔
      name ∈ dir.keys ∨ ∃ s ∈ saves, fileName label s = name := by
  induction saves generalizing dir with
  | nil => simp [saveAll]
  | cons s saves ih =>
    rw [saveAll, List.foldl_cons, ← saveAll, ih, saveState, Dict.mem_keys_set]
    simp only [List.mem_cons, exists_eq_or_imp]
    constructor
    · rintro ((same | old) | later)
      · exact .inr (.inl same.symm)
      · exact .inl old
      · exact .inr (.inr later)
    · rintro (old | same | later)
      · exact .inl (.inr old)
      · exact .inl (.inl same.symm)
      · exact .inr later

theorem get?_saveAll {name : String} {contents : C}
    (found : (saveAll json label dir saves).get? name = some contents) :
    dir.get? name = some contents ∨
      ∃ s ∈ saves, fileName label s = name ∧ json.dump s.state = contents := by
  induction saves generalizing dir with
  | nil => exact .inl found
  | cons s saves ih =>
    rcases ih found with earlier | ⟨t, member, written⟩
    · rw [saveState, Dict.get?_set] at earlier
      split at earlier
      · rename_i same
        exact .inr ⟨s, List.mem_cons_self, same.symm, Option.some.inj earlier⟩
      · exact .inl earlier
    · exact .inr ⟨t, List.mem_cons_of_mem _ member, written⟩

theorem get?_saveAll_last :
    (saveAll json label dir (saves ++ [last])).get? (fileName label last) =
      some (json.dump last.state) := by
  rw [saveAll, List.foldl_append, List.foldl_cons, List.foldl_nil, saveState, Dict.get?_set_same]

theorem loadLatestState_eq_iff {state : SAState F S} :
    loadLatestState json label dir = .ok (some state) ↔
      ¬ Invalid label ∧ ∃ newest contents,
        (newest ∈ dir.keys ∧ fnmatch newest (pattern label)) ∧
        (∀ name ∈ dir.keys, fnmatch name (pattern label) → name ≤ newest) ∧
        dir.get? newest = some contents ∧ json.load contents = .ok state := by
  by_cases invalid : Invalid label
  · simp [loadLatestState, glob, invalid, bind, Except.bind]
  · have found : glob label dir = .ok (dir.keys.filter fun name => fnmatch name (pattern label)) :=
      if_neg invalid
    have first (newest : String) : ((dir.keys.filter fun name =>
        fnmatch name (pattern label)).insertionSort (· ≥ ·)).head? = some newest ↔ _ :=
      head?_sorted_iff
    simp only [List.mem_filter, and_imp] at first
    simp only [loadLatestState, found, bind, Except.bind, ← first, ← and_assoc]
    cases head : ((dir.keys.filter fun name =>
        fnmatch name (pattern label)).insertionSort (· ≥ ·)).head? with
    | none => simp [pure, Except.pure]
    | some newest =>
      cases stored : dir.get? newest with
      | none => simp [invalid, stored, throw, throwThe, MonadExceptOf.throw]
      | some contents =>
        cases loaded : json.load contents <;>
          simp [invalid, stored, loaded, pure, Except.pure]

/-- The state saved last is loaded exactly when its file is found and all files of earlier
saves that are found have names before its own. -/
theorem loadLatestState_iff (dir : Dict String C) (last : Save F S)
    (fresh : ∀ name ∈ dir.keys, ¬ fnmatch name (pattern label))
    (increasing : (saves ++ [last]).Pairwise fun s t => s.state.iteration < t.state.iteration) :
    loadLatestState json label (saveAll json label dir (saves ++ [last])) = .ok (some last.state) ↔
      Globbed label last ∧ ∀ earlier ∈ saves, Globbed label earlier → Outranked earlier last := by
  have below : ∀ earlier ∈ saves, earlier.state.iteration < last.state.iteration := by
    intro earlier member
    exact (List.pairwise_append.mp increasing).2.2 earlier member last (by simp)
  have listed (name : String) : name ∈ (saveAll json label dir (saves ++ [last])).keys ↔ _ :=
    mem_keys_saveAll name
  rw [loadLatestState_eq_iff]
  constructor
  · rintro ⟨valid, newest, contents, ⟨-, globbed⟩, greatest, stored, loaded⟩
    -- a file with the state of the last save is the file of that save
    have isLast : fileName label last = newest := by
      rcases get?_saveAll stored with before | ⟨s, member, named, written⟩
      · exact absurd globbed (fresh newest ((Dict.mem_keys_iff dir newest).mpr ⟨contents, before⟩))
      · rw [← written, json.load_dump] at loaded
        have same : s.state = last.state := Except.ok.inj loaded
        rcases List.mem_append.mp member with earlier | here
        · have less := below s earlier
          rw [same] at less
          omega
        · rw [← named, List.mem_singleton.mp here]
    rw [← isLast] at globbed greatest
    constructor
    · exact ⟨valid, globbed⟩
    · intro earlier member ⟨_, found⟩
      have le := greatest _ ((listed _).mpr (.inr ⟨earlier, by simp [member], rfl⟩)) found
      rcases outranked_total (below earlier member).ne with before | after
      · exact before
      · exact absurd le (not_le.mpr (fileName_lt_iff.mpr after))
  · rintro ⟨⟨valid, globbed⟩, outranked⟩
    have member := (listed (fileName label last)).mpr (.inr ⟨last, by simp, rfl⟩)
    have greatest : ∀ name ∈ (saveAll json label dir (saves ++ [last])).keys,
        fnmatch name (pattern label) → name ≤ fileName label last := by
      intro name member found
      rcases (listed name).mp member with old | ⟨s, saved, rfl⟩
      · exact absurd found (fresh name old)
      · rcases List.mem_append.mp saved with earlier | here
        · exact (fileName_lt_iff.mpr (outranked s earlier ⟨valid, found⟩)).le
        · rw [List.mem_singleton.mp here]
    exact ⟨valid, _, _, ⟨member, globbed⟩, greatest, get?_saveAll_last, json.load_dump _⟩

end Saves

section SameSecond

def verbatim : Json Rat (List Rat) (SAState Rat (List Rat)) := ⟨id, .ok, fun _ => rfl⟩

def sa : Label := ⟨"sa", by simp⟩

def noon : Stamp := ⟨2024, 5, 17, 12, 0, 0⟩

def savedAt (iteration : Nat) : Save Rat (List Rat) where
  stamp := noon
  state := {
    currentEnergy := 3
    bestEnergy := 2
    currentSolution := [1, 2]
    bestSolution := [2, 1]
    iteration
    acceptanceRate := 0
    temperature := 10 }

theorem sa_globbed (iteration : Nat) : Globbed sa (savedAt iteration) :=
  globbed_of_plain (by simp [PlainGlob, sa]) _

theorem two_hundred_loaded :
    loadLatestState verbatim sa (saveAll verbatim sa .empty ([savedAt 100] ++ [savedAt 200])) =
      .ok (some (savedAt 200).state) := by
  have outranked : ∀ earlier ∈ [savedAt 100], Outranked earlier (savedAt 200) := by
    intro earlier member
    rw [List.mem_singleton.mp member]
    exact .inr ⟨rfl, by decide⟩
  exact (loadLatestState_iff .empty (savedAt 200) (by simp [Dict.keys, Dict.empty])
    (by simp [savedAt])).mpr ⟨sa_globbed 200, fun earlier member _ => outranked earlier member⟩

/-- In one second, the state of 10 iterations is saved after that of 9, which is loaded. -/
theorem tenth_not_loaded :
    [savedAt 9, savedAt 10].Pairwise (fun s t => s.state.iteration < t.state.iteration) ∧
      loadLatestState verbatim sa (saveAll verbatim sa .empty [savedAt 9, savedAt 10]) =
        .ok (some (savedAt 9).state) ∧
      (savedAt 9).state ≠ (savedAt 10).state := by
  constructor
  · simp [savedAt]
  · constructor
    · rfl
    · intro same
      have iterations := congrArg SAState.iteration same
      simp [savedAt] at iterations

end SameSecond

end KuvaAI.Annealing.Checkpoints
