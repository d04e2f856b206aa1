import Mathlib.Data.List.Nodup

/-! Insertion-ordered dictionaries. The entries carry the proof that no key
occurs twice, so a lookup never depends on which occurrence is read. -/

/-- Overwrite in place, or append a new key at the end. -/
def putEntry {κ ν : Type} [DecidableEq κ] (k : κ) (v : ν) : List (κ × ν) → List (κ × ν)
  | [] => [(k, v)]
  | e :: es => if e.1 = k then (k, v) :: es else e :: putEntry k v es

structure Dict (κ ν : Type) where
  entries : List (κ × ν)
  nodup : (entries.map Prod.fst).Nodup

namespace Dict

variable {κ ν : Type} [DecidableEq κ]

theorem putEntry_keys (k : κ) (v : ν) (es : List (κ × ν)) :
    (putEntry k v es).map Prod.fst =
      if k ∈ es.map Prod.fst then es.map Prod.fst else es.map Prod.fst ++ [k] := by
  induction es with
  | nil => simp [putEntry]
  | cons e es ih =>
    by_cases same : e.1 = k
    · simp [putEntry, same]
    · rw [putEntry, if_neg same, List.map_cons, ih, List.map_cons]
      by_cases member : k ∈ es.map Prod.fst
      · rw [if_pos member, if_pos (List.mem_cons_of_mem _ member)]
      · have absent : k ∉ e.1 :: es.map Prod.fst := by simpa [Ne.symm same] using member
        rw [if_neg member, if_neg absent, List.cons_append]

theorem putEntry_nodup (k : κ) (v : ν) (es : List (κ × ν)) (nodup : (es.map Prod.fst).Nodup) :
    ((putEntry k v es).map Prod.fst).Nodup := by
  rw [putEntry_keys]
  split
  · exact nodup
  · rename_i absent
    exact List.nodup_append.mpr ⟨nodup, List.nodup_singleton k, by
      intro a ha b hb same
      rw [List.mem_singleton.mp hb] at same
      exact absent (same ▸ ha)⟩

theorem lookup_cons_other {j k : κ} (other : j ≠ k) (v : ν) (es : List (κ × ν)) :
    ((k, v) :: es).lookup j = es.lookup j := by
  have off : (j == k) = false := beq_eq_false_iff_ne.mpr other
  simp only [List.lookup_cons, off]

theorem lookup_putEntry (k j : κ) (v : ν) (es : List (κ × ν)) :
    (putEntry k v es).lookup j = if j = k then some v else es.lookup j := by
  induction es with
  | nil =>
    by_cases same : j = k
    · rw [if_pos same, same, putEntry, List.lookup_cons_self]
    · rw [if_neg same, putEntry, lookup_cons_other same]
  | cons e es ih =>
    obtain ⟨i, w⟩ := e
    by_cases here : i = k
    · subst here
      simp only [putEntry, if_true]
      by_cases same : j = i
      · rw [if_pos same, same, List.lookup_cons_self]
      · rw [if_neg same, lookup_cons_other same, lookup_cons_other same]
    · simp only [putEntry, if_neg here]
      by_cases same : j = i
      · subst same
        rw [if_neg here, List.lookup_cons_self, List.lookup_cons_self]
      · rw [lookup_cons_other same, lookup_cons_other same, ih]

theorem putEntry_of_lookup {k : κ} {v : ν} {es : List (κ × ν)} (stored : es.lookup k = some v) :
    putEntry k v es = es := by
  induction es with
  | nil => cases stored
  | cons e es ih =>
    obtain ⟨i, w⟩ := e
    by_cases same : k = i
    · subst same
      rw [List.lookup_cons_self] at stored
      cases stored
      rw [putEntry, if_pos rfl]
    · rw [lookup_cons_other same] at stored
      rw [putEntry, if_neg (Ne.symm same), ih stored]

def empty : Dict κ ν := ⟨[], List.nodup_nil⟩

def get? (d : Dict κ ν) (k : κ) : Option ν := d.entries.lookup k

def set (d : Dict κ ν) (k : κ) (v : ν) : Dict κ ν :=
  ⟨putEntry k v d.entries, putEntry_nodup k v d.entries d.nodup⟩

def keys (d : Dict κ ν) : List κ := d.entries.map Prod.fst

def values (d : Dict κ ν) : List ν := d.entries.map Prod.snd

def filterKeys (d : Dict κ ν) (p : κ → Bool) : Dict κ ν :=
  ⟨d.entries.filter (fun e => p e.1), d.nodup.sublist (List.filter_sublist.map _)⟩

def erase (d : Dict κ ν) (k : κ) : Dict κ ν := d.filterKeys (fun j => j ≠ k)

@[simp] theorem get?_empty (k : κ) : (empty : Dict κ ν).get? k = none := rfl

theorem get?_set (d : Dict κ ν) (k j : κ) (v : ν) :
    (d.set k v).get? j = if j = k then some v else d.get? j :=
  lookup_putEntry k j v d.entries

@[simp] theorem get?_set_same (d : Dict κ ν) (k : κ) (v : ν) : (d.set k v).get? k = some v := by
  rw [get?_set, if_pos rfl]

theorem get?_set_other (d : Dict κ ν) {k j : κ} (v : ν) (other : j ≠ k) :
    (d.set k v).get? j = d.get? j := by
  rw [get?_set, if_neg other]

theorem set_eq_self_iff (d : Dict κ ν) (k : κ) (v : ν) : d.set k v = d ↔ d.get? k = some v := by
  constructor
  · intro same
    rw [← same, get?_set_same]
  · intro stored
    rw [set]
    congr
    exact putEntry_of_lookup stored

theorem mem_keys_iff (d : Dict κ ν) (k : κ) : k ∈ d.keys ↔ ∃ v, d.get? k = some v := by
  simp only [keys, get?]
  induction d.entries with
  | nil => simp
  | cons e es ih =>
    obtain ⟨i, w⟩ := e
    by_cases same : k = i
    · subst same
      simp
    · simp only [List.map_cons, List.mem_cons, same, false_or, lookup_cons_other same, ih]

theorem mem_of_get? {d : Dict κ ν} {k : κ} {v : ν} (found : d.get? k = some v) :
    (k, v) ∈ d.entries := by
  revert found
  simp only [get?]
  induction d.entries with
  | nil => exact fun found => nomatch found
  | cons e es ih =>
    obtain ⟨i, w⟩ := e
    intro found
    by_cases same : k = i
    · subst same
      rw [List.lookup_cons_self] at found
      cases found
      exact List.mem_cons_self
    · rw [lookup_cons_other same] at found
      exact List.mem_cons_of_mem _ (ih found)

theorem get?_of_mem {d : Dict κ ν} {k : κ} {v : ν} (mem : (k, v) ∈ d.entries) : d.get? k = some v := by
  obtain ⟨w, found⟩ := (mem_keys_iff d k).mp (List.mem_map.mpr ⟨(k, v), mem, rfl⟩)
  have same := List.inj_on_of_nodup_map d.nodup (mem_of_get? found) mem rfl
  cases same
  exact found

theorem mem_values_of_get? {d : Dict κ ν} {k : κ} {v : ν} (found : d.get? k = some v) :
    v ∈ d.values :=
  List.mem_map.mpr ⟨(k, v), mem_of_get? found, rfl⟩

theorem get?_eq_none_iff (d : Dict κ ν) (k : κ) : d.get? k = none ↔ k ∉ d.keys := by
  rw [mem_keys_iff, Option.eq_none_iff_forall_ne_some]
  simp

theorem get?_filterKeys (d : Dict κ ν) (p : κ → Bool) (j : κ) :
    (d.filterKeys p).get? j = if p j then d.get? j else none := by
  simp only [filterKeys, get?]
  induction d.entries with
  | nil => simp
  | cons e es ih =>
    obtain ⟨i, w⟩ := e
    by_cases same : j = i
    · subst same
      by_cases kept : p j
      · simp only [List.filter_cons, if_pos kept, List.lookup_cons_self]
      · simp only [List.filter_cons, if_neg kept, ih]
    · rw [lookup_cons_other same, ← ih]
      by_cases kept : p i
      · simp only [List.filter_cons, if_pos kept, lookup_cons_other same]
      · simp only [List.filter_cons, if_neg kept]

theorem get?_erase (d : Dict κ ν) (k j : κ) :
    (d.erase k).get? j = if j = k then none else d.get? j := by
  rw [erase, get?_filterKeys]
  by_cases same : j = k <;> simp [same]

theorem mem_keys_set (d : Dict κ ν) (k j : κ) (v : ν) :
    j ∈ (d.set k v).keys ↔ j = k ∨ j ∈ d.keys := by
  rw [mem_keys_iff, mem_keys_iff, get?_set]
  by_cases same : j = k <;> simp [same]

theorem length_set (d : Dict κ ν) (k : κ) (v : ν) :
    (d.set k v).entries.length = if k ∈ d.keys then d.entries.length else d.entries.length + 1 := by
  have listed := congrArg List.length (putEntry_keys k v d.entries)
  rw [List.length_map] at listed
  rw [set, listed, keys]
  split <;> simp

theorem entries_set_ne_nil (d : Dict κ ν) (k : κ) (v : ν) : (d.set k v).entries ≠ [] := by
  intro none
  have member := (mem_keys_set d k k v).mpr (.inl rfl)
  rw [keys, none] at member
  exact List.not_mem_nil member

theorem mem_keys_filterKeys (d : Dict κ ν) (p : κ → Bool) (j : κ) :
    j ∈ (d.filterKeys p).keys ↔ p j ∧ j ∈ d.keys := by
  rw [mem_keys_iff, mem_keys_iff, get?_filterKeys]
  by_cases kept : p j <;> simp [kept]

theorem mem_keys_erase (d : Dict κ ν) (k j : κ) :
    j ∈ (d.erase k).keys ↔ j ≠ k ∧ j ∈ d.keys := by
  rw [erase, mem_keys_filterKeys]
  simp

theorem map_set {γ : Type} {d : Dict κ ν} {k : κ} {old v : ν} (found : d.get? k = some old)
    (f : κ × ν → γ) (same : f (k, v) = f (k, old)) : (d.set k v).entries.map f = d.entries.map f := by
  have each : ∀ es : List (κ × ν), es.lookup k = some old → (putEntry k v es).map f = es.map f := by
    intro es stored
    induction es with
    | nil => cases stored
    | cons e es ih =>
      obtain ⟨i, w⟩ := e
      by_cases here : k = i
      · subst here
        rw [List.lookup_cons_self] at stored
        cases stored
        rw [putEntry, if_pos rfl, List.map_cons, List.map_cons, same]
      · rw [lookup_cons_other here] at stored
        rw [putEntry, if_neg (Ne.symm here), List.map_cons, List.map_cons, ih stored]
  exact each d.entries found

section Collect

variable {α : Type} (f : ν → List α)

def collect (d : Dict κ ν) : List α := d.entries.flatMap fun e => f e.2

theorem collect_putEntry {k : κ} {old : ν} {es : List (κ × ν)} (found : es.lookup k = some old) :
    ∃ rest, (es.flatMap fun e => f e.2).Perm (f old ++ rest) ∧
      ∀ v, ((putEntry k v es).flatMap fun e => f e.2).Perm (f v ++ rest) := by
  induction es with
  | nil => cases found
  | cons e es ih =>
    obtain ⟨i, w⟩ := e
    by_cases same : k = i
    · subst same
      rw [List.lookup_cons_self] at found
      cases found
      refine ⟨es.flatMap fun e => f e.2, .refl _, fun v => ?_⟩
      rw [putEntry, if_pos rfl]
      exact .refl _
    · rw [lookup_cons_other same] at found
      obtain ⟨rest, before, after⟩ := ih found
      have swapped : ∀ xs ys : List α, ys.Perm (xs ++ rest) → (f w ++ ys).Perm (xs ++ (f w ++ rest)) := by
        intro xs ys perm
        rw [← List.append_assoc]
        refine (perm.append_left (f w)).trans ?_
        rw [← List.append_assoc]
        exact List.perm_append_comm.append_right rest
      refine ⟨f w ++ rest, swapped _ _ before, fun v => ?_⟩
      rw [putEntry, if_neg (Ne.symm same)]
      exact swapped _ _ (after v)

theorem collect_putEntry_nil {k : κ} {v : ν} {es : List (κ × ν)} (nothing : f v = [])
    (empty : (es.flatMap fun e => f e.2) = []) : ((putEntry k v es).flatMap fun e => f e.2) = [] := by
  induction es with
  | nil => simp [putEntry, nothing]
  | cons e es ih =>
    rw [List.flatMap_cons, List.append_eq_nil_iff] at empty
    rw [putEntry]
    split
    · rw [List.flatMap_cons, nothing, empty.2, List.nil_append]
    · rw [List.flatMap_cons, empty.1, ih empty.2, List.nil_append]

theorem collect_set {d : Dict κ ν} {k : κ} {old : ν} (found : d.get? k = some old) :
    ∃ rest, (d.collect f).Perm (f old ++ rest) ∧ ∀ v, ((d.set k v).collect f).Perm (f v ++ rest) :=
  collect_putEntry f found

theorem collect_set_new {d : Dict κ ν} {k : κ} (missing : d.get? k = none) (v : ν) :
    (d.set k v).collect f = d.collect f ++ f v := by
  have each (es : List (κ × ν)) (missing : es.lookup k = none) :
      (putEntry k v es).flatMap (fun e => f e.2) = es.flatMap (fun e => f e.2) ++ f v := by
    induction es with
    | nil => simp [putEntry]
    | cons e es ih =>
      obtain ⟨i, w⟩ := e
      have other : k ≠ i := by
        rintro rfl
        simp at missing
      rw [lookup_cons_other other] at missing
      simp [putEntry, other.symm, ih missing]
  exact each d.entries missing

end Collect

def fill (d : Dict κ ν) (keys : List κ) (v : ν) : Dict κ ν := keys.foldl (fun d k => d.set k v) d

theorem mem_keys_fill (d : Dict κ ν) (keys : List κ) (v : ν) (j : κ) :
    j ∈ (d.fill keys v).keys ↔ j ∈ keys ∨ j ∈ d.keys := by
  induction keys generalizing d with
  | nil => simp [fill]
  | cons k keys ih =>
    rw [fill, List.foldl_cons]
    refine (ih (d.set k v)).trans ?_
    rw [mem_keys_set, List.mem_cons]
    tauto

theorem get?_fill {d : Dict κ ν} {keys : List κ} {j : κ} {v w : ν}
    (found : (d.fill keys v).get? j = some w) : w = v ∨ d.get? j = some w := by
  induction keys generalizing d with
  | nil => exact .inr found
  | cons k keys ih =>
    rcases ih found with same | earlier
    · exact .inl same
    · rw [get?_set] at earlier
      split at earlier
      · exact .inl (Option.some.inj earlier).symm
      · exact .inr earlier

theorem collect_fill {α : Type} {f : ν → List α} {d : Dict κ ν} {v : ν} (nothing : f v = [])
    (empty : d.collect f = []) (keys : List κ) : (d.fill keys v).collect f = [] := by
  induction keys generalizing d with
  | nil => exact empty
  | cons k keys ih => exact ih (collect_putEntry_nil f nothing empty)

end Dict
