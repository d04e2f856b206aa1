import KuvaAI.Lib.HashChain
import KuvaAI.Lib.Runs
import KuvaAI.Knowledge.PatternReadings

/-! Cached answers against the table. An insertion or a deletion leaves the answers
right that it removes from the cache or that it does not touch; a single insertion
and a deletion remove none. -/
namespace KuvaAI.Rdf
open Python HashChain

section Keys

variable {V : Type} (backend : Backend V)

/-- The texts of the objects tell them apart in the text of a dictionary. -/
def ReprsTell (objects : Objects V) : Prop :=
  ∀ v w, Apart (objects.repr v) (objects.repr w) ∧ (objects.repr v = objects.repr w → v = w)

def keyBytes (pattern : TriplePattern V) : Bytes := encode (keyText backend pattern)

theorem keyData_lookup (p : TriplePattern V) :
    (keyData backend p).lookup "subject" = p.subject.map (reprChars backend.printable) ∧
    (keyData backend p).lookup "predicate" = p.predicate.map (reprChars backend.printable) ∧
    (keyData backend p).lookup "object" = p.object.map backend.objects.repr ∧
    (keyData backend p).lookup "context" = p.context.map (reprList backend.printable) := by
  obtain ⟨subject, predicate, object, context⟩ := p
  cases subject <;> cases predicate <;> cases object <;> cases context <;>
    simp [keyData, List.lookup_cons]

variable {backend}

theorem keyData_injective (tell : ReprsTell backend.objects) {p q : TriplePattern V}
    (same : keyData backend p = keyData backend q) : p = q := by
  have objects : Function.Injective backend.objects.repr := fun v w => (tell v w).2
  obtain ⟨subject, predicate, object, context⟩ := keyData_lookup backend p
  obtain ⟨subject', predicate', object', context'⟩ := keyData_lookup backend q
  rw [← same] at subject' predicate' object' context'
  have first := Option.map_injective (reprChars_injective _) (subject.symm.trans subject')
  have second := Option.map_injective (reprChars_injective _) (predicate.symm.trans predicate')
  have third := Option.map_injective objects (object.symm.trans object')
  have fourth := Option.map_injective (reprList_injective _) (context.symm.trans context')
  cases p
  cases q
  cases first
  cases second
  cases third
  cases fourth
  rfl

theorem keyData_apart (tell : ReprsTell backend.objects) (p q : TriplePattern V) (key : String)
    (v w : List Char) (memP : (key, v) ∈ keyData backend p) (memQ : (key, w) ∈ keyData backend q) :
    Apart v w := by
  simp only [keyData, List.mem_append, List.mem_map, Prod.mk.injEq] at memP memQ
  rcases memP with ((⟨s, _, rfl, rfl⟩ | ⟨s, _, rfl, rfl⟩) | ⟨a, _, rfl, rfl⟩) | ⟨xs, _, rfl, rfl⟩ <;>
    simp only [String.reduceEq, false_and, and_false, exists_false, false_or, or_false, true_and]
      at memQ
  · obtain ⟨t, _, rfl⟩ := memQ
    exact apart_reprChars _ s t
  · obtain ⟨t, _, rfl⟩ := memQ
    exact apart_reprChars _ s t
  · obtain ⟨b, _, rfl⟩ := memQ
    exact (tell a b).1
  · obtain ⟨ys, _, rfl⟩ := memQ
    exact apart_reprList _ xs ys

theorem keyText_injective (tell : ReprsTell backend.objects) {p q : TriplePattern V}
    (same : keyText backend p = keyText backend q) : p = q :=
  keyData_injective tell (reprDict_injective backend.printable (keyData_apart tell p q)
    (String.ofList_injective same))

theorem cacheKey_injective (tell : ReprsTell backend.objects) {known : List (TriplePattern V)}
    (noCollision : ¬ Collides backend.sha256 (known.map (keyBytes backend))) {p q : TriplePattern V}
    (hp : p ∈ known) (hq : q ∈ known) (same : cacheKey backend p = cacheKey backend q) : p = q := by
  rw [cacheKey, cacheKey, String.append_right_inj] at same
  have digest := Subtype.ext (hex_injective same)
  by_contra differ
  refine noCollision ⟨_, List.mem_map_of_mem hp, _, List.mem_map_of_mem hq, ?_, digest⟩
  exact fun bytes => differ (keyText_injective tell (encode_injective bytes))

/-! ### The glob of a deletion -/

def literals (glob : List Char) : Nat := (glob.filter (· ≠ '*')).length

theorem literals_cons (c : Char) (glob : List Char) :
    literals (c :: glob) = (if c = '*' then 0 else 1) + literals glob := by
  by_cases star : c = '*'
  · simp [literals, star]
  · simp [literals, star, Nat.add_comm]

theorem literals_append (front back : List Char) :
    literals (front ++ back) = literals front + literals back := by
  simp [literals]

theorem literals_le {glob key : List Char} (matched : globMatches glob key = true) :
    literals glob ≤ key.length := by
  fun_induction globMatches glob key with
  | case1 s => simp [literals]
  | case2 c glob ih =>
    simp only [Bool.and_eq_true, decide_eq_true_eq] at matched
    rw [literals_cons, if_pos matched.1, Nat.zero_add]
    exact ih matched.2
  | case3 glob d s ih₁ ih₂ =>
    rcases Bool.or_eq_true_iff.mp matched with skipped | taken
    · rw [literals_cons, if_pos rfl, Nat.zero_add]
      exact ih₁ skipped
    · exact Nat.le_succ_of_le (ih₂ taken)
  | case4 c glob d s other ih =>
    simp only [Bool.and_eq_true, decide_eq_true_eq] at matched
    have inner := ih matched.2
    rw [literals_cons, if_neg other, List.length_cons]
    omega

theorem hexDigit_ne_star (n : Nat) : hexDigit n ≠ '*' := by
  by_cases small : n < 16
  · have table : ∀ n < 16, hexDigit n ≠ '*' := by decide
    exact table n small
  · have default_ : hexDigit n = '0' := List.getD_eq_default _ _ (by simpa using small)
    rw [default_]
    decide

theorem literals_cacheKey (p : TriplePattern V) : literals (cacheKey backend p).toList = 74 := by
  have digits : ∀ data : Bytes, literals (hex data).toList = 2 * data.length := by
    intro data
    induction data with
    | nil => rfl
    | cons b data ih =>
      rw [hex, String.toList_ofList] at ih ⊢
      rw [List.flatMap_cons, literals_append, ih, literals_cons, literals_cons,
        if_neg (hexDigit_ne_star _), if_neg (hexDigit_ne_star _), List.length_cons]
      simp only [literals, List.filter_nil, List.length_nil]
      omega
  rw [cacheKey, String.toList_append, literals_append, digits, (backend.sha256 _).2]
  decide

theorem length_cacheKey (p : TriplePattern V) : (cacheKey backend p).toList.length = 74 := by
  have digits : ∀ data : Bytes, (hex data).toList.length = 2 * data.length := by
    intro data
    simp [hex, Nat.mul_comm]
  rw [cacheKey, String.toList_append, List.length_append, digits, (backend.sha256 _).2]
  decide

/-- The glob repeats the prefix of the key, so that it is too long for any key. -/
theorem invalidate_get? (p q : TriplePattern V) (s : RDFTripleStore V) :
    (invalidateCache backend p s).cache.get? (cacheKey backend q) =
      s.cache.get? (cacheKey backend q) := by
  have misses : globMatches ("rdf:cache:*" ++ cacheKey backend p ++ "*").toList
      (cacheKey backend q).toList = false := by
    rw [Bool.eq_false_iff]
    intro matched
    have long := literals_le matched
    rw [length_cacheKey, String.toList_append, String.toList_append, literals_append,
      literals_append, literals_cacheKey] at long
    have prefix_ : literals "rdf:cache:*".toList = 10 := by decide
    omega
  rw [invalidateCache, Dict.get?_filterKeys, misses]
  rfl

end Keys

section Coherence

variable {V : Type} (backend : Backend V) (known : List (TriplePattern V))

def answer (pattern : TriplePattern V) (s : RDFTripleStore V) : List (RDFTriple V) :=
  s.rows.filter (satisfies backend.objects pattern)

/-- Every query gets the rows that satisfy its where clause. -/
def Answers (s : RDFTripleStore V) : Prop :=
  ∀ p ∈ known, (query backend p s).1 = .ok (answer backend p s)

def Cached (s : RDFTripleStore V) (p : TriplePattern V) : Prop :=
  ∃ t rest, s.cache.get? (cacheKey backend p) = some (t :: rest)

def Accepts (s : RDFTripleStore V) (triples : List (RDFTriple V)) : Prop :=
  0 < backend.bulkSize ∧ insertRows backend s.rows triples ≠ none

/-- No cached answer loses or misses a row. The only entries removed from the cache
are those of the single fields of triples that are inserted in bulk. -/
def Clean (s : RDFTripleStore V) : Operation V → Prop
  | .insertTriple t => insertRows backend s.rows [t] ≠ none →
      ∀ p ∈ known, Cached backend s p → satisfies backend.objects p t = false
  | .insertBulk triples => Accepts backend s triples →
      ∀ p ∈ known, Cached backend s p → p ∈ triples.flatMap singleFieldPatterns ∨
        ∀ t ∈ triples, satisfies backend.objects p t = false
  | .deleteTriple pattern => ∀ p ∈ known, Cached backend s p →
      ∀ t ∈ s.rows, satisfies backend.objects pattern t = true → satisfies backend.objects p t = false
  | .query _ => True

def Operation.patterns : Operation V → List (TriplePattern V)
  | .insertTriple _ => []
  | .insertBulk triples => triples.flatMap singleFieldPatterns
  | .deleteTriple pattern => [pattern]
  | .query pattern => [pattern]

variable {backend known}

theorem query_hit {s : RDFTripleStore V} {p : TriplePattern V} {t : RDFTriple V}
    {rest : List (RDFTriple V)} (hit : s.cache.get? (cacheKey backend p) = some (t :: rest)) :
    query backend p s = (.ok (t :: rest), s) := by
  simp only [query, hit]

theorem query_miss {s : RDFTripleStore V} {p : TriplePattern V} (miss : ¬ Cached backend s p) :
    query backend p s = (.ok (answer backend p s),
      { s with cache := s.cache.set (cacheKey backend p) (answer backend p s) }) := by
  unfold query
  split
  · rename_i t rest hit
    exact absurd ⟨t, rest, hit⟩ miss
  · rfl

theorem answers_iff (s : RDFTripleStore V) :
    Answers backend known s ↔ ∀ p ∈ known, ∀ t rest,
      s.cache.get? (cacheKey backend p) = some (t :: rest) → t :: rest = answer backend p s := by
  constructor
  · intro answers p hp t rest hit
    have right := answers p hp
    rw [query_hit hit] at right
    exact Except.ok.inj right
  · intro coherent p hp
    by_cases cached : Cached backend s p
    · obtain ⟨t, rest, hit⟩ := cached
      rw [query_hit hit, coherent p hp t rest hit]
    · rw [query_miss cached]

theorem answers_change {s s' : RDFTripleStore V} (answers : Answers backend known s)
    (Removed : TriplePattern V → Prop) [DecidablePred Removed]
    (cache : ∀ p ∈ known, s'.cache.get? (cacheKey backend p) =
      if Removed p then none else s.cache.get? (cacheKey backend p)) :
    Answers backend known s' ↔
      ∀ p ∈ known, Cached backend s p → Removed p ∨ answer backend p s' = answer backend p s := by
  have coherent := (answers_iff s).mp answers
  rw [answers_iff]
  constructor
  · rintro kept p hp ⟨t, rest, hit⟩
    by_cases removed : Removed p
    · exact .inl removed
    · have still := cache p hp
      rw [if_neg removed, hit] at still
      exact .inr ((kept p hp t rest still).symm.trans (coherent p hp t rest hit))
  · intro kept p hp t rest hit
    rw [cache p hp] at hit
    split at hit
    · cases hit
    · rename_i stays
      rcases kept p hp ⟨t, rest, hit⟩ with removed | same
      · exact absurd removed stays
      · rw [same]
        exact coherent p hp t rest hit

theorem answers_same_cache {s : RDFTripleStore V} (answers : Answers backend known s)
    (s' : RDFTripleStore V)
    (cache : ∀ p ∈ known, s'.cache.get? (cacheKey backend p) = s.cache.get? (cacheKey backend p)) :
    Answers backend known s' ↔
      ∀ p ∈ known, Cached backend s p → answer backend p s' = answer backend p s := by
  rw [answers_change answers (fun _ => False) (fun p hp => by rw [cache p hp, if_neg id])]
  simp only [false_or]

theorem answer_append_iff {s s' : RDFTripleStore V} {triples : List (RDFTriple V)}
    (rows : s'.rows = s.rows ++ triples) (p : TriplePattern V) :
    answer backend p s' = answer backend p s ↔
      ∀ t ∈ triples, satisfies backend.objects p t = false := by
  rw [answer, answer, rows, List.filter_append, List.append_right_eq_self, List.filter_eq_nil_iff]
  simp only [Bool.not_eq_true]

theorem answer_filter_iff {s s' : RDFTripleStore V} {pattern : TriplePattern V}
    (rows : s'.rows = s.rows.filter fun t => !satisfies backend.objects pattern t)
    (p : TriplePattern V) :
    answer backend p s' = answer backend p s ↔
      ∀ t ∈ s.rows, satisfies backend.objects pattern t = true →
        satisfies backend.objects p t = false := by
  rw [answer, answer, rows, List.filter_filter]
  constructor
  · intro same t row deleted
    by_contra found
    rw [Bool.not_eq_false] at found
    have member : t ∈ s.rows.filter (satisfies backend.objects p) := List.mem_filter.mpr ⟨row, found⟩
    rw [← same, List.mem_filter] at member
    simp [deleted] at member
  · intro apart
    apply List.filter_congr
    intro t row
    cases deleted : satisfies backend.objects pattern t with
    | false => simp
    | true => simp [apart t row deleted]

theorem insertRows_some {rows batch rows' : List (RDFTriple V)}
    (inserted : insertRows backend rows batch = some rows') : rows' = rows ++ batch := by
  induction batch generalizing rows with
  | nil =>
    cases inserted
    exact (List.append_nil _).symm
  | cons t batch ih =>
    rw [insertRows, List.foldlM_cons] at inserted
    by_cases twice : rows.any (sameRow backend t) = true
    · rw [if_pos twice] at inserted
      cases inserted
    · rw [if_neg twice] at inserted
      rw [ih inserted, List.append_assoc]
      rfl

theorem insertRows_append (rows batch rest : List (RDFTriple V)) :
    insertRows backend rows (batch ++ rest) =
      insertRows backend rows batch >>= fun rows => insertRows backend rows rest :=
  List.foldlM_append

theorem insertTriples_ok {s : RDFTripleStore V} {batch rows : List (RDFTriple V)}
    (inserted : insertRows backend s.rows batch = some rows) :
    insertTriples backend batch s = (.ok (), { s with rows }) := by
  simp only [insertTriples, inserted]

theorem insertTriples_error {s : RDFTripleStore V} {batch : List (RDFTriple V)}
    (twice : insertRows backend s.rows batch = none) :
    insertTriples backend batch s = (.error (.rdfConflictError "Duplicate triples detected"), s) := by
  simp only [insertTriples, twice]

theorem batches_flatten {α : Type} (size : Nat) (xs : List α) : (batches size xs).flatten = xs := by
  fun_induction batches size xs with
  | case1 => rfl
  | case2 x xs ih => rw [List.flatten_cons, ih, List.cons_append, List.take_append_drop]

theorem get?_erased (tell : ReprsTell backend.objects)
    (noCollision : ¬ Collides backend.sha256 (known.map (keyBytes backend)))
    [DecidableEq V] (cache : Dict String (List (RDFTriple V))) (patterns : List (TriplePattern V))
    (uses : ∀ q ∈ patterns, q ∈ known) {p : TriplePattern V} (hp : p ∈ known) :
    (patterns.foldl (fun cache q => cache.erase (cacheKey backend q)) cache).get?
        (cacheKey backend p) =
      if p ∈ patterns then none else cache.get? (cacheKey backend p) := by
  induction patterns generalizing cache with
  | nil => rfl
  | cons q patterns ih =>
    rw [List.foldl_cons, ih _ (fun r hr => uses r (List.mem_cons_of_mem _ hr)), Dict.get?_erase]
    have keys : cacheKey backend p = cacheKey backend q ↔ p = q :=
      ⟨cacheKey_injective tell noCollision hp (uses q List.mem_cons_self), fun same => by rw [same]⟩
    by_cases later : p ∈ patterns <;> by_cases here : p = q <;> simp [later, here, keys]

variable (backend) in
/-- A bulk insertion inserts all or nothing; the cache loses entries either way. -/
theorem insertBatches_spec (parts : List (List (RDFTriple V))) (s : RDFTripleStore V) :
    (∃ rows, insertRows backend s.rows parts.flatten = some rows ∧
      insertBatches backend parts s =
        (.ok (), updateCache backend parts.flatten { s with rows })) ∨
    (insertRows backend s.rows parts.flatten = none ∧
      ∃ e done rows, (∀ t ∈ done, t ∈ parts.flatten) ∧
        insertBatches backend parts s = (.error e, updateCache backend done { s with rows })) := by
  induction parts generalizing s with
  | nil => exact .inl ⟨s.rows, rfl, rfl⟩
  | cons batch parts ih =>
    rw [List.flatten_cons, insertRows_append]
    cases first : insertRows backend s.rows batch with
    | none =>
      refine .inr ⟨rfl, .rdfConflictError "Duplicate triples detected", [], s.rows, by simp, ?_⟩
      rw [insertBatches, insertTriples_error first]
      rfl
    | some rows =>
      rw [insertBatches, insertTriples_ok first]
      have joined : ∀ more rows', updateCache backend more
          { updateCache backend batch { s with rows } with rows := rows' } =
          updateCache backend (batch ++ more) { s with rows := rows' } := by
        intro more rows'
        simp only [updateCache, List.flatMap_append, List.foldl_append]
      rcases ih (updateCache backend batch { s with rows }) with
        ⟨rows', inserted, ran⟩ | ⟨twice, e, done, rows', sub, ran⟩
      · exact .inl ⟨rows', inserted, ran.trans (by rw [joined])⟩
      · refine .inr ⟨twice, e, batch ++ done, rows', ?_, ran.trans (by rw [joined])⟩
        intro t member
        rcases List.mem_append.mp member with here | later
        · exact List.mem_append_left _ here
        · exact List.mem_append_right _ (sub t later)

section Steps

variable (tell : ReprsTell backend.objects)
  (noCollision : ¬ Collides backend.sha256 (known.map (keyBytes backend)))
include tell noCollision

theorem updateCache_get? [DecidableEq V] {triples : List (RDFTriple V)}
    (uses : ∀ q ∈ triples.flatMap singleFieldPatterns, q ∈ known) (s : RDFTripleStore V)
    {p : TriplePattern V} (hp : p ∈ known) :
    (updateCache backend triples s).cache.get? (cacheKey backend p) =
      if p ∈ triples.flatMap singleFieldPatterns then none
      else s.cache.get? (cacheKey backend p) :=
  get?_erased tell noCollision s.cache _ uses hp

omit tell noCollision in
theorem insertTriple_answers {s : RDFTripleStore V} (answers : Answers backend known s)
    (t : RDFTriple V) :
    Answers backend known (insertTriple backend t s).2 ↔
      Clean backend known s (.insertTriple t) := by
  cases inserted : insertRows backend s.rows [t] with
  | none =>
    have same : (insertTriple backend t s).2 = s := by
      simp only [insertTriple, transaction, insertTriples_error inserted]
    rw [same]
    exact iff_of_true answers (fun accepted => absurd inserted accepted)
  | some rows =>
    have after : (insertTriple backend t s).2 = { s with rows } := by
      simp only [insertTriple, transaction, insertTriples_ok inserted]
    have grown : ({ s with rows } : RDFTripleStore V).rows = s.rows ++ [t] := insertRows_some inserted
    rw [after, answers_same_cache answers { s with rows } (fun _ _ => rfl)]
    simp only [answer_append_iff grown, List.mem_singleton, forall_eq, Clean,
      inserted, ne_eq, reduceCtorEq, not_false_eq_true, true_implies]

theorem insertBulk_answers [DecidableEq V] {s : RDFTripleStore V}
    (answers : Answers backend known s) {triples : List (RDFTriple V)}
    (uses : ∀ q ∈ triples.flatMap singleFieldPatterns, q ∈ known) :
    Answers backend known (insertBulk backend triples s).2 ↔
      Clean backend known s (.insertBulk triples) := by
  by_cases zero : backend.bulkSize = 0
  · have same : (insertBulk backend triples s).2 = s := by
      simp only [insertBulk, transaction, if_pos zero]
    rw [same]
    exact iff_of_true answers fun accepted => absurd accepted.1 (by omega)
  by_cases negative : backend.bulkSize < 0
  · have same : (insertBulk backend triples s).2 = s := by
      simp only [insertBulk, transaction, if_neg zero, if_pos negative]
    rw [same]
    exact iff_of_true answers fun accepted => absurd accepted.1 (by omega)
  have flat := batches_flatten backend.bulkSize.toNat triples
  have spec := insertBatches_spec backend (batches backend.bulkSize.toNat triples) s
  rw [flat] at spec
  rcases spec with ⟨rows, inserted, ran⟩ | ⟨twice, e, done, rows, sub, ran⟩
  · have after : (insertBulk backend triples s).2 = updateCache backend triples { s with rows } := by
      simp only [insertBulk, transaction, if_neg zero, if_neg negative, ran]
    have grown : (updateCache backend triples { s with rows }).rows = s.rows ++ triples :=
      insertRows_some inserted
    have accepted : Accepts backend s triples := ⟨by omega, by simp [inserted]⟩
    rw [after, answers_change answers (· ∈ triples.flatMap singleFieldPatterns)
      (fun p hp => updateCache_get? tell noCollision uses { s with rows } hp)]
    simp only [answer_append_iff grown, Clean, accepted, true_implies]
  · have after : (insertBulk backend triples s).2 = updateCache backend done s := by
      simp only [insertBulk, transaction, if_neg zero, if_neg negative, ran]
      rfl
    have usesDone : ∀ q ∈ done.flatMap singleFieldPatterns, q ∈ known := by
      intro q member
      obtain ⟨t, ht, single⟩ := List.mem_flatMap.mp member
      exact uses q (List.mem_flatMap.mpr ⟨t, sub t ht, single⟩)
    rw [after, answers_change answers (· ∈ done.flatMap singleFieldPatterns)
      (fun p hp => updateCache_get? tell noCollision usesDone s hp)]
    exact iff_of_true (fun _ _ _ => .inr rfl) fun accepted => absurd twice accepted.2

theorem query_answers {s : RDFTripleStore V} (answers : Answers backend known s)
    {q : TriplePattern V} (hq : q ∈ known) : Answers backend known (query backend q s).2 := by
  by_cases cached : Cached backend s q
  · obtain ⟨t, rest, hit⟩ := cached
    rw [query_hit hit]
    exact answers
  · rw [query_miss cached, answers_iff]
    intro p hp t rest hit
    rw [Dict.get?_set] at hit
    split at hit
    · rename_i keys
      rw [cacheKey_injective tell noCollision hp hq keys]
      exact (Option.some.inj hit).symm
    · exact (answers_iff s).mp answers p hp t rest hit

omit tell noCollision in
theorem deleteTriple_answers {s : RDFTripleStore V} (answers : Answers backend known s)
    (pattern : TriplePattern V) :
    Answers backend known (deleteTriple backend pattern s).2 ↔
      Clean backend known s (.deleteTriple pattern) := by
  rw [answers_same_cache answers (deleteTriple backend pattern s).2
    (fun p _ => invalidate_get? pattern p _)]
  have rows : (deleteTriple backend pattern s).2.rows =
      s.rows.filter fun t => !satisfies backend.objects pattern t := rfl
  simp only [answer_filter_iff rows, Clean]

theorem step_answers [DecidableEq V] {s : RDFTripleStore V} (answers : Answers backend known s)
    {op : Operation V} (uses : ∀ q ∈ op.patterns, q ∈ known) :
    Answers backend known (step backend s op) ↔ Clean backend known s op := by
  cases op with
  | insertTriple t => exact insertTriple_answers answers t
  | insertBulk triples => exact insertBulk_answers tell noCollision answers uses
  | deleteTriple pattern => exact deleteTriple_answers answers pattern
  | query pattern =>
    exact iff_of_true (query_answers tell noCollision answers (uses pattern List.mem_cons_self))
      trivial

end Steps

/-- Queries are answered from the table as it is, all along a run, exactly if no
insertion or deletion touches an answer that it leaves in the cache. -/
theorem queries_coherent_iff [DecidableEq V] (tell : ReprsTell backend.objects)
    {operations : List (Operation V)} (uses : ∀ op ∈ operations, ∀ q ∈ op.patterns, q ∈ known)
    (noCollision : ¬ Collides backend.sha256 (known.map (keyBytes backend))) :
    Runs.Always (step backend) (Answers backend known) .init operations ↔
      Runs.Each (step backend) (Clean backend known) .init operations := by
  apply Runs.always_iff_each_of_mem (fun _ => True)
  · exact fun _ _ _ _ => trivial
  · exact fun s op hop _ answers => step_answers tell noCollision answers (uses op hop)
  · trivial
  · intro p hp
    have miss : ¬ Cached backend RDFTripleStore.init p := by
      rintro ⟨_, _, hit⟩
      cases hit
    exact congrArg Prod.fst (query_miss miss)

end Coherence

section Instance

def devicePattern : TriplePattern String := ⟨some "urn:kuva:Device:123", none, none, none⟩

def deviceDigest : Digest :=
  ⟨[67, 182, 125, 231, 125, 72, 34, 116, 95, 88, 107, 172, 88, 210, 253, 132, 56, 150, 173, 144, 45,
    206, 236, 5, 179, 244, 128, 6, 215, 26, 233, 194], by decide⟩

def textBackend : Backend String where
  objects := textObjects
  printable := fun _ => true
  sha256 data :=
    if data = encode "\x7b'subject': 'urn:kuva:Device:123'\x7d" then deviceDigest
    else ⟨List.replicate 32 0, by decide⟩
  bulkSize := 1000

theorem reprsTell_text : ReprsTell textObjects :=
  fun v w => ⟨apart_reprChars _ v w, fun same => reprChars_injective _ same⟩

theorem noCollision_device :
    ¬ Collides textBackend.sha256 ([devicePattern].map (keyBytes textBackend)) :=
  not_collides_of_eq fun _ member => List.mem_singleton.mp member

theorem queries_coherent_device :
    Runs.Always (step textBackend) (Answers textBackend [devicePattern]) RDFTripleStore.init
        [.insertTriple (sensor []), .query devicePattern, .deleteTriple devicePattern] ↔
      Runs.Each (step textBackend) (Clean textBackend [devicePattern]) RDFTripleStore.init
        [.insertTriple (sensor []), .query devicePattern, .deleteTriple devicePattern] := by
  refine queries_coherent_iff reprsTell_text ?_ noCollision_device
  intro op member q used
  simp only [List.mem_cons, List.not_mem_nil, or_false] at member
  rcases member with rfl | rfl | rfl
  · cases used
  · exact used
  · exact used

def located : RDFTriple String where
  subject := "urn:kuva:Device:123"
  predicate := "http://schema.org/location"
  object := some "urn:kuva:Site:7"
  context := []
  datatype := none
  language := none
  validSubject := (sensor []).validSubject
  validPredicate := by decide

/-- A triple inserted after a query is missing from the next answer to it. -/
theorem inserted_triple_not_found :
    ∃ (s : RDFTripleStore String) (operations : List (Operation String)),
      operations = [.insertTriple (sensor []), .query devicePattern, .insertTriple located] ∧
      s = Runs.run (step textBackend) RDFTripleStore.init operations ∧
      ¬ Collides textBackend.sha256 ([devicePattern].map (keyBytes textBackend)) ∧
      (query textBackend devicePattern s).1 = .ok [sensor []] ∧
      answer textBackend devicePattern s = [sensor [], located] := by
  refine ⟨_, _, rfl, rfl, noCollision_device, ?_, ?_⟩ <;> decide +kernel

end Instance

end KuvaAI.Rdf
