import KuvaAI.Workflow.GeneticElite
import KuvaAI.Workflow.GeneticSearch

/-! When `run_optimization` returns, and what it then has. -/
namespace KuvaAI.Genetic
open Python StableSelect Effect

section Splits

variable {α : Type}

def offset (each extras i : Nat) : Nat := i * each + min i extras

def extent (each extras i : Nat) : Nat := if i < extras then each + 1 else each

theorem offset_succ (each extras i : Nat) :
    offset each extras (i + 1) = offset each extras i + extent each extras i := by
  unfold offset extent
  rw [Nat.succ_mul]
  split <;> omega

theorem flatten_parts (xs : List α) (each extras n : Nat) :
    ((List.range n).map fun i => (xs.drop (offset each extras i)).take (extent each extras i)).flatten =
      xs.take (offset each extras n) := by
  induction n with
  | zero => simp [offset]
  | succ n ih =>
    rw [List.range_succ, List.map_append, List.flatten_append, ih, offset_succ, List.take_add]
    simp

variable {xs : List α} {sections : Int} {parts : List (List α)}

theorem arraySplit_flatten (split : arraySplit xs sections = .ok parts) : parts.flatten = xs := by
  rw [arraySplit] at split
  split_ifs at split with none
  obtain rfl := Except.ok.inj split
  have positive : 0 < sections.toNat := by omega
  refine (flatten_parts xs _ _ _).trans (List.take_of_length_le ?_)
  have whole := Nat.div_add_mod xs.length sections.toNat
  have rest := Nat.mod_lt xs.length positive
  rw [offset, Nat.min_eq_right rest.le]
  exact whole.ge

theorem arraySplit_pairs (split : arraySplit xs sections = .ok parts) :
    (∀ part ∈ parts, 2 ≤ part.length) ↔ 2 * sections ≤ xs.length := by
  rw [arraySplit] at split
  split_ifs at split with none
  obtain rfl := Except.ok.inj split
  have positive : 0 < sections.toNat := by omega
  set n := sections.toNat with isCount
  set each := xs.length / n
  set extras := xs.length % n
  have whole : n * each + extras = xs.length := Nat.div_add_mod xs.length n
  have rest : extras < n := Nat.mod_lt xs.length positive
  have long (i : Nat) (within : i < n) :
      ((xs.drop (offset each extras i)).take (extent each extras i)).length = extent each extras i := by
    have fits : offset each extras i + extent each extras i ≤ xs.length := by
      rw [← offset_succ, offset, ← whole]
      exact Nat.add_le_add (Nat.mul_le_mul_right each within) (Nat.min_le_right _ _)
    rw [List.length_take, List.length_drop]
    omega
  constructor
  · intro pairs
    have last := pairs _ (List.mem_map.mpr ⟨n - 1, List.mem_range.mpr (by omega), rfl⟩)
    have short : extent each extras (n - 1) = each := if_neg (by omega)
    change 2 ≤ ((xs.drop (offset each extras (n - 1))).take (extent each extras (n - 1))).length at last
    rw [long (n - 1) (by omega), short] at last
    have many := Nat.mul_le_mul_left n last
    omega
  · intro enough part member
    obtain ⟨i, within, rfl⟩ := List.mem_map.mp member
    have two : 2 ≤ each := (Nat.le_div_iff_mul_le positive).mpr (by omega)
    refine le_trans two (le_of_le_of_eq ?_ (long i (List.mem_range.mp within)).symm)
    rw [extent]
    split <;> omega

theorem sample_ok_iff (draw : SampleDraw) (xs : List α) (k : Nat) :
    (∃ ys, sample draw xs k = .ok ys) ↔ k ≤ xs.length := by
  by_cases few : xs.length < k
  · rw [sample, if_pos few]
    exact iff_of_false nofun (by omega)
  · rw [sample, if_neg few]
    exact iff_of_true ⟨_, rfl⟩ (by omega)

theorem sample_subset {draw : SampleDraw} {k : Nat} {ys : List α} (drawn : sample draw xs k = .ok ys) :
    ys ⊆ xs := by
  rw [sample] at drawn
  split_ifs at drawn
  obtain rfl := Except.ok.inj drawn
  intro y member
  obtain ⟨i, -, found⟩ := List.mem_filterMap.mp member
  exact List.mem_of_getElem? found

end Splits

theorem evaluated_of_keyed {F : Type} {xs : List (Individual F)} {pairs : List (F × Individual F)} (found : keyed xs = .ok pairs) :
    ∀ x ∈ xs, x.Evaluated := by
  intro x member
  obtain ⟨pair, isFound⟩ := exists_mapM_iff.mp ⟨pairs, found⟩ x member
  cases scored : x.fitness.get? "fitness" with
  | none =>
    rw [scored] at isFound
    cases isFound
  | some fitness => exact (Dict.mem_keys_iff _ _).mpr ⟨fitness, scored⟩

variable {F : Type} {d : Nat} [Field F] [LinearOrder F] {outside : Outside F d}
  {config : SearchConfig F} {generation fuel : Nat}

section Migration

variable {xs ys : List (Individual F)}

/-- Two migrants can leave every island exactly when there are two for each. -/
theorem islandMigration_ok_iff : (∃ ys, islandMigration outside config generation xs = .ok ys) ↔
    1 ≤ config.islandCount ∧ 2 * config.islandCount ≤ xs.length := by
  cases split : arraySplit xs config.islandCount with
  | error e =>
    have none : config.islandCount ≤ 0 := by
      by_contra some
      rw [arraySplit, if_neg some] at split
      cases split
    rw [islandMigration, split]
    exact iff_of_false nofun (by omega)
  | ok parts =>
    have some : 1 ≤ config.islandCount := by
      by_contra none
      rw [arraySplit, if_pos (by omega)] at split
      cases split
    have drawn : (∃ migrants, parts.zipIdx.mapM
        (fun part => sample (outside.picks generation part.2) part.1 2) = .ok migrants) ↔
        ∀ part ∈ parts, 2 ≤ part.length := by
      simp only [exists_mapM_iff, sample_ok_iff]
      rw [← List.forall_mem_map (f := Prod.fst) (P := fun part : List (Individual F) => 2 ≤ part.length),
        List.zipIdx_map_fst]
    rw [← arraySplit_pairs split, ← drawn, islandMigration, split, bind_ok]
    constructor
    · rintro ⟨ys, migrated⟩
      obtain ⟨migrants, drawn, -⟩ := bind_eq_ok migrated
      exact ⟨some, migrants, drawn⟩
    · rintro ⟨-, migrants, drawn⟩
      rw [drawn]
      exact ⟨_, rfl⟩

theorem islandMigration_adds (migrated : islandMigration outside config generation xs = .ok ys) :
    ∃ migrants, ys = xs ++ migrants ∧ migrants ⊆ xs := by
  obtain ⟨parts, split, migrated⟩ := bind_eq_ok migrated
  obtain ⟨migrants, drawn, ended⟩ := bind_eq_ok migrated
  obtain rfl := Except.ok.inj ended
  rw [arraySplit_flatten split]
  refine ⟨_, rfl, fun x member => ?_⟩
  have among := (outside.shuffle_perm generation migrants.flatten).mem_iff.mp member
  obtain ⟨group, listed, inGroup⟩ := List.mem_flatten.mp among
  obtain ⟨part, indexed, picked⟩ := mem_of_mapM drawn group listed
  rw [← arraySplit_flatten split]
  exact List.mem_flatten.mpr ⟨part.1, List.fst_mem_of_mem_zipIdx indexed, sample_subset picked inGroup⟩

end Migration

variable [FloorRing F]

section Evolution

variable {xs : List (Individual F)}

omit [FloorRing F] in
/-- A pass that comes to make children raises before it mutates them. -/
theorem breed_raises (outside : Outside F d) (config : SearchConfig F) (draws : Nat → PassDraws F d)
    (population : List (Individual F)) (w : World F d) :
    wp (breed outside config draws population) (fun _ _ => False) (fun _ _ => True) w := by
  rw [breed, wp_bind, wp_get, wp_bind]
  cases select (operators config).tournamentSize (draws w.passes).tournament population 2 with
  | error e => trivial
  | ok parents =>
    match parents with
    | [] => trivial
    | [_] => trivial
    | parent1 :: parent2 :: _ =>
      exact (wp_bind _ _ _ _ _).mpr (wp_of_forall (fun _ _ => trivial) fun _ _ => trivial)

def elite (config : SearchConfig F) (xs : List (Individual F)) : List (Individual F) :=
  slice (sortOn (fun x => OrderDual.toDual x.score) xs)
    (truncate (config.elitismRatio * config.populationSize))

/-- A generation comes about only where the elite is all of it. -/
theorem evolveNew_spec (outside : Outside F d) (config : SearchConfig F) (generation : Nat)
    (xs : List (Individual F)) (heap : Heap F d) (fueled : 0 < fuel) :
    wp (evolveNew outside config generation fuel xs)
    (fun next w => (∀ x ∈ xs, x.Evaluated) ∧ config.populationSize ≤ (elite config xs).length ∧
      next = slice (elite config xs) config.populationSize ∧ w.heap = heap)
    (fun _ _ => ¬ ((∀ x ∈ xs, x.Evaluated) ∧ config.populationSize ≤ (elite config xs).length))
    ⟨heap, [], 0⟩ := by
  obtain ⟨passes, rfl⟩ := Nat.exists_eq_succ_of_ne_zero fueled.ne'
  by_cases evaluated : ∀ x ∈ xs, x.Evaluated
  · rw [evolveNew, wp_bind, sortedByFitness_eq evaluated, wp_fromExcept_ok, wp_bind, wp_modify, wp_bind]
    by_cases full : config.populationSize ≤ (elite config xs).length
    · have still : Loop.run (growing (operators config))
          (breed outside config (outside.passes generation) xs) (passes + 1) ⟨heap, elite config xs, 0⟩ =
          (.ok false, ⟨heap, elite config xs, 0⟩) := by
        have settled : ¬ growing (operators config) ⟨heap, elite config xs, 0⟩ := not_lt.mpr full
        rw [Loop.run_succ, if_neg settled]
      refine (wp_of_ok still).mpr ?_
      exact ⟨evaluated, full, rfl, rfl⟩
    · have raises := breed_raises outside config (outside.passes generation) xs
        ⟨heap, elite config xs, 0⟩
      obtain ⟨e, w, raised, -⟩ := exists_of_wp_error raises
      have stops : Loop.run (growing (operators config))
          (breed outside config (outside.passes generation) xs) (passes + 1) ⟨heap, elite config xs, 0⟩ =
          (.error e, w) := by
        have grows : growing (operators config) ⟨heap, elite config xs, 0⟩ := not_le.mp full
        rw [Loop.run_succ, if_pos grows, raised]
      exact (wp_of_error stops).mpr fun both => full both.2
  · cases sorted : sortedByFitness xs with
    | ok ranked =>
      obtain ⟨pairs, found, -⟩ := bind_eq_ok sorted
      exact absurd (evaluated_of_keyed found) evaluated
    | error e =>
      rw [evolveNew, wp_bind, sorted]
      exact fun both => evaluated both.1

end Evolution

section Steps

structure IsBest (b : F) (xs : List (Individual F)) : Prop where
  attained : ∃ x ∈ xs, x.score = b
  bound : ∀ x ∈ xs, x.score ≤ b

omit [FloorRing F] in
theorem IsBest.unique {b c : F} {xs ys : List (Individual F)} (best : IsBest b xs) (other : IsBest c ys)
    (fewer : ys ⊆ xs) (reaches : ∃ y ∈ ys, b ≤ y.score) : c = b := by
  obtain ⟨x, member, rfl⟩ := other.attained
  obtain ⟨y, among, above⟩ := reaches
  exact le_antisymm (best.bound x (fewer member)) (above.trans (other.bound y among))

structure Recorded (config : SearchConfig F) (s t : Search F d) : Prop where
  heap : t.heap = s.heap
  population : t.population = s.population
  best : t.best = s.best
  adaptive : config.adaptiveMutation = true →
    ∃ b, IsBest b s.population ∧ t.fitnessHistory = s.fitnessHistory ++ [b]
  plain : config.adaptiveMutation = false → t.fitnessHistory = s.fitnessHistory

variable {s t u : Search F d}

omit [FloorRing F] in
theorem isBest_of_max {xs : List (Individual F)} {b : F}
    (greatest : (xs.map Individual.score).max? = some b) : IsBest b xs := by
  obtain ⟨attained, bound⟩ := List.max?_eq_some_iff.mp greatest
  obtain ⟨x, member, rfl⟩ := List.mem_map.mp attained
  exact ⟨⟨x, member, rfl⟩, fun y among => bound _ (List.mem_map_of_mem among)⟩

omit [FloorRing F] in
theorem adaptiveControl_ok (evaluated : ∀ x ∈ s.population, x.Evaluated) (some : s.population ≠ []) :
    ∃ t b, adaptiveControl config s = .ok t ∧ IsBest b s.population ∧
      t.fitnessHistory = s.fitnessHistory ++ [b] ∧ t.heap = s.heap ∧ t.population = s.population ∧
      t.best = s.best := by
  have scores : (s.population.map fun x => (x.score, x)).map Prod.fst = s.population.map Individual.score := by
    rw [List.map_map]
    rfl
  rw [adaptiveControl, keyed_eq evaluated, bind_ok, scores]
  cases greatest : (s.population.map Individual.score).max? with
  | none => simp [some] at greatest
  | some b =>
    refine ⟨_, b, rfl, isBest_of_max greatest, rfl, ?_⟩
    rw [adjust]
    split
    · split <;> exact ⟨rfl, rfl, rfl⟩
    · exact ⟨rfl, rfl, rfl⟩

omit [FloorRing F] in
theorem adapt_ok (config : SearchConfig F) (s : Search F d) (evaluated : ∀ x ∈ s.population, x.Evaluated) (some : s.population ≠ []) :
    ∃ t, adapt config s = .ok t ∧ Recorded config s t := by
  cases adapts : config.adaptiveMutation with
  | true =>
    obtain ⟨t, b, adapted, best, history, heap, population, kept⟩ := adaptiveControl_ok evaluated some
    refine ⟨t, (if_pos adapts).trans adapted, heap, population, kept, fun _ => ⟨b, best, history⟩, ?_⟩
    exact fun plain => nomatch adapts.symm.trans plain
  | false =>
    refine ⟨s, if_neg (by simp [adapts]), rfl, rfl, rfl, fun adaptive => ?_, fun _ => rfl⟩
    exact nomatch adapts.symm.trans adaptive

omit [FloorRing F] in
theorem adapt_keeps (adapted : adapt config s = .ok t) : t.heap = s.heap ∧ t.population = s.population ∧
    t.best = s.best := by
  rw [adapt] at adapted
  split_ifs at adapted
  · obtain ⟨pairs, found, -⟩ := bind_eq_ok adapted
    have some : s.population ≠ [] := by
      intro none
      rw [adaptiveControl, none] at adapted
      cases adapted
    obtain ⟨t', b, again, -, -, kept⟩ := adaptiveControl_ok (evaluated_of_keyed found) some
    obtain rfl := Except.ok.inj (again.symm.trans adapted)
    exact kept
  · obtain rfl := Except.ok.inj adapted
    exact ⟨rfl, rfl, rfl⟩

def evaluations (outside : Outside F d) (s : Search F d) : List (Individual F) :=
  s.population.map (evaluate outside.objective s.heap)

theorem generationStep_ok_iff (fueled : 0 < fuel) {ended : Bool × Search F d} :
    generationStep outside config fuel generation s = .ok ended ↔
      ∃ t population, adapt config { s with population := evaluations outside s } = .ok t ∧
        (∀ x ∈ t.population, x.Evaluated) ∧ config.populationSize ≤ (elite config t.population).length ∧
        migrate outside config generation (slice (elite config t.population) config.populationSize) =
          .ok population ∧
        conclude outside config { t with population := population } = .ok ended := by
  constructor
  · intro ran
    obtain ⟨t, adapted, ran⟩ := bind_eq_ok ran
    rcases wp_cases (evolveNew_spec outside config generation t.population t.heap fueled) with
      ⟨next, w, evolved, evaluated, full, rfl, same⟩ | ⟨e, w, failed, -⟩
    · simp only [evolved, bind_ok] at ran
      obtain ⟨population, migrated, concluded⟩ := bind_eq_ok ran
      rw [same] at concluded
      exact ⟨t, population, adapted, evaluated, full, migrated, concluded⟩
    · simp only [failed, bind_error] at ran
      cases ran
  · rintro ⟨t, population, adapted, evaluated, full, migrated, concluded⟩
    rcases wp_cases (evolveNew_spec outside config generation t.population t.heap fueled) with
      ⟨next, w, evolved, -, -, rfl, same⟩ | ⟨e, w, -, failed⟩
    · change (adapt config { s with population := evaluations outside s } >>= _) = _
      simp only [adapted, bind_ok, evolved, migrated, same]
      exact concluded
    · exact absurd ⟨evaluated, full⟩ failed

end Steps

section Evaluations

omit [FloorRing F]

omit [Field F] [LinearOrder F] in
theorem evaluate_idem (objective : (Fin d → F) → Except Exn (Dict String F)) (heap : Heap F d)
    (x : Individual F) :
    evaluate objective heap (evaluate objective heap x) = evaluate objective heap x := by
  cases found : objective (heap.array x.chromosome) with
  | ok result => simp [evaluate, found]
  | error e => simp [evaluate, found]

def Scored (outside : Outside F d) (i : Nat) : Prop :=
  ∃ result, outside.objective (outside.genes i) = .ok result ∧ "fitness" ∈ result.keys

def cohort (outside : Outside F d) (config : SearchConfig F) : List (Individual F) :=
  evaluations outside (startSearch outside config)

theorem length_cohort (outside : Outside F d) (config : SearchConfig F) :
    (cohort outside config).length = config.populationSize.toNat := by
  simp [cohort, evaluations, startSearch, initializePopulation]

theorem cohort_evaluated_iff : (∀ x ∈ cohort outside config, x.Evaluated) ↔
    ∀ i < config.populationSize.toNat, Scored outside i := by
  have each (i : Nat) : (evaluate outside.objective (startSearch outside config).heap
      ⟨i, .empty, some (Dict.empty.set "generation" (.int 0))⟩).Evaluated ↔ Scored outside i := by
    change _ ↔ ∃ result, outside.objective ((startSearch outside config).heap.array i) = .ok result ∧ _
    cases found : outside.objective ((startSearch outside config).heap.array i) with
    | ok result => simp [evaluate, found, Individual.Evaluated]
    | error e => simp [evaluate, found, Individual.Evaluated, Dict.empty, Dict.keys]
  simp only [cohort, evaluations, startSearch, initializePopulation, List.map_map, List.forall_mem_map,
    List.mem_range, Function.comp_apply] at each ⊢
  exact forall₂_congr fun i _ => each i

theorem evaluations_of_cohort {s : Search F d} (same : s.heap = (startSearch outside config).heap)
    (old : s.population ⊆ cohort outside config) : evaluations outside s = s.population := by
  refine (List.map_congr_left fun x member => ?_).trans (List.map_id _)
  obtain ⟨y, -, rfl⟩ := List.mem_map.mp (old member)
  rw [same]
  exact evaluate_idem _ _ _

end Evaluations

structure Sustains (outside : Outside F d) (config : SearchConfig F) : Prop where
  elite : config.populationSize ≤ truncate (config.elitismRatio * config.populationSize)
  scored : ∀ i < config.populationSize.toNat, Scored outside i
  interval : config.migrationInterval ≠ 0
  islands : 1 ≤ config.islandCount
  pairs : 2 * config.islandCount ≤ config.populationSize

section Conditions

variable {s t u : Search F d} {xs ys : List (Individual F)}

theorem elite_of_sustains (sustains : Sustains outside config)
    (long : config.populationSize ≤ xs.length) :
    config.populationSize ≤ (elite config xs).length ∧
      slice (elite config xs) config.populationSize =
        (sortOn (fun x => OrderDual.toDual x.score) xs).take config.populationSize.toNat := by
  have enough := sustains.elite
  have islands := sustains.islands
  have pairs := sustains.pairs
  have same : (sortOn (fun x => OrderDual.toDual x.score) xs).length = xs.length :=
    (sortOn_perm _ _).length_eq
  rw [elite, slice_of_nonneg (by omega), slice_of_nonneg (by omega), List.length_take, same, List.take_take]
  refine ⟨by omega, ?_⟩
  congr 1
  omega

omit [FloorRing F] in
theorem migrate_adds (migrated : migrate outside config generation xs = .ok ys) :
    ∃ migrants, ys = xs ++ migrants ∧ migrants ⊆ xs := by
  rw [migrate] at migrated
  split_ifs at migrated
  · exact islandMigration_adds migrated
  · obtain rfl := Except.ok.inj migrated
    exact ⟨[], (List.append_nil _).symm, List.nil_subset _⟩

theorem migrate_ok (generation : Nat) (sustains : Sustains outside config) (xs : List (Individual F))
    (long : config.populationSize ≤ xs.length) :
    ∃ ys, migrate outside config generation xs = .ok ys := by
  rw [migrate, if_neg sustains.interval]
  split
  · exact islandMigration_ok_iff.mpr ⟨sustains.islands, sustains.pairs.trans long⟩
  · exact ⟨xs, rfl⟩

omit [FloorRing F] in
theorem conclude_ok_iff (outside : Outside F d) (config : SearchConfig F) (s : Search F d)
    (evaluated : ∀ x ∈ s.population, x.Evaluated) (some : s.population ≠ []) :
    (∃ ended, conclude outside config s = .ok ended) ↔
      checkTermination outside config s.fitnessHistory = true ∨ s.best = none := by
  cases done : checkTermination outside config s.fitnessHistory with
  | true =>
    rw [conclude, if_pos done]
    exact iff_of_true ⟨_, rfl⟩ (.inl rfl)
  | false =>
    have logged : (updateHypervolume config s).population = s.population ∧
        (updateHypervolume config s).best = s.best := by
      rw [updateHypervolume]
      split <;> exact ⟨rfl, rfl⟩
    obtain ⟨x, won⟩ := winner_ok evaluated some
    rw [conclude, if_neg (by simp [done])]
    dsimp only
    rw [logged.1, logged.2, won, bind_ok]
    cases s.best with
    | none => exact iff_of_true ⟨_, rfl⟩ (.inr rfl)
    | some best => exact iff_of_false nofun (by simp)

omit [FloorRing F] [Field F] in
theorem winner_mem {x : Individual F} (won : winner xs = .ok x) : x ∈ xs := by
  obtain ⟨pairs, found, won⟩ := bind_eq_ok won
  split at won
  · rename_i best greatest
    obtain rfl := Except.ok.inj won
    obtain ⟨y, member, isPair⟩ := mem_of_mapM found best (List.argmax_mem greatest)
    split at isPair
    · obtain rfl := Except.ok.inj isPair
      exact member
    · cases isPair
  · cases won

omit [FloorRing F] in
theorem conclude_keeps {broke : Bool} (ended : conclude outside config s = .ok (broke, u)) :
    u.heap = s.heap ∧ u.population = s.population ∧ u.fitnessHistory = s.fitnessHistory ∧
      broke = checkTermination outside config s.fitnessHistory ∧
      (if broke then u.best = s.best else ∃ x ∈ s.population, u.best = some x) := by
  rw [conclude] at ended
  split at ended
  · rename_i done
    obtain ⟨rfl, rfl⟩ := Prod.mk.inj (Except.ok.inj ended)
    exact ⟨rfl, rfl, rfl, done.symm, rfl⟩
  · rename_i going
    obtain ⟨x, won, ended⟩ := bind_eq_ok ended
    have member := winner_mem won
    have logged : (updateHypervolume config s).population = s.population ∧
        (updateHypervolume config s).heap = s.heap ∧
        (updateHypervolume config s).fitnessHistory = s.fitnessHistory := by
      rw [updateHypervolume]
      split <;> exact ⟨rfl, rfl, rfl⟩
    split at ended
    · obtain ⟨rfl, rfl⟩ := Prod.mk.inj (Except.ok.inj ended)
      rw [logged.1] at member
      exact ⟨logged.2.1, logged.1, logged.2.2, (Bool.eq_false_iff.mpr going).symm, x, member, rfl⟩
    · cases ended

end Conditions

section Returns

variable {s t u : Search F d}

/-- Where a search is sustained, whether a generation ends depends on its last part alone.
The population is then one of individuals that were evaluated, with the best of them. -/
theorem generation_sustained (generation : Nat) (s : Search F d) (fueled : 0 < fuel)
    (sustains : Sustains outside config)
    (evaluated : ∀ x ∈ evaluations outside s, x.Evaluated)
    (long : config.populationSize ≤ (evaluations outside s).length) :
    ∃ t population, Recorded config { s with population := evaluations outside s } t ∧
      population ⊆ evaluations outside s ∧ config.populationSize ≤ population.length ∧
      (∀ x ∈ evaluations outside s, ∃ y ∈ population, x.score ≤ y.score) ∧
      ∀ ended, generationStep outside config fuel generation s = .ok ended ↔
        conclude outside config { t with population := population } = .ok ended := by
  have islands := sustains.islands
  have pairs := sustains.pairs
  have some : evaluations outside s ≠ [] := by
    intro none
    rw [none, List.length_nil] at long
    omega
  obtain ⟨t, adapted, recorded⟩ := adapt_ok config { s with population := evaluations outside s } evaluated some
  have same : t.population = evaluations outside s := recorded.population
  obtain ⟨full, front⟩ := elite_of_sustains sustains long
  set next := slice (elite config (evaluations outside s)) config.populationSize with isNext
  have leading : Leading (fun x => OrderDual.toDual x.score) next (evaluations outside s) := by
    rw [front]
    exact take_sortOn_leading _ _ _
  have whole : next.length = config.populationSize.toNat := by
    rw [front, List.length_take, (sortOn_perm _ _).length_eq]
    omega
  obtain ⟨population, migrated⟩ := migrate_ok generation sustains next (by omega)
  obtain ⟨migrants, isSum, among⟩ := migrate_adds migrated
  refine ⟨t, population, recorded, ?_, ?_, ?_, fun ended => ?_⟩
  · rw [isSum]
    exact List.append_subset.mpr ⟨leading.subset, fun x member => leading.subset x (among member)⟩
  · rw [isSum, List.length_append]
    omega
  · intro x member
    have present : next ≠ [] := by
      intro none
      rw [none, List.length_nil] at whole
      omega
    obtain ⟨y, within, better⟩ := leading.exists_le present x member
    exact ⟨y, isSum ▸ List.mem_append_left _ within, better⟩
  · rw [generationStep_ok_iff fueled]
    constructor
    · rintro ⟨t', population', adapted', -, -, migrated', concluded⟩
      obtain rfl := Except.ok.inj (adapted.symm.trans adapted')
      rw [same, ← isNext, migrated] at migrated'
      obtain rfl := Except.ok.inj migrated'
      exact concluded
    · intro concluded
      refine ⟨t, population, adapted, ?_, ?_, ?_, concluded⟩
      · rwa [same]
      · rwa [same]
      · rwa [same]

omit [Field F] [LinearOrder F] [FloorRing F] in
theorem length_slice_le {α : Type} (xs : List α) (k : Int) : (slice xs k).length ≤ xs.length := by
  rw [slice]
  split <;> rw [List.length_take] <;> exact Nat.min_le_right _ _

theorem le_of_slice {α : Type} {xs : List α} {k : Int} (some : xs ≠ []) (all : xs.length ≤ (slice xs k).length) :
    (xs.length : Int) ≤ k := by
  have positive := List.length_pos_iff.mpr some
  rw [slice] at all
  split at all <;> rw [List.length_take] at all <;> omega

omit [FloorRing F] in
theorem cohort_started : evaluations outside (startSearch outside config) = cohort outside config := rfl

theorem first_ok_iff (fueled : 0 < fuel) :
    (∃ ended, generationStep outside config fuel 0 (startSearch outside config) = .ok ended) ↔
      Sustains outside config := by
  constructor
  · rintro ⟨ended, ran⟩
    obtain ⟨t, population, adapted, evaluated, full, migrated, -⟩ := (generationStep_ok_iff fueled).mp ran
    have same : t.population = cohort outside config := (adapt_keeps adapted).2.1
    rw [same] at evaluated full migrated
    have size := length_cohort outside config
    have ranked : (sortOn (fun x => OrderDual.toDual x.score) (cohort outside config)).length =
        config.populationSize.toNat := (sortOn_perm _ _).length_eq.trans size
    rw [migrate] at migrated
    split_ifs at migrated with interval due
    · obtain ⟨islands, pairs⟩ := islandMigration_ok_iff.mp ⟨population, migrated⟩
      have shorter := length_slice_le (elite config (cohort outside config)) config.populationSize
      have short : (elite config (cohort outside config)).length ≤ config.populationSize.toNat :=
        (length_slice_le _ _).trans_eq ranked
      have positive : 0 < config.populationSize := by omega
      refine ⟨?_, cohort_evaluated_iff.mp evaluated, interval, islands, by omega⟩
      have reach := le_of_slice (List.length_pos_iff.mp (by omega)) (ranked.trans_le (by omega) :
        (sortOn (fun x => OrderDual.toDual x.score) (cohort outside config)).length ≤
          (elite config (cohort outside config)).length)
      omega
    · exact absurd (Int.zero_emod _) due
  · intro sustains
    have positive : 2 ≤ config.populationSize := by
      have islands := sustains.islands
      have pairs := sustains.pairs
      omega
    obtain ⟨t, population, recorded, sub, long, -, same⟩ := generation_sustained 0
      (startSearch outside config) fueled sustains (cohort_evaluated_iff.mpr sustains.scored)
      (by rw [cohort_started, length_cohort]; omega)
    have evaluated : ∀ x ∈ population, x.Evaluated :=
      fun x member => cohort_evaluated_iff.mpr sustains.scored x (sub member)
    have some : population ≠ [] := by
      rintro rfl
      rw [List.length_nil] at long
      omega
    obtain ⟨ended, concluded⟩ := (conclude_ok_iff outside config { t with population := population }
      evaluated some).mpr (.inr recorded.best)
    exact ⟨ended, (same ended).mpr concluded⟩

section Termination

variable [IsStrictOrderedRing F] (root : outside.sqrt 0 = 0)

include root

omit [FloorRing F] in
/-- A history of `n` generations with one best ends a search that has no more patience than
this, nor as little less than none. -/
theorem terminates_constant (n : Nat) (b : F) :
    checkTermination outside config (List.replicate n b) = true ↔
      -(n : Int) < config.terminationPatience ∧ config.terminationPatience ≤ n := by
  have recent : ∃ m, lastSlice (List.replicate n b) config.terminationPatience = List.replicate m b ∧
      (config.terminationPatience ≤ n → (0 < m ↔ -(n : Int) < config.terminationPatience)) := by
    rw [lastSlice]
    split
    · refine ⟨_, List.drop_replicate, fun within => ?_⟩
      rw [List.length_replicate]
      omega
    · refine ⟨_, List.drop_replicate, fun within => ?_⟩
      omega
  obtain ⟨m, isLast, some⟩ := recent
  have small : outside.sqrt (Spread.variance (List.replicate m b)) < 1e-4 := by
    rw [Spread.variance_replicate, root]
    norm_num
  rw [checkTermination, isLast, List.length_replicate]
  split
  · exact iff_of_false nofun (by omega)
  · have within : config.terminationPatience ≤ n := by omega
    rw [← some within, decide_eq_true_iff, and_iff_left small, and_iff_left within, Ne,
      List.replicate_eq_nil_iff]
    omega

end Termination

def entries (config : SearchConfig F) (n : Nat) : Nat := if config.adaptiveMutation then n else 0

structure Opened (outside : Outside F d) (config : SearchConfig F) (b : F) (u : Search F d) : Prop where
  best : config.adaptiveMutation = true → IsBest b (cohort outside config)
  heap : u.heap = (startSearch outside config).heap
  old : u.population ⊆ cohort outside config
  long : config.populationSize ≤ u.population.length
  reaches : ∀ x ∈ cohort outside config, ∃ y ∈ u.population, x.score ≤ y.score
  history : u.fitnessHistory = List.replicate (entries config 1) b

theorem sustains_long (sustains : Sustains outside config) :
    2 ≤ config.populationSize ∧ config.populationSize ≤ (cohort outside config).length := by
  have islands := sustains.islands
  have pairs := sustains.pairs
  rw [length_cohort]
  omega

theorem first_opens (fueled : 0 < fuel) (sustains : Sustains outside config) {broke : Bool}
    (ran : generationStep outside config fuel 0 (startSearch outside config) = .ok (broke, u)) :
    ∃ b, Opened outside config b u ∧ broke = checkTermination outside config u.fitnessHistory ∧
      (broke = false → u.best ≠ none) := by
  obtain ⟨t, population, recorded, sub, long, reaches, same⟩ := generation_sustained 0
    (startSearch outside config) fueled sustains (cohort_evaluated_iff.mpr sustains.scored)
    (sustains_long sustains).2
  obtain ⟨heap, isPopulation, history, isBroke, best⟩ := conclude_keeps ((same _).mp ran)
  have opens (b : F) (isBest : config.adaptiveMutation = true → IsBest b (cohort outside config))
      (records : t.fitnessHistory = List.replicate (entries config 1) b) : Opened outside config b u :=
    ⟨isBest, heap.trans recorded.heap, isPopulation ▸ sub, isPopulation ▸ long, isPopulation ▸ reaches,
      history.trans records⟩
  have going : broke = false → u.best ≠ none := by
    rintro rfl
    obtain ⟨x, -, found⟩ := best
    simp [found]
  refine Exists.imp (fun b opened => ⟨opened, history ▸ isBroke, going⟩) ?_
  cases adapts : config.adaptiveMutation with
  | true =>
    obtain ⟨b, isBest, records⟩ := recorded.adaptive adapts
    refine ⟨b, opens b (fun _ => isBest) (records.trans ?_)⟩
    rw [entries, if_pos adapts]
    rfl
  | false =>
    refine ⟨0, opens 0 (fun on => nomatch adapts.symm.trans on) ((recorded.plain adapts).trans ?_)⟩
    rw [entries, if_neg (by simp [adapts])]
    rfl

/-- The second generation ends only where the search does: the first one has left a best
individual, to compare the next one with. -/
theorem second_ends (fueled : 0 < fuel) (sustains : Sustains outside config) {b : F}
    (opened : Opened outside config b u) (going : u.best ≠ none) :
    ((∃ ended, generationStep outside config fuel 1 u = .ok ended) ↔
      checkTermination outside config (List.replicate (entries config 2) b) = true) ∧
    ∀ v, generationStep outside config fuel 1 u ≠ .ok (false, v) := by
  have again : evaluations outside u = u.population := evaluations_of_cohort opened.heap opened.old
  have evaluated : ∀ x ∈ evaluations outside u, x.Evaluated := by
    rw [again]
    exact fun x member => cohort_evaluated_iff.mpr sustains.scored x (opened.old member)
  obtain ⟨t, population, recorded, sub, long, -, same⟩ := generation_sustained 1 u fueled sustains evaluated
    (again ▸ opened.long)
  have history : t.fitnessHistory = List.replicate (entries config 2) b := by
    cases adapts : config.adaptiveMutation with
    | true =>
      obtain ⟨c, isBest, records⟩ := recorded.adaptive adapts
      have best := opened.best adapts
      obtain ⟨x, member, isScore⟩ := best.attained
      obtain ⟨y, among, reaches⟩ := opened.reaches x member
      have unchanged : c = b := by
        refine best.unique isBest (again ▸ opened.old) ⟨y, again ▸ among, isScore ▸ reaches⟩
      rw [records, opened.history, entries, entries, if_pos adapts, if_pos adapts, unchanged]
      rfl
    | false =>
      rw [recorded.plain adapts, opened.history, entries, entries, if_neg (by simp [adapts]),
        if_neg (by simp [adapts])]
  have kept : t.best ≠ none := by
    rw [recorded.best]
    exact going
  have some : population ≠ [] := by
    have two := (sustains_long sustains).1
    rintro rfl
    rw [List.length_nil] at long
    omega
  have concludes := conclude_ok_iff outside config { t with population := population }
    (fun x member => evaluated x (sub member)) some
  rw [← history]
  constructor
  · simp only [same, concludes]
    exact or_iff_left kept
  · intro v ran
    have ended := (same _).mp ran
    rcases concludes.mp ⟨_, ended⟩ with done | none
    · exact nomatch (conclude_keeps ended).2.2.2.1.trans done
    · exact kept none

theorem single_ok_iff (fueled : 0 < fuel) :
    (∃ s, generations outside config fuel [0] (startSearch outside config) = .ok s) ↔
      Sustains outside config := by
  rw [← first_ok_iff fueled, generations]
  constructor
  · rintro ⟨s, ran⟩
    obtain ⟨ended, first, -⟩ := bind_eq_ok ran
    exact ⟨ended, first⟩
  · rintro ⟨⟨broke, u⟩, first⟩
    rw [first, bind_ok]
    cases broke <;> exact ⟨u, rfl⟩

section Several

variable [IsStrictOrderedRing F] (root : outside.sqrt 0 = 0)

include root

omit [FloorRing F] in
theorem history_ends (n : Nat) (b : F) :
    checkTermination outside config (List.replicate (entries config n) b) = true ↔
      config.adaptiveMutation = true ∧ -(n : Int) < config.terminationPatience ∧
        config.terminationPatience ≤ n := by
  rw [terminates_constant root, entries]
  split
  · rename_i adapts
    exact (and_iff_right adapts).symm
  · rename_i plain
    exact iff_of_false (by omega) fun both => plain both.1

/-- Of several generations at most two are gone through. -/
theorem several_ok_iff (fueled : 0 < fuel) (rest : List Nat) :
    (∃ s, generations outside config fuel (0 :: 1 :: rest) (startSearch outside config) = .ok s) ↔
      Sustains outside config ∧ config.adaptiveMutation = true ∧ -1 ≤ config.terminationPatience ∧
        config.terminationPatience ≤ 2 := by
  rw [← first_ok_iff fueled, generations]
  constructor
  · rintro ⟨s, ran⟩
    obtain ⟨⟨broke, u⟩, first, ran⟩ := bind_eq_ok ran
    have sustains := (first_ok_iff fueled).mp ⟨_, first⟩
    obtain ⟨b, opened, isBroke, going⟩ := first_opens fueled sustains first
    refine ⟨⟨_, first⟩, ?_⟩
    cases broke with
    | true =>
      rw [opened.history] at isBroke
      obtain ⟨adapts, above, below⟩ := (history_ends root 1 b).mp isBroke.symm
      exact ⟨adapts, by omega, by omega⟩
    | false =>
      obtain ⟨ended, second, -⟩ := bind_eq_ok ran
      obtain ⟨adapts, above, below⟩ :=
        (history_ends root 2 b).mp ((second_ends fueled sustains opened (going rfl)).1.mp ⟨ended, second⟩)
      exact ⟨adapts, by omega, by omega⟩
  · rintro ⟨⟨⟨broke, u⟩, first⟩, adapts, above, below⟩
    have sustains := (first_ok_iff fueled).mp ⟨_, first⟩
    obtain ⟨b, opened, isBroke, going⟩ := first_opens fueled sustains first
    rw [first, bind_ok]
    cases broke with
    | true => exact ⟨u, rfl⟩
    | false =>
      have second := second_ends fueled sustains opened (going rfl)
      obtain ⟨⟨broke, v⟩, ran⟩ := second.1.mpr ((history_ends root 2 b).mpr ⟨adapts, by omega, by omega⟩)
      cases broke with
      | true =>
        refine ⟨v, ?_⟩
        change generations outside config fuel (1 :: rest) u = _
        rw [generations, ran]
        rfl
      | false => exact absurd ran (second.2 v)

end Several

/-- On a new optimizer, `run_optimization` returns exactly where it has no generation to go
through, or where the elite is the whole population, which is evaluated and leaves two for
every island, and either one generation is all or the history of one or two ends the
search. -/
theorem search_returns_iff [IsStrictOrderedRing F] (outside : Outside F d) (config : SearchConfig F)
    (root : outside.sqrt 0 = 0) (fuel : Nat) (fueled : 0 < fuel) :
    (∃ s, runOptimization outside config fuel = .ok s) ↔
      config.maxGenerations ≤ 0 ∨ Sustains outside config ∧ (config.maxGenerations = 1 ∨
        config.adaptiveMutation = true ∧ -1 ≤ config.terminationPatience ∧ config.terminationPatience ≤ 2) := by
  obtain none | one | several :
      config.maxGenerations ≤ 0 ∨ config.maxGenerations = 1 ∨ 2 ≤ config.maxGenerations := by omega
  · rw [runOptimization, Int.toNat_of_nonpos none]
    exact iff_of_true ⟨_, rfl⟩ (.inl none)
  · have passes : List.range config.maxGenerations.toNat = [0] := by rw [one]; rfl
    rw [runOptimization, passes, or_iff_right (by omega), and_iff_left (.inl one)]
    exact single_ok_iff fueled
  · obtain ⟨k, many⟩ := Nat.exists_eq_add_of_le' (show 2 ≤ config.maxGenerations.toNat by omega)
    have passes : List.range config.maxGenerations.toNat = 0 :: 1 :: List.range' 2 k := by
      rw [many, List.range_eq_range']
      rfl
    rw [runOptimization, passes, or_iff_right (by omega), or_iff_right (by omega)]
    exact several_ok_iff root fueled _

end Returns

section Ancestry

variable {s u : Search F d}

/-- No array is other than at the start, and every individual has one of these. -/
structure Started (outside : Outside F d) (config : SearchConfig F) (s : Search F d) : Prop where
  heap : s.heap = (startSearch outside config).heap
  population : ∀ x ∈ s.population, x.chromosome < config.populationSize.toNat
  best : ∀ x ∈ s.best, x.chromosome < config.populationSize.toNat

omit [Field F] [LinearOrder F] [FloorRing F] in
theorem chromosome_evaluate (objective : (Fin d → F) → Except Exn (Dict String F)) (heap : Heap F d)
    (x : Individual F) : (evaluate objective heap x).chromosome = x.chromosome := by
  rw [evaluate]
  split <;> rfl

theorem slice_subset {α : Type} (xs : List α) (k : Int) : slice xs k ⊆ xs := by
  rw [slice]
  split <;> exact List.take_subset _ _

theorem started_step (fueled : 0 < fuel) (started : Started outside config s) {broke : Bool}
    (ran : generationStep outside config fuel generation s = .ok (broke, u)) :
    Started outside config u := by
  obtain ⟨t, population, adapted, -, -, migrated, concluded⟩ := (generationStep_ok_iff fueled).mp ran
  obtain ⟨heap, same, kept⟩ := adapt_keeps adapted
  obtain ⟨migrants, rfl, among⟩ := migrate_adds migrated
  obtain ⟨sameHeap, isPopulation, -, -, best⟩ := conclude_keeps concluded
  have old : ∀ x ∈ t.population, x.chromosome < config.populationSize.toNat := by
    intro x member
    rw [same] at member
    obtain ⟨y, within, rfl⟩ := List.mem_map.mp member
    rw [chromosome_evaluate]
    exact started.population y within
  have elders : slice (elite config t.population) config.populationSize ⊆ t.population :=
    fun x member => (mem_sortOn _ _ _).mp (slice_subset _ _ (slice_subset _ _ member))
  have bounded : ∀ x ∈ u.population, x.chromosome < config.populationSize.toNat := by
    intro x member
    rw [isPopulation] at member
    rcases List.mem_append.mp member with elder | migrant
    · exact old x (elders elder)
    · exact old x (elders (among migrant))
  refine ⟨sameHeap.trans (heap.trans started.heap), bounded, fun x isBest => ?_⟩
  cases broke with
  | true =>
    rw [if_pos rfl] at best
    rw [best, kept] at isBest
    exact started.best x isBest
  | false =>
    obtain ⟨y, member, found⟩ := best
    rw [found] at isBest
    obtain rfl := Option.mem_some.mp isBest
    exact bounded y (isPopulation ▸ member)

theorem started_generations (fueled : 0 < fuel) (passes : List Nat) (started : Started outside config s)
    (ran : generations outside config fuel passes s = .ok u) : Started outside config u := by
  induction passes generalizing s with
  | nil =>
    obtain rfl := Except.ok.inj ran
    exact started
  | cons generation rest ih =>
    obtain ⟨⟨broke, t⟩, stepped, ran⟩ := bind_eq_ok ran
    have next := started_step fueled started stepped
    cases broke with
    | true =>
      obtain rfl := Except.ok.inj ran
      exact next
    | false => exact ih next ran

omit [FloorRing F] in
theorem started_start : Started outside config (startSearch outside config) := by
  refine ⟨rfl, fun x member => ?_, nofun⟩
  obtain ⟨i, within, rfl⟩ := List.mem_map.mp member
  exact List.mem_range.mp within

/-- Where the objective leaves its argument alone, what `run_optimization` returns has
chromosomes that were drawn at the start, as they were then: it never makes a child. -/
theorem search_breeds_nothing (outside : Outside F d) (config : SearchConfig F) (fuel : Nat)
    (fueled : 0 < fuel) (s : Search F d) (ran : runOptimization outside config fuel = .ok s) :
    (∀ x ∈ s.population, x.chromosome < config.populationSize.toNat ∧
      s.heap.array x.chromosome = outside.genes x.chromosome) ∧
    ∀ x ∈ s.best, x.chromosome < config.populationSize.toNat ∧
      s.heap.array x.chromosome = outside.genes x.chromosome := by
  have started := started_generations fueled _ started_start ran
  have same (i : Nat) : s.heap.array i = outside.genes i := by
    rw [started.heap]
    rfl
  exact ⟨fun x member => ⟨started.population x member, same _⟩,
    fun x isBest => ⟨started.best x isBest, same _⟩⟩

end Ancestry

section Pair

def pairConfig : SearchConfig Rat where
  populationSize := 2
  crossoverRate := 17 / 20
  elitismRatio := 1
  maxGenerations := 1
  mutationRate := 1 / 20
  adaptiveMutation := true
  objectives := ["fitness"]
  migrationInterval := 10
  islandCount := 1
  terminationPatience := 20

/-- One objective value for all; only the root of zero is asked for. -/
def level : Outside Rat 2 where
  pow _ _ := 1
  sqrt x := x
  objective _ := .ok (Dict.empty.set "fitness" 0)
  genes i _ := i
  passes _ _ := halves
  picks _ _ := halves.tournament 0
  shuffle _ xs := xs
  shuffle_perm _ xs := .refl xs

theorem pair_returns : ∃ s, runOptimization level pairConfig 1 = .ok s := by
  refine (search_returns_iff level pairConfig rfl 1 (by decide)).mpr (.inr ⟨?_, .inl rfl⟩)
  refine ⟨by decide +kernel, fun i _ => ⟨_, rfl, by decide⟩, by decide, by decide, by decide⟩

theorem pair_breeds_nothing : ∃ s, runOptimization level pairConfig 1 = .ok s ∧
    ∀ x ∈ s.population, x.chromosome < 2 := by
  cases ran : runOptimization level pairConfig 1 with
  | error e =>
    have returns : (runOptimization level pairConfig 1).isOk = true := by decide +kernel
    rw [ran] at returns
    cases returns
  | ok s =>
    have bred := (search_breeds_nothing level pairConfig 1 (by decide) s ran).1
    exact ⟨s, rfl, fun x member => (bred x member).1⟩

end Pair

end KuvaAI.Genetic
