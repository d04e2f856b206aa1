import KuvaAI.Workflow.Genetic

/-! The elite of a generation: the individuals of greatest fitness come first in the next
one, as they were, whatever else is drawn. -/
namespace KuvaAI.Genetic
open Python StableSelect Effect

def Individual.Evaluated {F : Type} (x : Individual F) : Prop := "fitness" ∈ x.fitness.keys

instance {F : Type} (x : Individual F) : Decidable x.Evaluated :=
  inferInstanceAs (Decidable ("fitness" ∈ x.fitness.keys))

def Individual.score {F : Type} [Zero F] (x : Individual F) : F := (x.fitness.get? "fitness").getD 0

section Parents

variable {F : Type} [Zero F] {xs : List (Individual F)} (evaluated : ∀ x ∈ xs, x.Evaluated)
include evaluated

theorem keyed_eq : keyed xs = .ok (xs.map fun x => (x.score, x)) := by
  induction xs with
  | nil => rfl
  | cons x xs ih =>
    obtain ⟨fitness, found⟩ := (Dict.mem_keys_iff _ _).mp (evaluated x List.mem_cons_self)
    have rest := ih fun y member => evaluated y (List.mem_cons_of_mem _ member)
    rw [keyed] at rest
    simp [keyed, rest, found, Individual.score, bind, Except.bind, pure, Except.pure]

variable [LinearOrder F]

theorem sortedByFitness_eq :
    sortedByFitness xs = .ok (sortOn (fun x => OrderDual.toDual x.score) xs) := by
  have sameOrder : (xs.map fun x => (x.score, x)).insertionSort
      (fun a b => OrderDual.toDual a.1 ≤ OrderDual.toDual b.1) =
        (xs.insertionSort fun a b => OrderDual.toDual a.score ≤ OrderDual.toDual b.score).map
          fun x => (x.score, x) :=
    (List.map_insertionSort _ _ (fun x : Individual F => (x.score, x)) xs fun _ _ _ _ => Iff.rfl).symm
  simp only [sortedByFitness, keyed_eq evaluated, sortOn, sameOrder, bind, Except.bind, pure,
    Except.pure, List.map_map, Function.comp_def, List.map_id']

theorem winner_ok (some : xs ≠ []) : ∃ x, winner xs = .ok x := by
  cases best : (xs.map fun x => (x.score, x)).argmax Prod.fst with
  | none => simp [some] at best
  | some entry =>
    exact ⟨entry.2, by simp [winner, keyed_eq evaluated, best, bind, Except.bind, pure, Except.pure]⟩

theorem select_ok {size : Nat} (positive : 0 < size) (enough : size ≤ xs.length)
    (draws : Nat → SampleDraw) :
    ∃ parent1 parent2, select size draws xs 2 = .ok [parent1, parent2] := by
  have tournament (i : Nat) : ∃ contestants, sample (draws i) xs size = .ok contestants ∧
      contestants ≠ [] ∧ ∀ x ∈ contestants, x ∈ xs := by
    have drawn := (draws i).length _ _ enough
    refine ⟨_, if_neg (by omega), ?_, ?_⟩
    · cases picked : (draws i).pick xs.length size with
      | nil =>
        rw [picked] at drawn
        simp at drawn
        omega
      | cons j rest =>
        have bound := (draws i).bound xs.length size j (by simp [picked])
        simp [List.getElem?_eq_getElem bound]
    · intro x member
      obtain ⟨j, _, found⟩ := List.mem_filterMap.mp member
      exact List.mem_of_getElem? found
  have parent (i : Nat) : ∃ x, (do winner (← sample (draws i) xs size)) = .ok x := by
    obtain ⟨contestants, sampled, some, subset⟩ := tournament i
    obtain ⟨x, won⟩ := winner_ok (fun y member => evaluated y (subset y member)) some
    exact ⟨x, by simp [sampled, won, bind, Except.bind]⟩
  obtain ⟨parent1, first⟩ := parent 0
  obtain ⟨parent2, second⟩ := parent 1
  have two : List.range 2 = [0, 1] := rfl
  simp only [bind, Except.bind] at first second
  exact ⟨parent1, parent2, by simp [select, two, first, second, bind, Except.bind, pure, Except.pure]⟩

end Parents

section Passes

variable {F : Type} {d : Nat}

def Kept (before after : Heap F d) : Prop :=
  before.next ≤ after.next ∧ ∀ ref < before.next, after.array ref = before.array ref

theorem Kept.rfl {heap : Heap F d} : Kept heap heap := ⟨le_refl _, fun _ _ => by rfl⟩

theorem Kept.trans {first second third : Heap F d} (early : Kept first second)
    (late : Kept second third) : Kept first third := by
  obtain ⟨grown, same⟩ := early
  obtain ⟨grownLater, sameLater⟩ := late
  refine ⟨by omega, fun ref older => ?_⟩
  rw [sameLater ref (by omega), same ref older]

def Along (base : Heap F d) (population : List (Individual F)) (t : World F d) : Prop :=
  Kept base t.heap ∧ t.newPopulation = population

variable {base : Heap F d} {population : List (Individual F)} {w : World F d}

theorem alloc_along (along : Along base population w) (array : Fin d → F) :
    wp (alloc array) (fun ref t => base.next ≤ ref ∧ Along base population t)
      (fun _ _ => False) w := by
  obtain ⟨⟨grown, same⟩, held⟩ := along
  simp only [alloc, wp_bind, wp_get, wp_set, wp_pure]
  refine ⟨grown, ⟨by simp only; omega, fun ref older => ?_⟩, held⟩
  simp only [Function.update_of_ne (show ref ≠ w.heap.next by omega), same ref older]

variable [Field F] [LinearOrder F] {pow : F → F → F} {self : GeneticOptimizer F}

theorem mutate_along {ref : Nat} (young : base.next ≤ ref) (along : Along base population w)
    (draws : Fin d → Draw F × Draw F) (generation : Int) :
    wp (mutate pow self draws ref generation) (fun child t => child = ref ∧ Along base population t)
      (fun _ _ => False) w := by
  obtain ⟨⟨grown, same⟩, held⟩ := along
  simp only [mutate, wp_bind, wp_modify, wp_pure]
  refine ⟨trivial, ⟨grown, fun older before => ?_⟩, held⟩
  simp only [Function.update_of_ne (show older ≠ ref by omega), same older before]

theorem recombine_along (along : Along base population w) (draws : PassDraws F d)
    (parent1 parent2 : Individual F) :
    wp (recombine pow self draws parent1 parent2)
      (fun children t => base.next ≤ children.1 ∧ base.next ≤ children.2 ∧ Along base population t)
      (fun _ _ => False) w := by
  have both (genes1 genes2 : Fin d → F) :
      wp (do
        let child1 ← alloc genes1
        let child2 ← alloc genes2
        return (child1, child2) : Effect (World F d) Exn (Nat × Nat))
        (fun children t =>
          base.next ≤ children.1 ∧ base.next ≤ children.2 ∧ Along base population t)
        (fun _ _ => False) w := by
    simp only [wp_bind]
    apply wp_mono (alloc_along along genes1) _ (fun _ _ => id)
    rintro child1 t ⟨young1, along1⟩
    simp only [wp_bind]
    apply wp_mono (alloc_along along1 genes2) _ (fun _ _ => id)
    rintro child2 u ⟨young2, along2⟩
    exact ⟨young1, young2, along2⟩
  simp only [recombine, wp_bind, wp_get, wp_ite]
  split
  · exact both _ _
  · exact both _ _

theorem reproduce_ok (draws : Nat → PassDraws F d) (evaluated : ∀ x ∈ population, x.Evaluated)
    (positive : 0 < self.tournamentSize) (enough : self.tournamentSize ≤ population.length)
    (w : World F d) :
    ∃ t child1 child2, reproduce pow self draws population w = (.ok false, t) ∧
      t.newPopulation = w.newPopulation ++ [child1, child2] ∧ Kept w.heap t.heap := by
  obtain ⟨parent1, parent2, selected⟩ :=
    select_ok evaluated positive enough (draws w.passes).tournament
  have bred : wp (reproduce pow self draws population)
      (fun broke t => broke = false ∧ ∃ child1 child2,
        t.newPopulation = w.newPopulation ++ [child1, child2] ∧ Kept w.heap t.heap)
      (fun _ _ => False) w := by
    have start : Along w.heap w.newPopulation w := ⟨.rfl, rfl⟩
    simp only [reproduce, wp_bind, wp_get, selected, wp_fromExcept_ok]
    apply wp_mono (recombine_along start (draws w.passes) parent1 parent2) _ (fun _ _ => id)
    rintro ⟨child1, child2⟩ t ⟨young1, young2, along⟩
    simp only [wp_bind]
    apply wp_mono (mutate_along young1 along _ _) _ (fun _ _ => id)
    rintro _ u ⟨rfl, along⟩
    simp only [wp_bind]
    apply wp_mono (mutate_along young2 along _ _) _ (fun _ _ => id)
    rintro _ v ⟨rfl, kept, held⟩
    simp only [wp_bind, wp_modify, wp_pure]
    exact ⟨trivial, _, _, by rw [held], kept⟩
  obtain ⟨broke, t, ran, rfl, child1, child2, added, kept⟩ := exists_of_wp bred
  exact ⟨t, child1, child2, ran, added, kept⟩

variable (pow self) in
theorem growing_ends (draws : Nat → PassDraws F d) (evaluated : ∀ x ∈ population, x.Evaluated)
    (positive : 0 < self.tournamentSize) (enough : self.tournamentSize ≤ population.length)
    {fuel : Nat} (fueled : self.config.populationSize ≤ fuel) (w : World F d) :
    ∃ t children, Loop.run (growing self) (reproduce pow self draws population) fuel w =
        (.ok false, t) ∧
      t.newPopulation = w.newPopulation ++ children ∧ Kept w.heap t.heap ∧ ¬ growing self t := by
  let measure (s : World F d) : Nat := (self.config.populationSize - s.newPopulation.length).toNat
  let inv (s : World F d) : Prop :=
    (∃ children, s.newPopulation = w.newPopulation ++ children) ∧ Kept w.heap s.heap
  have pass : ∀ s, inv s → growing self s →
      ∃ t, reproduce pow self draws population s = (.ok false, t) ∧ inv t ∧ measure t < measure s := by
    rintro s ⟨⟨children, added⟩, kept⟩ grows
    obtain ⟨t, child1, child2, made, more, keptNow⟩ :=
      reproduce_ok draws evaluated positive enough s
    refine ⟨t, made, ⟨⟨children ++ [child1, child2], ?_⟩, kept.trans keptNow⟩, ?_⟩
    · rw [more, added, List.append_assoc]
    · have longer := congrArg List.length more
      rw [growing] at grows
      simp only [List.length_append, List.length_cons, List.length_nil] at longer
      simp only [measure]
      omega
  have start : inv w := ⟨⟨[], by simp⟩, .rfl⟩
  have bounded : measure w ≤ fuel := by
    simp only [measure]
    omega
  obtain ⟨t, ran, ⟨⟨children, added⟩, kept⟩, ended⟩ := Loop.run_total pass start bounded
  exact ⟨t, children, ran, added, kept, ended⟩

end Passes

section Elite

theorem slice_of_nonneg {α : Type} {k : Int} (nonneg : 0 ≤ k) (xs : List α) :
    slice xs k = xs.take k.toNat := if_pos nonneg

variable {F : Type} {d : Nat} [Field F] [LinearOrder F] [FloorRing F]

/-- How many of a population are kept: the share of the size that the ratio says, rounded
down, or all. -/
def eliteCount (config : EvolutionConfig F) (population : Population F d) : Nat :=
  min ⌊config.elitismRatio * config.populationSize⌋.toNat population.individuals.length

variable [IsStrictOrderedRing F] {config : EvolutionConfig F}

theorem truncate_share (size : 0 ≤ config.populationSize)
    (ratio : 0 ≤ config.elitismRatio ∧ config.elitismRatio ≤ 1) :
    truncate (config.elitismRatio * config.populationSize) =
        ⌊config.elitismRatio * config.populationSize⌋ ∧
      0 ≤ ⌊config.elitismRatio * config.populationSize⌋ ∧
      ⌊config.elitismRatio * config.populationSize⌋ ≤ config.populationSize := by
  have whole : (0 : F) ≤ config.populationSize := by exact_mod_cast size
  have nonneg := mul_nonneg ratio.1 whole
  have atMost : config.elitismRatio * config.populationSize ≤ config.populationSize :=
    mul_le_of_le_one_left whole ratio.2
  refine ⟨if_pos nonneg, Int.floor_nonneg.mpr nonneg, ?_⟩
  have bound := (Int.floor_le _).trans atMost
  exact_mod_cast bound

/-- The generation step ends with as many individuals as the configuration says. The elite
comes first, in falling order of fitness and as it was, and has the best of the input
unless it is empty. -/
theorem evolve_elitist (pow : F → F → F) (config : EvolutionConfig F) (currentGeneration : Int)
    (draws : Nat → PassDraws F d) (population : Population F d)
    (three : 3 ≤ population.individuals.length)
    (evaluated : ∀ x ∈ population.individuals, x.Evaluated) (size : 0 ≤ config.populationSize)
    (ratio : 0 ≤ config.elitismRatio ∧ config.elitismRatio ≤ 1) {fuel : Nat}
    (fueled : config.populationSize ≤ fuel) :
    ∃ next heap,
      evolve pow (.init config currentGeneration) draws fuel population = (.ok next, heap) ∧
      (next.length : Int) = config.populationSize ∧
      (next.take (eliteCount config population)).length = eliteCount config population ∧
      Leading (fun x => OrderDual.toDual x.score) (next.take (eliteCount config population))
        population.individuals ∧
      (∀ x ∈ next.take (eliteCount config population),
        heap.array x.chromosome = population.heap.array x.chromosome) ∧
      (1 ≤ eliteCount config population →
        ∀ x ∈ population.individuals, ∃ best ∈ next, best ∈ population.individuals ∧
          x.score ≤ best.score) := by
  obtain ⟨share, nonneg, atMost⟩ := truncate_share size ratio
  let self : GeneticOptimizer F := .init config currentGeneration
  let ranked := sortOn (fun x => OrderDual.toDual x.score) population.individuals
  let elite := ranked.take ⌊config.elitismRatio * config.populationSize⌋.toNat
  have ranks : ranked.length = population.individuals.length := (sortOn_perm _ _).length_eq
  have count : elite.length = eliteCount config population := by
    simp only [elite, List.length_take, ranks, eliteCount]
  obtain ⟨t, children, ran, added, ⟨_, same⟩, ended⟩ := growing_ends pow self draws evaluated
    (Nat.succ_pos 2) three fueled ⟨population.heap, elite, 0⟩
  let next := t.newPopulation.take config.populationSize.toNat
  have evolved : evolve pow self draws fuel population = (.ok next, t.heap) := by
    have loop : wp (evolveLoop pow self draws fuel population.individuals)
        (fun result u => result = next ∧ u = t) (fun _ _ => False) ⟨population.heap, [], 0⟩ := by
      simp only [evolveLoop, wp_bind, sortedByFitness_eq evaluated, wp_fromExcept_ok, wp_modify]
      rw [show truncate (self.config.elitismRatio * self.config.populationSize) = _ from share,
        slice_of_nonneg nonneg, List.nil_append, wp_of_ok ran]
      exact ⟨slice_of_nonneg size _, rfl⟩
    obtain ⟨result, u, made, rfl, rfl⟩ := exists_of_wp loop
    simp only [evolve, made]
  have full : (next.length : Int) = config.populationSize := by
    have long : config.populationSize ≤ t.newPopulation.length := not_lt.mp ended
    simp only [next, List.length_take]
    omega
  have front : next.take (eliteCount config population) = elite := by
    have within : eliteCount config population ≤ config.populationSize.toNat := by
      simp only [eliteCount]
      omega
    simp only [next, added, List.take_take, min_eq_left within]
    rw [← count, List.take_left]
  have leading : Leading (fun x => OrderDual.toDual x.score) elite population.individuals :=
    take_sortOn_leading _ _ _
  rw [← front] at leading count
  refine ⟨next, t.heap, evolved, full, count, leading, ?_, ?_⟩
  · intro x member
    exact same _ (population.live x (leading.subset x member))
  · intro some x member
    have present : next.take (eliteCount config population) ≠ [] := by
      intro none
      rw [none] at count
      simp at count
      omega
    obtain ⟨best, inFront, better⟩ := leading.exists_le present x member
    exact ⟨best, List.mem_of_mem_take inFront, leading.subset best inFront, better⟩

end Elite

section Trio

def trioConfig : EvolutionConfig Rat := ⟨3, 17 / 20, 1 / 2⟩

def trioMember (chromosome : Nat) (fitness : Rat) : Individual Rat :=
  ⟨chromosome, Dict.empty.set "fitness" fitness, none⟩

def trio : Population Rat 2 where
  heap := ⟨fun ref _ => ref, 3⟩
  individuals := [trioMember 0 (-4), trioMember 1 (-1), trioMember 2 (-3)]
  live := by decide

/-- The first positions are picked, and all the numbers drawn are one half. -/
def halves : PassDraws Rat 2 where
  tournament _ := {
    pick n k := (List.range n).take k
    nodup n k := List.nodup_range.sublist (List.take_sublist k _)
    length n k enough := by simp [enough]
    bound n k i member := List.mem_range.mp (List.mem_of_mem_take member) }
  crossover := ⟨1 / 2, by norm_num⟩
  spread _ := ⟨1 / 2, by norm_num⟩
  mutation _ _ := (⟨1 / 2, by norm_num⟩, ⟨1 / 2, by norm_num⟩)

/-- Half of an odd size is rounded down, and the best of the three is kept. All powers that
are taken are powers of one. -/
theorem trio_evolves :
    ∃ next heap, evolve (fun _ _ => 1) (.init trioConfig 0) (fun _ => halves) 3 trio = (.ok next, heap) ∧
      (next.length : Int) = 3 ∧
      ∀ x ∈ trio.individuals, ∃ best ∈ next, best ∈ trio.individuals ∧ x.score ≤ best.score := by
  have evaluated : ∀ x ∈ trio.individuals, x.Evaluated := by decide
  have one : 1 ≤ eliteCount trioConfig trio := by decide +kernel
  obtain ⟨next, heap, evolved, full, -, -, -, best⟩ := evolve_elitist (fun _ _ => 1) trioConfig 0
    (fun _ => halves) trio (by decide) evaluated (by decide) (by decide +kernel)
    (by decide : (3 : Int) ≤ (3 : Nat))
  exact ⟨next, heap, evolved, full, best one⟩

end Trio

end KuvaAI.Genetic
