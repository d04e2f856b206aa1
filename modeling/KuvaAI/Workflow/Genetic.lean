import KuvaAI.Lib.Dict
import KuvaAI.Lib.Loop
import KuvaAI.Lib.StableSelect
import KuvaAI.Python.Value
import Mathlib.Data.List.MinMax
import Mathlib.Data.Rat.Floor

/-! The generation step of genetic_algorithm.py. The chromosomes are arrays of one size,
and an individual refers to its own. Numbers are exact; powers and random draws come from
outside. -/
namespace KuvaAI.Genetic
open Python StableSelect

structure EvolutionConfig (F : Type) where
  populationSize : Int
  crossoverRate : F
  elitismRatio : F

structure Individual (F : Type) where
  chromosome : Nat
  fitness : Dict String F
  metadata : Option (Dict String Value)

/-- The arrays by their references; those below `next` have been made. -/
structure Heap (F : Type) (d : Nat) where
  array : Nat → Fin d → F
  next : Nat

structure Population (F : Type) (d : Nat) where
  heap : Heap F d
  individuals : List (Individual F)
  live : ∀ x ∈ individuals, x.chromosome < heap.next

structure SampleDraw where
  pick : Nat → Nat → List Nat
  nodup : ∀ n k, (pick n k).Nodup
  length : ∀ n k, k ≤ n → (pick n k).length = k
  bound : ∀ n k, ∀ i ∈ pick n k, i < n

section Draws

variable (F : Type) [Zero F] [One F] [LE F] [LT F] (d : Nat)

abbrev Draw : Type := { x : F // 0 ≤ x ∧ x < 1 }

/-- The draws of a pass of the loop. A gene of a child has one draw for whether it mutates,
and one for how. -/
structure PassDraws where
  tournament : Nat → SampleDraw
  crossover : Draw F
  spread : Fin d → Draw F
  mutation : Nat → Fin d → Draw F × Draw F

end Draws

def slice {α : Type} (xs : List α) (k : Int) : List α :=
  -- a negative end counts from the back
  if 0 ≤ k then xs.take k.toNat else xs.take (xs.length - (-k).toNat)

def sample {α : Type} (draw : SampleDraw) (population : List α) (k : Nat) : Except Exn (List α) :=
  if population.length < k then
    .error ⟨.valueError, "Sample larger than population or is negative"⟩
  else
    .ok ((draw.pick population.length k).filterMap fun i => population[i]?)

section Selection

variable {F : Type}

/-- Each with its `fitness['fitness']`. -/
def keyed (population : List (Individual F)) : Except Exn (List (F × Individual F)) :=
  population.mapM fun x =>
    match x.fitness.get? "fitness" with
    | some fitness => .ok (fitness, x)
    | none => .error ⟨.keyError, "'fitness'"⟩

variable [LinearOrder F]

def sortedByFitness (population : List (Individual F)) : Except Exn (List (Individual F)) := do
  let keyed ← keyed population
  -- `reverse` keeps the sort stable: equals stay in their order
  return (sortOn (fun entry => OrderDual.toDual entry.1) keyed).map Prod.snd

def winner (contestants : List (Individual F)) : Except Exn (Individual F) := do
  match (← keyed contestants).argmax Prod.fst with
  | some best => return best.2
  | none => throw ⟨.valueError, "max() arg is an empty sequence"⟩

def select (tournamentSize : Nat) (draws : Nat → SampleDraw) (population : List (Individual F))
    (numParents : Nat) : Except Exn (List (Individual F)) :=
  (List.range numParents).mapM fun i => do
    let contestants ← sample (draws i) population tournamentSize
    winner contestants

end Selection

section Operators

variable {F : Type} [Field F] [LinearOrder F] {d : Nat} (pow : F → F → F)

def two : F := ((2 : Nat) : F)

def half : F := 1 / two

def beta (eta rand : F) : F :=
  if rand ≤ half then pow (two * rand) (1 / (eta + 1))
  else pow (1 / (two * (1 - rand))) (1 / (eta + 1))

def crossover (eta : F) (rand : Fin d → Draw F) (parent1 parent2 : Fin d → F) :
    (Fin d → F) × (Fin d → F) :=
  let beta (i : Fin d) := beta pow eta (rand i).1
  (fun i => half * ((1 + beta i) * parent1 i + (1 - beta i) * parent2 i),
    fun i => half * ((1 - beta i) * parent1 i + (1 + beta i) * parent2 i))

def deltaQ (etaM u : F) : F :=
  if u < half then pow (two * u) (1 / (etaM + 1)) - 1
  else 1 - pow (two * (1 - u)) (1 / (etaM + 1))

/-- The loop of `PolynomialMutation.mutate`, which goes on in the array it is given. -/
def mutated (etaM : F) (draws : Fin d → Draw F × Draw F) (individual : Fin d → F) : Fin d → F :=
  (List.finRange d).foldl
    (fun individual i =>
      if (draws i).1.1 < 1 / d then
        Function.update individual i (individual i + deltaQ pow etaM (draws i).2.1)
      else individual)
    individual

end Operators

structure World (F : Type) (d : Nat) where
  heap : Heap F d
  newPopulation : List (Individual F)
  passes : Nat

structure GeneticOptimizer (F : Type) where
  config : EvolutionConfig F
  tournamentSize : Nat
  eta : F
  etaM : F
  currentGeneration : Int

def GeneticOptimizer.init {F : Type} [Field F] (config : EvolutionConfig F) (currentGeneration : Int) :
    GeneticOptimizer F where
  config := config
  tournamentSize := 3
  eta := 15
  etaM := 20
  currentGeneration := currentGeneration

section Evolution

variable {F : Type} {d : Nat}

def alloc (array : Fin d → F) : Effect (World F d) Exn Nat := do
  let w ← get
  set { w with heap := {
    array := Function.update w.heap.array w.heap.next array
    next := w.heap.next + 1 } }
  return w.heap.next

variable [Field F] [LinearOrder F] (pow : F → F → F) (self : GeneticOptimizer F)

def mutate (draws : Fin d → Draw F × Draw F) (individual : Nat) (_generation : Int) :
    Effect (World F d) Exn Nat := do
  modify fun w => { w with heap := { w.heap with
    array := Function.update w.heap.array individual
      (mutated pow self.etaM draws (w.heap.array individual)) } }
  return individual

def recombine (draws : PassDraws F d) (parent1 parent2 : Individual F) :
    Effect (World F d) Exn (Nat × Nat) := do
  let w ← get
  let genes1 := w.heap.array parent1.chromosome
  let genes2 := w.heap.array parent2.chromosome
  if draws.crossover.1 < self.config.crossoverRate then
    let children := crossover pow self.eta draws.spread genes1 genes2
    let child1 ← alloc children.1
    let child2 ← alloc children.2
    return (child1, child2)
  else
    let child1 ← alloc genes1
    let child2 ← alloc genes2
    return (child1, child2)

/-- A pass of the loop. There is no break in it. -/
def reproduce (draws : Nat → PassDraws F d) (population : List (Individual F)) :
    Effect (World F d) Exn Bool := do
  let w ← get
  let draws := draws w.passes
  let parents ← Effect.fromExcept (select self.tournamentSize draws.tournament population 2)
  match parents with
  | parent1 :: parent2 :: _ =>
    let (child1, child2) ← recombine pow self draws parent1 parent2
    let child1 ← mutate pow self (draws.mutation 0) child1 self.currentGeneration
    let child2 ← mutate pow self (draws.mutation 1) child2 self.currentGeneration
    modify fun w => { w with
      newPopulation := w.newPopulation ++ [⟨child1, .empty, none⟩, ⟨child2, .empty, none⟩]
      passes := w.passes + 1 }
    return false
  | _ => throw ⟨.indexError, "list index out of range"⟩

def growing (w : World F d) : Prop := (w.newPopulation.length : Int) < self.config.populationSize

instance : DecidablePred (growing (F := F) (d := d) self) := fun w =>
  inferInstanceAs (Decidable ((w.newPopulation.length : Int) < self.config.populationSize))

def truncate [FloorRing F] (x : F) : Int := if 0 ≤ x then ⌊x⌋ else ⌈x⌉

def evolveLoop [FloorRing F] (draws : Nat → PassDraws F d) (fuel : Nat)
    (population : List (Individual F)) : Effect (World F d) Exn (List (Individual F)) := do
  let eliteSize := truncate (self.config.elitismRatio * self.config.populationSize)
  let ranked ← Effect.fromExcept (sortedByFitness population)
  modify fun w => { w with newPopulation := w.newPopulation ++ slice ranked eliteSize }
  let _ ← Loop.run (growing self) (reproduce pow self draws population) fuel
  let w ← get
  return slice w.newPopulation self.config.populationSize

/-- `GeneticOptimizer.evolve`, with at most as many passes as there is fuel. -/
def evolve [FloorRing F] (draws : Nat → PassDraws F d) (fuel : Nat) (population : Population F d) :
    Except Exn (List (Individual F)) × Heap F d :=
  let (result, w) := evolveLoop pow self draws fuel population.individuals ⟨population.heap, [], 0⟩
  (result, w.heap)

end Evolution

end KuvaAI.Genetic
