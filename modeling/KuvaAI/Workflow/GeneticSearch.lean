import KuvaAI.Workflow.Genetic
import KuvaAI.Lib.Spread

/-! `run_optimization` of genetic_algorithm.py, on an optimizer as `__init__` leaves it. No
code sets the attribute `current_generation`, which `evolve` reads for every child. The
objective is a function of the chromosome, which it leaves alone, to numbers that are finite
and exact; roots, powers and draws come from outside. -/
namespace KuvaAI.Genetic
open Python StableSelect

structure SearchConfig (F : Type) extends EvolutionConfig F where
  maxGenerations : Int
  mutationRate : F
  adaptiveMutation : Bool
  objectives : List String
  migrationInterval : Int
  islandCount : Int
  terminationPatience : Int

/-- What comes from outside. The draws of a generation are known by its number. -/
structure Outside (F : Type) [Zero F] [One F] [LE F] [LT F] (d : Nat) where
  pow : F → F → F
  sqrt : F → F
  objective : (Fin d → F) → Except Exn (Dict String F)
  genes : Nat → Fin d → F
  passes : Nat → Nat → PassDraws F d
  picks : Nat → Nat → SampleDraw
  shuffle : Nat → List (Individual F) → List (Individual F)
  shuffle_perm : ∀ generation xs, (shuffle generation xs).Perm xs

/-- The optimizer's counters and logs, with the locals of `run_optimization`. -/
structure Search (F : Type) (d : Nat) where
  heap : Heap F d
  population : List (Individual F)
  best : Option (Individual F)
  fitnessHistory : List F
  stagnationCounter : Nat
  mutationRate : F
  hypervolumeLog : List F

section Population

variable {F : Type} {d : Nat}

def initializePopulation (size : Int) : List (Individual F) :=
  (List.range size.toNat).map fun i => ⟨i, .empty, some (Dict.empty.set "generation" (.int 0))⟩

/-- An individual whose evaluation raises is left as it was. -/
def evaluate (objective : (Fin d → F) → Except Exn (Dict String F)) (heap : Heap F d)
    (x : Individual F) : Individual F :=
  match objective (heap.array x.chromosome) with
  | .ok result => { x with fitness := result }
  | .error _ => x

/-- `numpy.array_split`: the first parts have one more where the length is not a multiple. -/
def arraySplit {α : Type} (xs : List α) (sections : Int) : Except Exn (List (List α)) :=
  if sections ≤ 0 then
    .error ⟨.valueError, "number sections must be larger than 0."⟩
  else
    let each := xs.length / sections.toNat
    let extras := xs.length % sections.toNat
    .ok ((List.range sections.toNat).map fun i =>
      (xs.drop (i * each + min i extras)).take (if i < extras then each + 1 else each))

/-- `xs[-k:]`, which is all of `xs` when `k` is zero. -/
def lastSlice {α : Type} (xs : List α) (k : Int) : List α :=
  if 0 < k then xs.drop (xs.length - k.toNat) else xs.drop (-k).toNat

end Population

section Evolution

variable {F : Type} {d : Nat} [Field F] [LinearOrder F] [FloorRing F] (outside : Outside F d)
  (config : SearchConfig F)

/-- The operators of a new optimizer. The generation in it is read by no code here. -/
def operators : GeneticOptimizer F := .init config.toEvolutionConfig 0

/-- A pass of the loop of `evolve`. The attribute is looked up before the first mutation. -/
def breed (draws : Nat → PassDraws F d) (population : List (Individual F)) :
    Effect (World F d) Exn Bool := do
  let w ← get
  let draws := draws w.passes
  let parents ← Effect.fromExcept (select (operators config).tournamentSize draws.tournament population 2)
  match parents with
  | parent1 :: parent2 :: _ =>
    let _ ← recombine outside.pow (operators config) draws parent1 parent2
    throw ⟨.attributeError, "'GeneticOptimizer' object has no attribute 'current_generation'"⟩
  | _ => throw ⟨.indexError, "list index out of range"⟩

/-- `evolve`, with at most as many passes as there is fuel. -/
def evolveNew (generation fuel : Nat) (population : List (Individual F)) :
    Effect (World F d) Exn (List (Individual F)) := do
  let eliteSize := truncate (config.elitismRatio * config.populationSize)
  let ranked ← Effect.fromExcept (sortedByFitness population)
  modify fun w => { w with newPopulation := w.newPopulation ++ slice ranked eliteSize }
  let _ ← Loop.run (growing (operators config)) (breed outside config (outside.passes generation) population)
    fuel
  let w ← get
  return slice w.newPopulation config.populationSize

/-- The mutation rate after a generation, which rises while the best fitness does not. -/
def adjust (currentBest : F) (s : Search F d) : Search F d :=
  if 1 < s.fitnessHistory.length then
    if currentBest - s.fitnessHistory.getLastD 0 < 1e-4 then
      { s with
        stagnationCounter := s.stagnationCounter + 1
        mutationRate := min 0.5 (config.mutationRate * (1 + (s.stagnationCounter + 1 : Nat) / 10)) }
    else
      { s with stagnationCounter := 0, mutationRate := config.mutationRate }
  else
    s

def adaptiveControl (s : Search F d) : Except Exn (Search F d) := do
  let keyed ← keyed s.population
  (keyed.map Prod.fst).max?.elim (throw ⟨.valueError, "max() arg is an empty sequence"⟩) fun currentBest =>
    return { adjust config currentBest s with fitnessHistory := s.fitnessHistory ++ [currentBest] }

def islandMigration (generation : Nat) (population : List (Individual F)) :
    Except Exn (List (Individual F)) := do
  let islands ← arraySplit population config.islandCount
  let migrants ← islands.zipIdx.mapM fun part => sample (outside.picks generation part.2) part.1 2
  return islands.flatten ++ outside.shuffle generation migrants.flatten

def migrate (generation : Nat) (population : List (Individual F)) : Except Exn (List (Individual F)) :=
  if config.migrationInterval = 0 then
    .error ⟨.zeroDivisionError, "integer modulo by zero"⟩
  else if (generation : Int) % config.migrationInterval = 0 then
    islandMigration outside config generation population
  else
    .ok population

/-- `_check_termination`. A deviation of nothing is no number, and below nothing. -/
def checkTermination (fitnessHistory : List F) : Bool :=
  if fitnessHistory.length < config.terminationPatience then
    false
  else
    let recent := lastSlice fitnessHistory config.terminationPatience
    recent ≠ [] ∧ outside.sqrt (Spread.variance recent) < 1e-4

def updateHypervolume (s : Search F d) : Search F d :=
  if 1 < config.objectives.length then { s with hypervolumeLog := s.hypervolumeLog ++ [0] } else s

/-- The end of a pass. Dictionaries have no order to compare them by. -/
def conclude (s : Search F d) : Except Exn (Bool × Search F d) :=
  if checkTermination outside config s.fitnessHistory then
    .ok (true, s)
  else do
    let s := updateHypervolume config s
    let currentBest ← winner s.population
    match s.best with
    | none => return (false, { s with best := some currentBest })
    | some _ => throw ⟨.typeError, "'>' not supported between instances of 'dict' and 'dict'"⟩

def adapt (s : Search F d) : Except Exn (Search F d) :=
  if config.adaptiveMutation then adaptiveControl config s else .ok s

/-- A pass of the loop of `run_optimization`; whether it breaks. -/
def generationStep (fuel generation : Nat) (s : Search F d) : Except Exn (Bool × Search F d) := do
  let s ← adapt config { s with population := s.population.map (evaluate outside.objective s.heap) }
  let (result, w) := evolveNew outside config generation fuel s.population ⟨s.heap, [], 0⟩
  let evolved ← result
  let population ← migrate outside config generation evolved
  conclude outside config { s with heap := w.heap, population := population }

def generations (fuel : Nat) : List Nat → Search F d → Except Exn (Search F d)
  | [], s => .ok s
  | generation :: rest, s => do
    let (broke, s) ← generationStep outside config fuel generation s
    if broke then return s else generations fuel rest s

def startSearch : Search F d where
  heap := ⟨outside.genes, config.populationSize.toNat⟩
  population := initializePopulation config.populationSize
  best := none
  fitnessHistory := []
  stagnationCounter := 0
  mutationRate := config.mutationRate
  hypervolumeLog := []

def runOptimization (fuel : Nat) : Except Exn (Search F d) :=
  generations outside config fuel (List.range config.maxGenerations.toNat) (startSearch outside config)

end Evolution

end KuvaAI.Genetic
