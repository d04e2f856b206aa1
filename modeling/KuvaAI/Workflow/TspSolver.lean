import KuvaAI.Lib.Reversal
import KuvaAI.Workflow.AnnealingEnds

/-! The travelling salesman of simulated_annealing.py: routes priced over a matrix of
distances, which are numbers, moves that reverse a part of a route, and what an annealing run
over them ends with. No interrupt comes between the assignments of `update_state`. -/
namespace KuvaAI.Annealing
open Effect Python

/-- Two positions as `random.sample(range(n), 2)` gives them. -/
structure Sample (n : Nat) where
  first : Fin n
  second : Fin n
  distinct : first ≠ second

structure DistanceMatrix (F : Type) where
  rows : Nat
  columns : Nat
  entry : Fin rows → Fin columns → F

namespace TspSolver

section Solver

variable {F : Type}

/-- A position of an axis; one from `-n` on is counted from the end. -/
def axisIndex (axis n : Nat) (k : Int) : Except Raised (Fin n) :=
  if within : 0 ≤ k ∧ k.toNat < n then
    .ok ⟨k.toNat, within.2⟩
  else if fromEnd : k < 0 ∧ 0 ≤ k + n then
    .ok ⟨(k + n).toNat, by omega⟩
  else
    .error (.exception ⟨.indexError,
      s!"index {k} is out of bounds for axis {axis} with size {n}"⟩)

def distance (matrix : DistanceMatrix F) (row column : Int) : Except Raised F := do
  let i ← axisIndex 0 matrix.rows row
  let j ← axisIndex 1 matrix.columns column
  return matrix.entry i j

def calculate (arith : Arithmetic F) (matrix : DistanceMatrix F) (solution : List Int) :
    Except Raised F :=
  (solution.zip solution.tail).foldlM
    (fun total leg => do return arith.add total (← distance matrix leg.1 leg.2)) (arith.lit 0)

/-- The two positions are sorted, and the part from the one to the other is reversed. -/
def generateNeighbor (sample : (n : Nat) → 2 ≤ n → Sample n) (current : List Int) :
    Except Raised (List Int) :=
  if enough : 2 ≤ current.length then
    let positions := sample current.length enough
    .ok (Reversal.reverseBetween (min positions.first.val positions.second.val)
      (max positions.first.val positions.second.val) current)
  else
    .error (.exception ⟨.valueError, "Sample larger than population or is negative"⟩)

def problem (arith : Arithmetic F) (matrix : DistanceMatrix F)
    (sample : Nat → Nat → (n : Nat) → 2 ≤ n → Sample n) (draw : Nat → F) : Env F (List Int) where
  arith := arith
  calculate := calculate arith matrix
  generateNeighbor iteration worker := generateNeighbor (sample iteration worker)
  draw := draw

end Solver

/-! What the moves can do. -/

def Neighbour (route next : List Int) : Prop := ∃ sample, generateNeighbor sample route = .ok next

theorem neighbour_iff (route next : List Int) :
    Neighbour route next ↔ Reversal.Reversed route next := by
  constructor
  · rintro ⟨sample, generated⟩
    unfold generateNeighbor at generated
    split at generated
    · rename_i enough
      cases generated
      have distinct := Fin.val_ne_of_ne (sample route.length enough).distinct
      exact ⟨_, _, by omega, by omega, rfl⟩
    · cases generated
  · rintro ⟨i, j, ordered, within, rfl⟩
    have enough : 2 ≤ route.length := by omega
    -- Only the sample for the length of this route matters.
    let sample (n : Nat) (big : 2 ≤ n) : Sample n :=
      if fits : i < n ∧ j < n then
        ⟨⟨i, fits.1⟩, ⟨j, fits.2⟩, fun same => ordered.ne (Fin.mk.inj same)⟩
      else
        ⟨⟨0, by omega⟩, ⟨1, big⟩, fun same => absurd (Fin.mk.inj same) (by omega)⟩
    refine ⟨sample, ?_⟩
    have fits : i < route.length ∧ j < route.length := ⟨ordered.trans within, within⟩
    simp [generateNeighbor, enough, sample, fits, min_eq_left ordered.le, max_eq_right ordered.le]

/-- The search space is the permutations of the route, and its diameter less than the
number of cities. -/
theorem perm_iff_moves (route next : List Int) : next.Perm route ↔
    ∃ visited, List.IsChain Neighbour (route :: visited) ∧
      (route :: visited).getLast? = some next ∧ visited.length ≤ route.length - 1 := by
  rw [Reversal.perm_iff_path]
  constructor
  · rintro ⟨visited, path, short⟩
    exact ⟨visited, path.chain.imp fun _ _ => (neighbour_iff _ _).mpr, path.ends, short⟩
  · rintro ⟨visited, chain, ends, short⟩
    exact ⟨visited, ⟨chain.imp fun _ _ => (neighbour_iff _ _).mp, ends⟩, short⟩

section Routes

variable {F : Type} {arith : Arithmetic F} {matrix : DistanceMatrix F}
  {sample : Nat → Nat → (n : Nat) → 2 ≤ n → Sample n} {draw : Nat → F} {route : List Int}

theorem closed_perm (route : List Int) :
    ClosedSpace (problem arith matrix sample draw) (·.Perm route) := by
  intro iteration worker s s' here generated
  exact (((neighbour_iff s s').mp ⟨sample iteration worker, generated⟩).perm).trans here

def City (n : Nat) (k : Int) : Prop := -n ≤ k ∧ k < n

theorem axisIndex_ok_iff (axis n : Nat) (k : Int) :
    (∃ i, axisIndex axis n k = .ok i) ↔ City n k := by
  unfold axisIndex City
  split
  · simp only [Except.ok.injEq, exists_eq', true_iff]
    omega
  · split
    · simp only [Except.ok.injEq, exists_eq', true_iff]
      omega
    · simp only [reduceCtorEq, exists_false, false_iff]
      omega

theorem distance_ok_iff (row column : Int) : (∃ d, distance matrix row column = .ok d) ↔
    City matrix.rows row ∧ City matrix.columns column := by
  rw [← axisIndex_ok_iff 0, ← axisIndex_ok_iff 1]
  unfold distance
  constructor
  · rintro ⟨d, priced⟩
    obtain ⟨i, isRow, priced⟩ := bind_eq_ok priced
    obtain ⟨j, isColumn, _⟩ := bind_eq_ok priced
    exact ⟨⟨i, isRow⟩, j, isColumn⟩
  · rintro ⟨⟨i, isRow⟩, j, isColumn⟩
    exact ⟨_, by rw [isRow, bind_ok, isColumn]; rfl⟩

theorem total_ok_iff (legs : List (Int × Int)) (total : F) :
    (∃ e, legs.foldlM (fun total leg => do
      return arith.add total (← distance matrix leg.1 leg.2)) total = .ok e) ↔
      ∀ leg ∈ legs, City matrix.rows leg.1 ∧ City matrix.columns leg.2 := by
  induction legs generalizing total with
  | nil => simp
  | cons leg legs ih =>
    simp only [List.foldlM_cons, List.forall_mem_cons]
    constructor
    · rintro ⟨e, priced⟩
      obtain ⟨next, first, priced⟩ := bind_eq_ok priced
      obtain ⟨d, measured, _⟩ := bind_eq_ok first
      exact ⟨(distance_ok_iff leg.1 leg.2).mp ⟨d, measured⟩, (ih next).mp ⟨e, priced⟩⟩
    · rintro ⟨first, later⟩
      obtain ⟨d, measured⟩ := (distance_ok_iff leg.1 leg.2).mpr first
      obtain ⟨e, priced⟩ := (ih (arith.add total d)).mpr later
      exact ⟨e, by rw [measured]; exact priced⟩

theorem exists_leg {c : Int} (long : 2 ≤ route.length) (member : c ∈ route) :
    ∃ leg ∈ route.zip route.tail, c = leg.1 ∨ c = leg.2 := by
  induction route with
  | nil => cases member
  | cons first rest ih =>
    cases rest with
    | nil => simp at long
    | cons second rest =>
      simp only [List.tail_cons, List.zip_cons_cons, List.mem_cons, exists_eq_or_imp]
      rcases List.mem_cons.mp member with rfl | later
      · exact .inl (.inl rfl)
      · cases rest with
        | nil => exact .inl (.inr (List.mem_singleton.mp later))
        | cons third rest => exact .inr (ih (by simp) later)

/-- Over a square matrix a route of at least two cities has a price exactly if all its
cities have a place in the matrix. -/
theorem calculate_ok_iff (square : matrix.rows = matrix.columns) (long : 2 ≤ route.length) :
    (∃ e, calculate arith matrix route = .ok e) ↔ ∀ c ∈ route, City matrix.rows c := by
  unfold calculate
  rw [total_ok_iff, ← square]
  constructor
  · intro legs c member
    obtain ⟨leg, listed, rfl | rfl⟩ := exists_leg long member
    · exact (legs leg listed).1
    · exact (legs leg listed).2
  · intro cities leg listed
    have ends := List.of_mem_zip listed
    exact ⟨cities _ ends.1, cities _ (List.mem_of_mem_tail ends.2)⟩

theorem calculate_perm (square : matrix.rows = matrix.columns) (long : 2 ≤ route.length)
    {other : List Int} (perm : other.Perm route) (priced : ∃ e, calculate arith matrix route = .ok e) :
    ∃ e, calculate arith matrix other = .ok e := by
  rw [calculate_ok_iff square long] at priced
  rw [calculate_ok_iff square (perm.length_eq ▸ long)]
  exact fun c member => priced c (perm.mem_iff.mp member)

end Routes

section Runs

variable {F : Type} [LinearOrder F] (arith : Arithmetic F) (matrix : DistanceMatrix F)
  (sample : Nat → Nat → (n : Nat) → 2 ≤ n → Sample n) (draw : Nat → F)

structure OnRoute (annealer : SimulatedAnnealing F) (start : List Int) (w : World F (List Int)) :
    Prop where
  route : w.state.currentSolution.Perm start
  framed : Framed (⟨annealer, w.state, 0, 0⟩ : World F (List Int)) w

section Passes

variable {arith matrix sample draw}

theorem onRoute_pass {self : SimulatedAnnealing F} {route : List Int} {w w' : World F (List Int)}
    {broke : Bool} (on : OnRoute self route w)
    (ran : iterate (problem arith matrix sample draw) w = (.ok broke, w')) :
    OnRoute self route w' := by
  obtain ⟨choice, chosen, passed⟩ := iterate_passed ran
  have framed := wp_of_eq_ok (iterate_framed w) ran
  constructor
  · rw [passed.solution]
    exact choose_within (closed_perm route) on.route chosen
  · exact ⟨framed.shutdown.trans on.framed.shutdown, framed.workers.trans on.framed.workers,
      framed.parallel.trans on.framed.parallel⟩

end Passes

omit [LinearOrder F] in
theorem candidates_of_long (w : World F (List Int)) (long : 2 ≤ w.state.currentSolution.length) :
    ∃ candidates, generateCandidates (problem arith matrix sample draw) w = .ok candidates ∧
      candidates.length = w.self.config.workers ∧
      ∀ c ∈ candidates, c.Perm w.state.currentSolution := by
  have made (worker : Nat) : ∃ c, (problem arith matrix sample draw).generateNeighbor
      w.state.iteration worker w.state.currentSolution = .ok c := by
    simp [problem, generateNeighbor, long]
  choose neighbour isNeighbour using made
  refine ⟨(List.range w.self.config.workers).map neighbour, ?_, by simp, ?_⟩
  · simp only [generateCandidates, isNeighbour]
    exact List.mapM_pure
  · intro c member
    obtain ⟨worker, _, rfl⟩ := List.mem_map.mp member
    exact closed_perm _ _ _ _ _ (.refl _) (isNeighbour worker)

omit [LinearOrder F] in
theorem candidates_of_short {w : World F (List Int)} (short : ¬ 2 ≤ w.state.currentSolution.length)
    {candidates : List (List Int)}
    (generated : generateCandidates (problem arith matrix sample draw) w = .ok candidates) :
    w.self.config.workers = 0 := by
  cases workers : w.self.config.workers with
  | zero => rfl
  | succ n =>
    rw [generateCandidates, workers, List.range_succ_eq_map, List.mapM_cons] at generated
    obtain ⟨_, first, _⟩ := bind_eq_ok generated
    simp [problem, generateNeighbor, short] at first

omit [LinearOrder F] in
theorem evaluate_ok {w : World F (List Int)} {candidates : List (List Int)}
    (live : w.self.config.parallelEvaluation = true → w.self.shutdown = false)
    (priced : ∀ c ∈ candidates, ∃ e, calculate arith matrix c = .ok e) :
    ∃ energies, evaluate (problem arith matrix sample draw) w candidates = .ok energies := by
  have open' : ¬ (w.self.config.parallelEvaluation = true ∧ w.self.shutdown = true ∧
      candidates ≠ []) := by
    rintro ⟨parallel, down, _⟩
    simp [live parallel] at down
  rw [evaluate, if_neg open']
  clear open'
  induction candidates with
  | nil => exact ⟨[], rfl⟩
  | cons c candidates ih =>
    obtain ⟨e, first⟩ := priced c List.mem_cons_self
    obtain ⟨energies, rest⟩ := ih fun c member => priced c (List.mem_cons_of_mem _ member)
    refine ⟨e :: energies, ?_⟩
    rw [List.mapM_cons, rest]
    change (calculate arith matrix c >>= _) = _
    rw [first]
    rfl

/-- No pass of a run over a square matrix fails to price its batch, unless the route has
no two cities to choose. -/
theorem batches_priced (self : SimulatedAnnealing F) (route : List Int)
    (start : SAState F (List Int)) (square : matrix.rows = matrix.columns)
    (live : self.config.parallelEvaluation = true → self.shutdown = false)
    (ready : initializeState (problem arith matrix sample draw) self route = .ok start) :
    ∀ w ∈ Loop.heads looping (iterate (problem arith matrix sample draw))
        self.config.maxIterations.toNat ⟨self, start, 0, 0⟩,
      (∃ candidates energies,
        generateCandidates (problem arith matrix sample draw) w = .ok candidates ∧
        candidates.length = self.config.workers ∧
        evaluate (problem arith matrix sample draw) w candidates = .ok energies) ↔
      2 ≤ route.length ∨ self.config.workers = 0 := by
  obtain ⟨initial, priced, rfl⟩ := initializeState_ok ready
  intro w began
  have on : OnRoute self route w :=
    Loop.heads_invariant (fun _ _ on ran => onRoute_pass on ran) ⟨.refl route, rfl, rfl, rfl⟩ w began
  have workers := on.framed.workers
  constructor
  · rintro ⟨candidates, _, generated, _⟩
    by_contra! none
    have short : ¬ 2 ≤ w.state.currentSolution.length := by
      rw [on.route.length_eq]
      omega
    exact none.2 (workers.symm.trans (candidates_of_short arith matrix sample draw short generated))
  · intro enough
    have alive : w.self.config.parallelEvaluation = true → w.self.shutdown = false := by
      rw [on.framed.parallel, on.framed.shutdown]
      exact live
    rcases Nat.lt_or_ge route.length 2 with short | long
    · have idle : self.config.workers = 0 := by omega
      refine ⟨[], ?_⟩
      obtain ⟨energies, evaluated⟩ :=
        evaluate_ok arith matrix sample draw alive (List.forall_mem_nil _)
      refine ⟨energies, ?_, idle.symm, evaluated⟩
      simp [generateCandidates, workers, idle]
    · obtain ⟨candidates, generated, count, perms⟩ :=
        candidates_of_long arith matrix sample draw w (on.route.length_eq ▸ long)
      obtain ⟨energies, evaluated⟩ :=
        evaluate_ok arith matrix sample draw alive fun c member =>
          calculate_perm square long ((perms c member).trans on.route) ⟨initial, priced⟩
      exact ⟨candidates, energies, generated, count.trans workers, evaluated⟩

end Runs

def road : DistanceMatrix Rat where
  rows := 3
  columns := 3
  entry i j := if i ≤ j then j.val - i.val else 10 * (i.val - j.val)

def leading (n : Nat) (enough : 2 ≤ n) : Sample n where
  first := ⟨0, by omega⟩
  second := ⟨1, enough⟩
  distinct same := by cases same

def roadProblem : Env Rat (List Int) :=
  problem coarse road (fun _ _ => leading) fun _ => 1 / 2

theorem road_priced : ∃ w : World Rat (List Int), ∃ candidates energies,
    generateCandidates roadProblem w = .ok candidates ∧ candidates.length = 1 ∧
      evaluate roadProblem w candidates = .ok energies := by
  obtain ⟨start, ready⟩ : ∃ start, initializeState roadProblem fresh [0, 1, 2] = .ok start :=
    ⟨_, rfl⟩
  have enters : looping (⟨fresh, start, 0, 0⟩ : World Rat (List Int)) := by
    obtain ⟨e, _, rfl⟩ := initializeState_ok ready
    have soon : (0 : Int) < fresh.config.maxIterations := by decide
    have hot : fresh.config.minTemperature < fresh.config.initialTemperature := by decide +kernel
    exact ⟨soon, hot⟩
  have began : ⟨fresh, start, 0, 0⟩ ∈ Loop.heads looping (iterate roadProblem) 4
      ⟨fresh, start, 0, 0⟩ := by
    rw [Loop.heads, if_pos enters]
    exact List.mem_cons_self
  exact ⟨_, (batches_priced coarse road _ _ fresh [0, 1, 2] _ rfl (by decide) ready _ began).mpr
    (.inl (by decide))⟩

end TspSolver

end KuvaAI.Annealing
