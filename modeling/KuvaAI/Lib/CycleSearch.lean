import KuvaAI.Lib.Acyclic
import Mathlib.Data.List.Chain
import Mathlib.Data.List.Nodup
import Mathlib.Data.Finset.Card

/-! Depth-first search for cycles. A node met again while it is on the stack
closes a cycle; a node that has left the stack is not looked at again. The depth
of the recursion is bounded by fuel, and the number of nodes not yet visited is
fuel enough. -/
namespace CycleSearch

structure Search (V : Type) where
  visited : List V
  stack : List V
  cycles : List (List V)

section Definitions

variable {V : Type}

def Search.init : Search V := ⟨[], [], []⟩

variable [DecidableEq V] (succ : V → List V)

def scan (visit : V → Search V → Option (Search V)) : List V → Search V → Option (Search V)
  | [], s => some s
  | next :: rest, s =>
    if next ∈ s.stack then
      let cycle := s.stack.drop (s.stack.idxOf next) ++ [next]
      scan visit rest { s with cycles := s.cycles ++ [cycle] }
    else if next ∈ s.visited then
      scan visit rest s
    else do
      let s ← visit next s
      scan visit rest s

/-- The stack is kept with its newest node last. -/
def dfs : Nat → V → Search V → Option (Search V)
  | 0, _, _ => none
  | fuel + 1, node, s =>
    if node ∈ s.visited then some s
    else do
      let s ← scan (dfs fuel) (succ node)
        { s with visited := node :: s.visited, stack := s.stack ++ [node] }
      return { s with stack := s.stack.dropLast }

def search (fuel : Nat) (roots : List V) : Option (Search V) :=
  roots.foldlM (fun s root => dfs succ fuel root s) .init

end Definitions

section Correctness

variable {V : Type} {succ : V → List V}

abbrev Edge (succ : V → List V) (a b : V) : Prop := b ∈ succ a

structure ClosedWalk (succ : V → List V) (walk : List V) : Prop where
  chain : walk.IsChain (Edge succ)
  closed : walk.head? = walk.getLast?
  long : 2 ≤ walk.length

theorem ClosedWalk.cycle {walk : List V} (closed : ClosedWalk succ walk) :
    ∃ v ∈ walk, Relation.TransGen (Edge succ) v v := by
  obtain ⟨chain, closed, long⟩ := closed
  cases walk with
  | nil => simp at long
  | cons v rest =>
    refine ⟨v, List.mem_cons_self, ?_⟩
    cases rest with
    | nil => simp at long
    | cons w rest =>
      have steps : (v :: w :: rest).IsChain (Relation.TransGen (Edge succ)) :=
        chain.imp fun _ _ edge => .single edge
      have last : v ∈ w :: rest := by
        rw [List.head?_cons, List.getLast?_cons_cons] at closed
        exact List.mem_of_getLast? closed.symm
      exact steps.rel_cons last

/-- What holds between two moves. While no cycle has been found, every node off
the stack starts no infinite path. -/
structure Invariant (succ : V → List V) (Reached : V → Prop) (s : Search V) : Prop where
  stacked : ∀ v ∈ s.stack, v ∈ s.visited
  path : s.stack.IsChain (Edge succ)
  reached : ∀ v ∈ s.visited, Reached v
  sound : ∀ cycle ∈ s.cycles, ClosedWalk succ cycle ∧ ∀ v ∈ cycle, Reached v
  done : s.cycles = [] → ∀ v ∈ s.visited, v ∉ s.stack → Acc (Function.swap (Edge succ)) v

theorem invariant_init (Reached : V → Prop) : Invariant succ Reached .init where
  stacked := fun _ mem => (List.not_mem_nil mem).elim
  path := .nil
  reached := fun _ mem => (List.not_mem_nil mem).elim
  sound := fun _ mem => (List.not_mem_nil mem).elim
  done := fun _ _ mem => (List.not_mem_nil mem).elim

structure Grows (s t : Search V) : Prop where
  stack : t.stack = s.stack
  visited : ∀ v ∈ s.visited, v ∈ t.visited
  cycles : t.cycles = [] → s.cycles = []

theorem Grows.refl (s : Search V) : Grows s s := ⟨rfl, fun _ mem => mem, fun none => none⟩

theorem Grows.trans {s t u : Search V} (first : Grows s t) (second : Grows t u) : Grows s u :=
  ⟨second.stack.trans first.stack, fun v mem => second.visited v (first.visited v mem),
    fun none => first.cycles (second.cycles none)⟩

def Visits (succ : V → List V) (Reached : V → Prop) (visit : V → Search V → Option (Search V)) :
    Prop :=
  ∀ v s t, Invariant succ Reached s → Reached v →
    (∀ top ∈ s.stack.getLast?, Edge succ top v) → visit v s = some t →
    Invariant succ Reached t ∧ Grows s t ∧ v ∈ t.visited

theorem push_invariant {Reached : V → Prop} {s : Search V} {v : V}
    (inv : Invariant succ Reached s) (reached : Reached v)
    (fromTop : ∀ top ∈ s.stack.getLast?, Edge succ top v) :
    Invariant succ Reached { s with visited := v :: s.visited, stack := s.stack ++ [v] } := by
  refine ⟨?_, ?_, ?_, inv.sound, ?_⟩
  · intro w mem
    rcases List.mem_append.mp mem with old | new
    · exact List.mem_cons_of_mem _ (inv.stacked w old)
    · exact List.mem_singleton.mp new ▸ List.mem_cons_self
  · apply inv.path.append (List.isChain_singleton v)
    intro top isLast w isNew
    cases isNew
    exact fromTop top isLast
  · exact List.forall_mem_cons.mpr ⟨reached, inv.reached⟩
  · intro none w seen off
    have apart : w ∉ s.stack ∧ w ≠ v := by simpa using off
    rcases List.mem_cons.mp seen with same | old
    · exact absurd same apart.2
    · exact inv.done none w old apart.1

variable [DecidableEq V]

theorem closedWalk_of_stack {stack : List V} {top next : V} (path : stack.IsChain (Edge succ))
    (last : stack.getLast? = some top) (edge : Edge succ top next) (on : next ∈ stack) :
    ClosedWalk succ (stack.drop (stack.idxOf next) ++ [next]) := by
  have bound := List.idxOf_lt_length_of_mem on
  have split : stack.drop (stack.idxOf next) =
      next :: stack.drop (stack.idxOf next + 1) := by
    rw [List.drop_eq_getElem_cons bound, List.getElem_idxOf]
  have end_ : (stack.drop (stack.idxOf next)).getLast? = some top := by
    rw [List.getLast?_drop, if_neg (Nat.not_le_of_lt bound), last]
  constructor
  · apply (path.drop _).append (List.isChain_singleton next)
    intro x isLast y isNext
    rw [end_] at isLast
    cases isLast
    cases isNext
    exact edge
  · rw [List.getLast?_concat, split, List.cons_append, List.head?_cons]
  · rw [split, List.length_append, List.length_cons, List.length_singleton]
    omega

/-- An edge back into the stack closes a walk that is recorded. -/
theorem found_invariant {Reached : V → Prop} {s : Search V} (inv : Invariant succ Reached s)
    {top next : V} (last : s.stack.getLast? = some top) (edge : Edge succ top next)
    (reached : Reached next) (on : next ∈ s.stack) :
    Invariant succ Reached
      { s with cycles := s.cycles ++ [s.stack.drop (s.stack.idxOf next) ++ [next]] } := by
  have walk := closedWalk_of_stack inv.path last edge on
  have onReached : ∀ v ∈ s.stack.drop (s.stack.idxOf next) ++ [next], Reached v := by
    intro v mem
    rcases List.mem_append.mp mem with old | new
    · exact inv.reached v (inv.stacked v (List.mem_of_mem_drop old))
    · exact List.mem_singleton.mp new ▸ reached
  refine ⟨inv.stacked, inv.path, inv.reached, ?_, fun none => by simp at none⟩
  intro cycle mem
  rcases List.mem_append.mp mem with old | new
  · exact inv.sound cycle old
  · exact List.mem_singleton.mp new ▸ ⟨walk, onReached⟩

theorem scan_spec {Reached : V → Prop} (closed : ∀ a b, Reached a → Edge succ a b → Reached b)
    {visit : V → Search V → Option (Search V)} (visits : Visits succ Reached visit) {top : V}
    (nexts : List V) (edges : ∀ next ∈ nexts, Edge succ top next) (s t : Search V)
    (last : s.stack.getLast? = some top) (inv : Invariant succ Reached s)
    (scanned : scan visit nexts s = some t) :
    Invariant succ Reached t ∧ Grows s t ∧
      (t.cycles = [] → ∀ next ∈ nexts, next ∈ t.visited ∧ next ∉ t.stack) := by
  induction nexts generalizing s with
  | nil =>
    cases scanned
    exact ⟨inv, .refl _, fun _ _ mem => (List.not_mem_nil mem).elim⟩
  | cons next rest ih =>
    have edge := edges next List.mem_cons_self
    have others : ∀ n ∈ rest, Edge succ top n :=
      fun n mem => edges n (List.mem_cons_of_mem _ mem)
    have topReached : Reached top := inv.reached top (inv.stacked top (List.mem_of_getLast? last))
    rw [scan] at scanned
    split at scanned
    · rename_i on
      have found := found_invariant inv last edge (closed top next topReached edge) on
      obtain ⟨invT, grows, _⟩ := ih others
        { s with cycles := s.cycles ++ [s.stack.drop (s.stack.idxOf next) ++ [next]] } last found scanned
      have some_ : t.cycles ≠ [] := fun none => by simpa using grows.cycles none
      exact ⟨invT, ⟨grows.stack, grows.visited, fun none => absurd none some_⟩,
        fun none => absurd none some_⟩
    · rename_i off
      split at scanned
      · rename_i seen
        obtain ⟨invT, grows, ends⟩ := ih others s last inv scanned
        refine ⟨invT, grows, fun none => List.forall_mem_cons.mpr ⟨?_, ends none⟩⟩
        exact ⟨grows.visited next seen, grows.stack ▸ off⟩
      · obtain ⟨u, visited, rested⟩ := Option.bind_eq_some_iff.mp scanned
        have fromTop : ∀ x ∈ s.stack.getLast?, Edge succ x next := by
          intro x isLast
          rw [last] at isLast
          cases isLast
          exact edge
        obtain ⟨invU, growsU, seen⟩ :=
          visits next s u inv (closed top next topReached edge) fromTop visited
        obtain ⟨invT, grows, ends⟩ := ih others u (growsU.stack ▸ last) invU rested
        refine ⟨invT, growsU.trans grows, fun none => List.forall_mem_cons.mpr ⟨?_, ends none⟩⟩
        exact ⟨grows.visited next seen, by rw [grows.stack, growsU.stack]; exact off⟩

theorem pop_invariant {Reached : V → Prop} {s t : Search V} {v : V}
    (before : Invariant succ Reached s) (inv : Invariant succ Reached t)
    (stack : t.stack = s.stack ++ [v])
    (ends : t.cycles = [] → ∀ next ∈ succ v, next ∈ t.visited ∧ next ∉ t.stack) :
    Invariant succ Reached { t with stack := t.stack.dropLast } := by
  have popped : t.stack.dropLast = s.stack := by rw [stack, List.dropLast_concat]
  refine ⟨?_, ?_, inv.reached, inv.sound, ?_⟩
  · exact fun w mem => inv.stacked w (List.mem_of_mem_dropLast mem)
  · exact popped ▸ before.path
  · intro none w seen off
    by_cases same : w = v
    · subst same
      constructor
      intro next edge
      obtain ⟨seenNext, offNext⟩ := ends none next edge
      exact inv.done none next seenNext offNext
    · apply inv.done none w seen
      intro on
      rw [stack] at on
      rcases List.mem_append.mp on with old | new
      · exact off (popped ▸ old)
      · exact same (List.mem_singleton.mp new)

theorem dfs_visits {Reached : V → Prop} (closed : ∀ a b, Reached a → Edge succ a b → Reached b)
    (fuel : Nat) : Visits succ Reached (dfs succ fuel) := by
  induction fuel with
  | zero =>
    intro v s t _ _ _ visited
    cases visited
  | succ fuel ih =>
    intro v s t inv reached fromTop visited
    rw [dfs] at visited
    split at visited
    · rename_i seen
      cases visited
      exact ⟨inv, .refl s, seen⟩
    · obtain ⟨u, scanned, popped⟩ := Option.bind_eq_some_iff.mp visited
      cases popped
      obtain ⟨invU, grows, ends⟩ := scan_spec closed ih (succ v) (fun _ edge => edge) _ u
        (List.getLast?_concat) (push_invariant inv reached fromTop) scanned
      refine ⟨pop_invariant inv invU grows.stack ends, ⟨?_, ?_, grows.cycles⟩, ?_⟩
      · rw [grows.stack, List.dropLast_concat]
      · exact fun w mem => grows.visited w (List.mem_cons_of_mem _ mem)
      · exact grows.visited v List.mem_cons_self

end Correctness

section Simplicity

variable {V : Type}

structure Simple (s : Search V) : Prop where
  stacked : ∀ v ∈ s.stack, v ∈ s.visited
  distinct : s.stack.Nodup
  cycles : ∀ cycle ∈ s.cycles, cycle.dropLast.Nodup

theorem simple_init : Simple (.init : Search V) where
  stacked := fun _ mem => (List.not_mem_nil mem).elim
  distinct := List.nodup_nil
  cycles := fun _ mem => (List.not_mem_nil mem).elim

def KeepsSimple (visit : V → Search V → Option (Search V)) : Prop :=
  ∀ v s t, Simple s → visit v s = some t → Simple t ∧ t.stack = s.stack

variable [DecidableEq V] {succ : V → List V}

theorem scan_simple {visit : V → Search V → Option (Search V)} (keeps : KeepsSimple visit)
    (nexts : List V) (s t : Search V) (simple : Simple s) (scanned : scan visit nexts s = some t) :
    Simple t ∧ t.stack = s.stack := by
  induction nexts generalizing s with
  | nil =>
    cases scanned
    exact ⟨simple, rfl⟩
  | cons next rest ih =>
    rw [scan] at scanned
    split at scanned
    · have found : Simple { s with
          cycles := s.cycles ++ [s.stack.drop (s.stack.idxOf next) ++ [next]] } := by
        refine ⟨simple.stacked, simple.distinct, fun cycle mem => ?_⟩
        rcases List.mem_append.mp mem with old | new
        · exact simple.cycles cycle old
        · rw [List.mem_singleton.mp new, List.dropLast_concat]
          exact simple.distinct.sublist (List.drop_sublist _ _)
      exact ih { s with cycles := s.cycles ++ [s.stack.drop (s.stack.idxOf next) ++ [next]] } found
        scanned
    · split at scanned
      · exact ih s simple scanned
      · obtain ⟨u, visited, rested⟩ := Option.bind_eq_some_iff.mp scanned
        obtain ⟨simpleU, stackU⟩ := keeps next s u simple visited
        obtain ⟨simpleT, stackT⟩ := ih u simpleU rested
        exact ⟨simpleT, stackT.trans stackU⟩

theorem dfs_simple (fuel : Nat) : KeepsSimple (dfs succ fuel) := by
  induction fuel with
  | zero =>
    intro v s t _ visited
    cases visited
  | succ fuel ih =>
    intro v s t simple visited
    rw [dfs] at visited
    split at visited
    · cases visited
      exact ⟨simple, rfl⟩
    · rename_i fresh
      obtain ⟨u, scanned, popped⟩ := Option.bind_eq_some_iff.mp visited
      cases popped
      have offStack : v ∉ s.stack := fun on => fresh (simple.stacked v on)
      have pushed : Simple { s with visited := v :: s.visited, stack := s.stack ++ [v] } := by
        refine ⟨?_, ?_, simple.cycles⟩
        · intro w mem
          rcases List.mem_append.mp mem with old | new
          · exact List.mem_cons_of_mem _ (simple.stacked w old)
          · exact List.mem_singleton.mp new ▸ List.mem_cons_self
        · refine List.nodup_append.mpr ⟨simple.distinct, List.nodup_singleton v, ?_⟩
          intro w on x isNew same
          rw [List.mem_singleton.mp isNew] at same
          exact offStack (same ▸ on)
      obtain ⟨simpleU, stackU⟩ := scan_simple ih (succ v) _ u pushed scanned
      refine ⟨⟨?_, ?_, simpleU.cycles⟩, by rw [stackU, List.dropLast_concat]⟩
      · exact fun w mem => simpleU.stacked w (List.mem_of_mem_dropLast mem)
      · exact simpleU.distinct.sublist (List.dropLast_sublist _)

theorem search_simple {fuel : Nat} (roots : List V) {s t : Search V} (simple : Simple s)
    (searched : roots.foldlM (fun s root => dfs succ fuel root s) s = some t) : Simple t := by
  induction roots generalizing s with
  | nil =>
    cases searched
    exact simple
  | cons root rest ih =>
    rw [List.foldlM_cons] at searched
    obtain ⟨u, visited, rested⟩ := Option.bind_eq_some_iff.mp searched
    exact ih (dfs_simple fuel root s u simple visited).1 rested

end Simplicity

section Coverage

variable {V : Type} {succ : V → List V}

/-- What has left the stack has all its successors visited, on whatever cycles they are. -/
structure Covered (succ : V → List V) (s : Search V) : Prop where
  stacked : ∀ v ∈ s.stack, v ∈ s.visited
  left : ∀ v ∈ s.visited, v ∉ s.stack → ∀ next ∈ succ v, next ∈ s.visited

theorem covered_init : Covered succ .init where
  stacked := fun _ mem => (List.not_mem_nil mem).elim
  left := fun _ mem => (List.not_mem_nil mem).elim

structure Covers (succ : V → List V) (nexts : List V) (s t : Search V) : Prop where
  covered : Covered succ t
  stack : t.stack = s.stack
  visited : ∀ v ∈ s.visited, v ∈ t.visited
  reached : ∀ next ∈ nexts, next ∈ t.visited

theorem Covers.cons {next : V} {rest : List V} {s t u : Search V} (first : Covers succ [next] s t)
    (others : Covers succ rest t u) : Covers succ (next :: rest) s u where
  covered := others.covered
  stack := others.stack.trans first.stack
  visited v mem := others.visited v (first.visited v mem)
  reached := List.forall_mem_cons.mpr
    ⟨others.visited next (first.reached next List.mem_cons_self), others.reached⟩

variable [DecidableEq V]

theorem scan_covers {visit : V → Search V → Option (Search V)}
    (visits : ∀ v s t, Covered succ s → visit v s = some t → Covers succ [v] s t)
    (nexts : List V) (s t : Search V) (covered : Covered succ s)
    (scanned : scan visit nexts s = some t) : Covers succ nexts s t := by
  induction nexts generalizing s with
  | nil =>
    cases scanned
    exact ⟨covered, rfl, fun _ mem => mem, fun _ mem => (List.not_mem_nil mem).elim⟩
  | cons next rest ih =>
    have here : ∀ {u : Search V}, Covered succ u → u.stack = s.stack → u.visited = s.visited →
        next ∈ s.visited → Covers succ [next] s u := by
      intro u known stack visited seen
      refine ⟨known, stack, fun v mem => visited ▸ mem, ?_⟩
      exact List.forall_mem_singleton.mpr (visited ▸ seen)
    rw [scan] at scanned
    split at scanned
    · rename_i on
      have found : Covered succ { s with
          cycles := s.cycles ++ [s.stack.drop (s.stack.idxOf next) ++ [next]] } :=
        ⟨covered.stacked, covered.left⟩
      exact (here found rfl rfl (covered.stacked next on)).cons (ih _ found scanned)
    · split at scanned
      · rename_i seen
        exact (here covered rfl rfl seen).cons (ih s covered scanned)
      · obtain ⟨u, visited, rested⟩ := Option.bind_eq_some_iff.mp scanned
        have first := visits next s u covered visited
        exact first.cons (ih u first.covered rested)

theorem dfs_covers (fuel : Nat) (v : V) (s t : Search V) (covered : Covered succ s)
    (visited : dfs succ fuel v s = some t) : Covers succ [v] s t := by
  induction fuel generalizing v s t with
  | zero => cases visited
  | succ fuel ih =>
    rw [dfs] at visited
    split at visited
    · rename_i seen
      cases visited
      exact ⟨covered, rfl, fun _ mem => mem, List.forall_mem_singleton.mpr seen⟩
    · obtain ⟨u, scanned, popped⟩ := Option.bind_eq_some_iff.mp visited
      cases popped
      have pushed : Covered succ { s with visited := v :: s.visited, stack := s.stack ++ [v] } := by
        constructor
        · intro w mem
          rcases List.mem_append.mp mem with old | new
          · exact List.mem_cons_of_mem _ (covered.stacked w old)
          · exact List.mem_singleton.mp new ▸ List.mem_cons_self
        · intro w seen off next edge
          have apart : w ∉ s.stack ∧ w ≠ v := by simpa using off
          have old := (List.mem_cons.mp seen).resolve_left apart.2
          exact List.mem_cons_of_mem _ (covered.left w old apart.1 next edge)
      have covers := scan_covers ih (succ v) _ u pushed scanned
      have popped : u.stack.dropLast = s.stack := by rw [covers.stack, List.dropLast_concat]
      refine ⟨⟨?_, ?_⟩, popped, fun w mem => covers.visited w (List.mem_cons_of_mem _ mem),
        List.forall_mem_singleton.mpr (covers.visited v List.mem_cons_self)⟩
      · exact fun w mem => covers.covered.stacked w (List.mem_of_mem_dropLast mem)
      · intro w seen off next edge
        by_cases same : w = v
        · exact covers.reached next (same ▸ edge)
        · refine covers.covered.left w seen (fun on => ?_) next edge
          rw [covers.stack] at on
          rcases List.mem_append.mp on with old | new
          · exact off (popped ▸ old)
          · exact same (List.mem_singleton.mp new)

theorem dfs_reaches {fuel : Nat} {root v : V} {s : Search V}
    (searched : dfs succ fuel root .init = some s) (path : Relation.ReflTransGen (Edge succ) root v) :
    v ∈ s.visited := by
  have covers := dfs_covers fuel root .init s covered_init searched
  induction path with
  | refl => exact covers.reached root List.mem_cons_self
  | tail _ edge ih => exact covers.covered.left _ ih (by rw [covers.stack]; exact List.not_mem_nil) _ edge

end Coverage

section Termination

variable {V : Type} [DecidableEq V] {succ : V → List V}

def unvisited (nodes : Finset V) (s : Search V) : Finset V := nodes \ s.visited.toFinset

theorem unvisited_mono (nodes : Finset V) {s t : Search V}
    (more : ∀ v ∈ s.visited, v ∈ t.visited) :
    (unvisited nodes t).card ≤ (unvisited nodes s).card := by
  apply Finset.card_le_card
  apply Finset.sdiff_subset_sdiff (Finset.Subset.refl _)
  intro v mem
  exact List.mem_toFinset.mpr (more v (List.mem_toFinset.mp mem))

theorem unvisited_push {nodes : Finset V} {s : Search V} {v : V} (mem : v ∈ nodes)
    (fresh : v ∉ s.visited) (stack : List V) :
    (unvisited nodes { s with visited := v :: s.visited, stack := stack }).card <
      (unvisited nodes s).card := by
  apply Finset.card_lt_card
  refine Finset.ssubset_iff_of_subset ?_ |>.mpr ⟨v, ?_, ?_⟩
  · apply Finset.sdiff_subset_sdiff (Finset.Subset.refl _)
    intro w old
    exact List.mem_toFinset.mpr (List.mem_cons_of_mem _ (List.mem_toFinset.mp old))
  · simp [unvisited, mem, fresh]
  · simp [unvisited]

def Returns (nodes : Finset V) (fuel : Nat) (visit : V → Search V → Option (Search V)) :
    Prop :=
  ∀ v s, v ∈ nodes → (unvisited nodes s).card < fuel →
    ∃ t, visit v s = some t ∧ ∀ w ∈ s.visited, w ∈ t.visited

theorem scan_returns {nodes : Finset V} {fuel : Nat}
    {visit : V → Search V → Option (Search V)} (returns : Returns nodes fuel visit)
    (nexts : List V) (inside : ∀ next ∈ nexts, next ∈ nodes) (s : Search V)
    (enough : (unvisited nodes s).card < fuel) :
    ∃ t, scan visit nexts s = some t ∧ ∀ w ∈ s.visited, w ∈ t.visited := by
  induction nexts generalizing s with
  | nil => exact ⟨s, rfl, fun _ mem => mem⟩
  | cons next rest ih =>
    have others : ∀ n ∈ rest, n ∈ nodes := fun n mem => inside n (List.mem_cons_of_mem _ mem)
    rw [scan]
    split
    · exact ih others _ enough
    · split
      · exact ih others s enough
      · obtain ⟨u, visited, more⟩ := returns next s (inside next List.mem_cons_self) enough
        obtain ⟨t, scanned, moreT⟩ :=
          ih others u (Nat.lt_of_le_of_lt (unvisited_mono nodes more) enough)
        refine ⟨t, ?_, fun w mem => moreT w (more w mem)⟩
        rw [visited]
        exact scanned

theorem dfs_returns {nodes : Finset V}
    (closed : ∀ v ∈ nodes, ∀ next ∈ succ v, next ∈ nodes) (fuel : Nat) :
    Returns nodes fuel (dfs succ fuel) := by
  induction fuel with
  | zero =>
    intro v s _ enough
    exact absurd enough (Nat.not_lt_zero _)
  | succ fuel ih =>
    intro v s mem enough
    rw [dfs]
    split
    · exact ⟨s, rfl, fun _ old => old⟩
    · rename_i fresh
      have smaller := unvisited_push mem fresh (s.stack ++ [v])
      obtain ⟨t, scanned, more⟩ := scan_returns ih (succ v) (closed v mem)
        { s with visited := v :: s.visited, stack := s.stack ++ [v] } (by omega)
      refine ⟨{ t with stack := t.stack.dropLast }, ?_, fun w old => ?_⟩
      · rw [scanned]
        rfl
      · exact more w (List.mem_cons_of_mem _ old)

end Termination

section Main

variable {V : Type} [DecidableEq V] {succ : V → List V}

theorem roots_spec {Reached : V → Prop} (closed : ∀ a b, Reached a → Edge succ a b → Reached b)
    (nodes : Finset V) (within : ∀ v ∈ nodes, ∀ next ∈ succ v, next ∈ nodes)
    {fuel : Nat} (enough : nodes.card < fuel) (roots : List V)
    (inside : ∀ root ∈ roots, root ∈ nodes ∧ Reached root) (s : Search V)
    (inv : Invariant succ Reached s) (idle : s.stack = []) :
    ∃ t, roots.foldlM (fun s root => dfs succ fuel root s) s = some t ∧
      Invariant succ Reached t ∧ Grows s t ∧ ∀ root ∈ roots, root ∈ t.visited := by
  induction roots generalizing s with
  | nil => exact ⟨s, rfl, inv, .refl s, fun _ mem => (List.not_mem_nil mem).elim⟩
  | cons root rest ih =>
    obtain ⟨isIn, reached⟩ := inside root List.mem_cons_self
    have few : (unvisited nodes s).card < fuel :=
      Nat.lt_of_le_of_lt (Finset.card_le_card Finset.sdiff_subset) enough
    obtain ⟨u, visited, _⟩ := dfs_returns within fuel root s isIn few
    have fromTop : ∀ top ∈ s.stack.getLast?, Edge succ top root := by
      rw [idle]
      exact fun top mem => nomatch mem
    obtain ⟨invU, growsU, seen⟩ := dfs_visits closed fuel root s u inv reached fromTop visited
    obtain ⟨t, rested, invT, growsT, all⟩ :=
      ih (fun r mem => inside r (List.mem_cons_of_mem _ mem)) u invU (growsU.stack.trans idle)
    refine ⟨t, ?_, invT, growsU.trans growsT,
      List.forall_mem_cons.mpr ⟨growsT.visited root seen, all⟩⟩
    rw [List.foldlM_cons, visited]
    exact rested

/-- The search reports closed walks only, none of which comes through a node twice, and
reports none exactly when no cycle can be reached from a root. -/
theorem search_spec (nodes : Finset V)
    (within : ∀ v ∈ nodes, ∀ next ∈ succ v, next ∈ nodes) {fuel : Nat}
    (enough : nodes.card < fuel) (roots : List V) (inside : ∀ root ∈ roots, root ∈ nodes) :
    ∃ s, search succ fuel roots = some s ∧
      (∀ cycle ∈ s.cycles, ClosedWalk succ cycle ∧ cycle.dropLast.Nodup) ∧
      (s.cycles = [] ↔ ∀ root ∈ roots, ∀ v, Relation.ReflTransGen (Edge succ) root v →
        ¬ Relation.TransGen (Edge succ) v v) := by
  let Reached : V → Prop := fun v => ∃ root ∈ roots, Relation.ReflTransGen (Edge succ) root v
  have closed : ∀ a b, Reached a → Edge succ a b → Reached b := by
    rintro a b ⟨root, mem, path⟩ edge
    exact ⟨root, mem, path.tail edge⟩
  obtain ⟨s, searched, inv, grows, all⟩ := roots_spec closed nodes within enough roots
    (fun root mem => ⟨inside root mem, root, mem, .refl⟩) .init (invariant_init _) rfl
  have simple := search_simple roots simple_init searched
  refine ⟨s, searched, fun cycle mem => ⟨(inv.sound cycle mem).1, simple.cycles cycle mem⟩, ?_, ?_⟩
  · intro none root mem v path
    have off : root ∉ s.stack := by
      rw [grows.stack]
      exact List.not_mem_nil
    exact no_cycle_of_acc (inv.done none root (all root mem) off) path
  · intro free
    by_contra some_
    obtain ⟨cycle, mem⟩ := List.exists_mem_of_ne_nil _ some_
    obtain ⟨walk, reached⟩ := inv.sound cycle mem
    obtain ⟨v, onCycle, loop⟩ := walk.cycle
    obtain ⟨root, isRoot, path⟩ := reached v onCycle
    exact free root isRoot v path loop

end Main

end CycleSearch
