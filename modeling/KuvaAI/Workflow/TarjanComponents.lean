import KuvaAI.Workflow.TarjanDetector
import KuvaAI.Lib.Components
import Mathlib.Data.Finset.Card
import Mathlib.Data.List.Pairwise

/-! That `TarjanCycleDetector` finds the strongly connected components. A node is gray
while its call runs, done once it has left the stack. The low-link of a gray node is the
number of a node on the stack that it reaches, and bounds every edge into the stack from
what was pushed above it. -/
namespace KuvaAI.TarjanCycleDetector
open Relation

section Reading

variable {V : Type} [DecidableEq V]

def State.Visited (s : State V) (v : V) : Prop := ∃ i, s.indices.get? v = some i

def State.number (s : State V) (v : V) : Nat := (s.indices.get? v).getD 0

def State.link (s : State V) (v : V) : Nat := (s.lowlink.get? v).getD 0

def State.Done (s : State V) (v : V) : Prop := s.Visited v ∧ v ∉ s.stack

def State.lowered (s : State V) (node : V) (bound : Nat) : State V :=
  { s with lowlink := s.lowlink.set node (min (s.link node) bound) }

variable {s : State V} {node v : V} {i : Nat}

theorem number_of_get? (found : s.indices.get? v = some i) : s.number v = i := by
  simp [State.number, found]

theorem get?_of_visited (visited : s.Visited v) : s.indices.get? v = some (s.number v) := by
  obtain ⟨i, found⟩ := visited
  rw [found, number_of_get? found]

theorem visited_enter : (s.enter node).Visited v ↔ v = node ∨ s.Visited v := by
  unfold State.Visited State.enter
  by_cases same : v = node <;> simp [Dict.get?_set, same]

theorem number_enter : (s.enter node).number v = if v = node then s.index else s.number v := by
  unfold State.number State.enter
  by_cases same : v = node <;> simp [Dict.get?_set, same]

theorem link_enter : (s.enter node).link v = if v = node then s.index else s.link v := by
  unfold State.link State.enter
  by_cases same : v = node <;> simp [Dict.get?_set, same]

theorem link_lowered {bound : Nat} : (s.lowered node bound).link v =
    if v = node then min (s.link node) bound else s.link v := by
  by_cases same : v = node <;> simp [State.link, State.lowered, Dict.get?_set, same]

theorem lower_eq {low : Nat} (linked : s.lowlink.get? node = some low) (bound : Nat) :
    s.lower node bound = some (s.lowered node bound) := by
  simp [State.lower, State.lowered, State.link, linked]

end Reading

abbrev Edge {V : Type} (graph : Walked V) (a b : V) : Prop := b ∈ graph.successors a

abbrev Reach {V : Type} (graph : Walked V) : V → V → Prop := ReflTransGen (Edge graph)

section Invariant

variable {V : Type} [DecidableEq V] (graph : Walked V)

/-- What holds between two moves while the calls of the gray nodes run. -/
structure Invariant (gray : List V) (s : State V) : Prop where
  known : ∀ v, s.Visited v → v ∈ graph.nodes
  numbered : ∀ v, s.Visited v → s.number v < s.index
  linked : ∀ v, s.Visited v → ∃ low, s.lowlink.get? v = some low
  onStack : ∀ v, v ∈ s.onStack ↔ v ∈ s.stack
  visited : ∀ v ∈ s.stack, s.Visited v
  descending : s.stack.Pairwise fun a b => s.number b < s.number a
  stacked : ∀ v ∈ gray, v ∈ s.stack
  closed : ∀ v, s.Done v → ∀ w ∈ graph.successors v, s.Done w
  scanned : ∀ v ∈ s.stack, v ∉ gray → ∀ w ∈ graph.successors v, s.Visited w
  back : ∀ v ∈ s.stack, ∃ g ∈ gray, s.number g ≤ s.number v ∧ Reach graph v g
  forth : ∀ g ∈ gray, ∀ v ∈ s.stack, s.number g ≤ s.number v → Reach graph g v
  distinct : s.sccs.flatten.Nodup
  filled : ∀ v, v ∈ s.sccs.flatten ↔ s.Done v
  component : ∀ scc ∈ s.sccs, ∀ v ∈ scc, ∀ w, w ∈ scc ↔ Mutual (Edge graph) v w

structure Grows (s t : State V) : Prop where
  index : s.index ≤ t.index
  visited : ∀ v, s.Visited v → t.Visited v
  number : ∀ v, s.Visited v → t.number v = s.number v

/-- While the successors of `node` are scanned, above the stack that its call met. -/
structure Scanning (gray : List V) (node : V) (old : List V) (s : State V) : Prop where
  invariant : Invariant graph (node :: gray) s
  grayOld : ∀ g ∈ gray, g ∈ old
  parted : ∃ new, s.stack = new ++ node :: old
  bounded : ∀ v ∈ s.stack, v ∉ old → v ≠ node → ∀ w ∈ graph.successors v, w ∈ old →
    s.link node ≤ s.number w
  low : s.link node ≤ s.number node
  reaches : ∃ u ∈ s.stack, s.number u = s.link node ∧ Reach graph node u

structure Outcome (gray : List V) (node : V) (s t : State V) : Prop where
  invariant : Invariant graph gray t
  grows : Grows s t
  links : ∀ v, s.Visited v → t.link v = s.link v
  visited : t.Visited node
  parted : ∃ new, t.stack = new ++ s.stack
  bounded : ∀ v ∈ t.stack, v ∉ s.stack → ∀ w ∈ graph.successors v, w ∈ s.stack →
    t.link node ≤ t.number w
  ended : s.index ≤ t.link node ∨
    ∃ u ∈ s.stack, t.number u = t.link node ∧ Reach graph node u

variable {graph} {gray : List V} {s t u : State V} {node : V}

theorem Grows.refl (s : State V) : Grows s s := ⟨Nat.le_refl _, fun _ v => v, fun _ _ => rfl⟩

theorem Grows.trans (first : Grows s t) (second : Grows t u) : Grows s u where
  index := Nat.le_trans first.index second.index
  visited := fun v old => second.visited v (first.visited v old)
  number := fun v old => (second.number v (first.visited v old)).trans (first.number v old)

theorem Grows.of_lowered {bound : Nat} (grows : Grows (s.lowered node bound) t) : Grows s t :=
  ⟨grows.index, grows.visited, grows.number⟩

theorem invariant_init : Invariant graph [] (.init : State V) where
  known := fun _ visited => by obtain ⟨i, found⟩ := visited; cases found
  numbered := fun _ visited => by obtain ⟨i, found⟩ := visited; cases found
  linked := fun _ visited => by obtain ⟨i, found⟩ := visited; cases found
  onStack := by simp [State.init]
  visited := fun _ mem => (List.not_mem_nil mem).elim
  descending := List.Pairwise.nil
  stacked := fun _ mem => (List.not_mem_nil mem).elim
  closed := fun _ done => by obtain ⟨⟨i, found⟩, _⟩ := done; cases found
  scanned := fun _ mem => (List.not_mem_nil mem).elim
  back := fun _ mem => (List.not_mem_nil mem).elim
  forth := fun _ mem => (List.not_mem_nil mem).elim
  distinct := by simp [State.init]
  filled := fun v => by
    refine iff_of_false (by simp [State.init]) ?_
    rintro ⟨⟨i, found⟩, _⟩
    cases found
  component := fun _ mem => (List.not_mem_nil mem).elim

theorem Invariant.nodup (inv : Invariant graph gray s) : s.stack.Nodup :=
  inv.descending.imp fun less same => by subst same; exact Nat.lt_irrefl _ less

theorem Invariant.get?_link (inv : Invariant graph gray s) {v : V} (visited : s.Visited v) :
    s.lowlink.get? v = some (s.link v) := by
  obtain ⟨low, found⟩ := inv.linked v visited
  rw [State.link, found]
  rfl

theorem Invariant.lowered (inv : Invariant graph gray s) (node : V) (bound : Nat) :
    Invariant graph gray (s.lowered node bound) where
  known := inv.known
  numbered := inv.numbered
  linked := fun v visited => by
    obtain ⟨low, found⟩ := inv.linked v visited
    by_cases same : v = node
    · exact ⟨_, by simp [State.lowered, same]; rfl⟩
    · exact ⟨low, by simp [State.lowered, Dict.get?_set, same, found]⟩
  onStack := inv.onStack
  visited := inv.visited
  descending := inv.descending
  stacked := inv.stacked
  closed := inv.closed
  scanned := inv.scanned
  back := inv.back
  forth := inv.forth
  distinct := inv.distinct
  filled := inv.filled
  component := inv.component

end Invariant

section Enter

variable {V : Type} [DecidableEq V] {graph : Walked V} {gray : List V} {s : State V} {node : V}

theorem number_enter_old (fresh : ¬ s.Visited node) {v : V} (old : s.Visited v) :
    (s.enter node).number v = s.number v := by
  have other : v ≠ node := fun same => fresh (same ▸ old)
  rw [number_enter, if_neg other]

theorem grows_enter (fresh : ¬ s.Visited node) : Grows s (s.enter node) where
  index := Nat.le_succ _
  visited := fun _ old => visited_enter.mpr (.inr old)
  number := fun _ old => number_enter_old fresh old

theorem done_enter (inv : Invariant graph gray s) (fresh : ¬ s.Visited node) (v : V) :
    (s.enter node).Done v ↔ s.Done v := by
  unfold State.Done
  rw [visited_enter]
  have offOld : node ∉ s.stack := fun on => fresh (inv.visited node on)
  constructor
  · rintro ⟨same | old, off⟩
    · exact absurd (same ▸ List.mem_cons_self) off
    · exact ⟨old, fun on => off (List.mem_cons_of_mem _ on)⟩
  · rintro ⟨old, off⟩
    refine ⟨.inr old, ?_⟩
    intro on
    rcases List.mem_cons.mp on with same | on
    · exact fresh (same ▸ old)
    · exact off on

theorem number_enter_self : (s.enter node).number node = s.index := by
  rw [number_enter, if_pos rfl]

theorem number_enter_stack (inv : Invariant graph gray s) (fresh : ¬ s.Visited node) {v : V}
    (on : v ∈ s.stack) : (s.enter node).number v = s.number v :=
  number_enter_old fresh (inv.visited v on)

theorem number_enter_lt (inv : Invariant graph gray s) (fresh : ¬ s.Visited node) {v : V}
    (on : v ∈ s.stack) : (s.enter node).number v < (s.enter node).number node := by
  rw [number_enter_stack inv fresh on, number_enter_self]
  exact inv.numbered v (inv.visited v on)

theorem enter_invariant (inv : Invariant graph gray s) (isNode : node ∈ graph.nodes)
    (fresh : ¬ s.Visited node) (reached : ∀ g ∈ gray, Reach graph g node) :
    Invariant graph (node :: gray) (s.enter node) where
  known v visited := by
    rcases visited_enter.mp visited with rfl | old
    · exact isNode
    · exact inv.known v old
  numbered v visited := by
    rcases visited_enter.mp visited with rfl | old
    · rw [number_enter_self]
      exact Nat.lt_succ_self _
    · rw [number_enter_old fresh old]
      exact Nat.lt_succ_of_lt (inv.numbered v old)
  linked v visited := by
    by_cases same : v = node
    · exact ⟨s.index, by simp [State.enter, same]⟩
    · obtain ⟨low, found⟩ := inv.linked v ((visited_enter.mp visited).resolve_left same)
      exact ⟨low, by simp [State.enter, Dict.get?_set, same, found]⟩
  onStack v := by simp [State.enter, inv.onStack v]
  visited v on := by
    rcases List.mem_cons.mp on with same | on
    · exact visited_enter.mpr (.inl same)
    · exact visited_enter.mpr (.inr (inv.visited v on))
  descending := by
    refine List.pairwise_cons.mpr ⟨fun v on => number_enter_lt inv fresh on, ?_⟩
    refine inv.descending.imp_of_mem fun {a b} onA onB less => ?_
    rwa [number_enter_stack inv fresh onA, number_enter_stack inv fresh onB]
  stacked v isGray := by
    rcases List.mem_cons.mp isGray with same | isGray
    · exact same ▸ List.mem_cons_self
    · exact List.mem_cons_of_mem _ (inv.stacked v isGray)
  closed v done w edge := by
    rw [done_enter inv fresh] at done ⊢
    exact inv.closed v done w edge
  scanned v on notGray w edge := by
    rcases List.mem_cons.mp on with same | on
    · exact absurd (same ▸ List.mem_cons_self) notGray
    · have older : v ∉ gray := fun isGray => notGray (List.mem_cons_of_mem _ isGray)
      exact visited_enter.mpr (.inr (inv.scanned v on older w edge))
  back v on := by
    rcases List.mem_cons.mp on with same | on
    · exact ⟨node, List.mem_cons_self, by rw [same], same ▸ .refl⟩
    · obtain ⟨g, isGray, less, path⟩ := inv.back v on
      refine ⟨g, List.mem_cons_of_mem _ isGray, ?_, path⟩
      rwa [number_enter_stack inv fresh (inv.stacked g isGray), number_enter_stack inv fresh on]
  forth g isGray v on less := by
    rcases List.mem_cons.mp on with same | on
    · rcases List.mem_cons.mp isGray with here | isGray
      · exact here ▸ same ▸ .refl
      · exact same ▸ reached g isGray
    · rcases List.mem_cons.mp isGray with here | isGray
      · have under := number_enter_lt inv fresh on
        rw [here] at less
        omega
      · rw [number_enter_stack inv fresh (inv.stacked g isGray), number_enter_stack inv fresh on] at less
        exact inv.forth g isGray v on less
  distinct := inv.distinct
  filled v := by
    rw [done_enter inv fresh]
    exact inv.filled v
  component := inv.component

theorem scanning_enter (inv : Invariant graph gray s) (isNode : node ∈ graph.nodes)
    (fresh : ¬ s.Visited node) (reached : ∀ g ∈ gray, Reach graph g node) :
    Scanning graph gray node s.stack (s.enter node) where
  invariant := enter_invariant inv isNode fresh reached
  grayOld := inv.stacked
  parted := ⟨[], rfl⟩
  bounded := by
    intro v on offOld other
    exact absurd ((List.mem_cons.mp on).resolve_left other) offOld
  low := by rw [link_enter, number_enter, if_pos rfl, if_pos rfl]
  reaches := ⟨node, List.mem_cons_self, by rw [link_enter, number_enter, if_pos rfl, if_pos rfl], .refl⟩

end Enter

section Scan

variable {V : Type} [DecidableEq V] {graph : Walked V} {gray : List V} {old : List V}
  {s t : State V} {node w : V}

theorem link_lowered_self {bound : Nat} :
    (s.lowered node bound).link node = min (s.link node) bound := by
  rw [link_lowered, if_pos rfl]

theorem Scanning.onStack (scanning : Scanning graph gray node old s) : node ∈ s.stack := by
  obtain ⟨new, parted⟩ := scanning.parted
  simp [parted]

theorem Scanning.old_onStack (scanning : Scanning graph gray node old s) {v : V}
    (mem : v ∈ old) : v ∈ s.stack := by
  obtain ⟨new, parted⟩ := scanning.parted
  simp [parted, mem]

theorem Scanning.visited (scanning : Scanning graph gray node old s) : s.Visited node :=
  scanning.invariant.visited node scanning.onStack

theorem Scanning.reached (scanning : Scanning graph gray node old s)
    (edge : Edge graph node w) : ∀ g ∈ node :: gray, Reach graph g w := by
  intro g isGray
  rcases List.mem_cons.mp isGray with same | isGray
  · exact same ▸ .single edge
  · have inv := scanning.invariant
    obtain ⟨new, parted⟩ := scanning.parted
    have order := inv.descending
    rw [parted] at order
    have below := (List.pairwise_cons.mp (List.pairwise_append.mp order).2.1).1 g
      (scanning.grayOld g isGray)
    exact (inv.forth g (List.mem_cons_of_mem _ isGray) node scanning.onStack
      (Nat.le_of_lt below)).tail edge

theorem Scanning.lowered (scanning : Scanning graph gray node old s) (on : w ∈ s.stack)
    (edge : Edge graph node w) :
    Scanning graph gray node old (s.lowered node (s.number w)) where
  invariant := scanning.invariant.lowered node (s.number w)
  grayOld := scanning.grayOld
  parted := scanning.parted
  bounded := by
    intro v onV offOld other x edgeX oldX
    rw [link_lowered_self]
    exact Nat.le_trans (Nat.min_le_left _ _) (scanning.bounded v onV offOld other x edgeX oldX)
  low := by
    rw [link_lowered_self]
    exact Nat.le_trans (Nat.min_le_left _ _) scanning.low
  reaches := by
    rw [link_lowered_self]
    by_cases less : s.link node ≤ s.number w
    · rw [Nat.min_eq_left less]
      exact scanning.reaches
    · rw [Nat.min_eq_right (Nat.le_of_not_le less)]
      exact ⟨w, on, rfl, .single edge⟩

theorem Scanning.visit (scanning : Scanning graph gray node old s)
    (edge : Edge graph node w) (outcome : Outcome graph (node :: gray) w s t) :
    Scanning graph gray node old (t.lowered node (t.link w)) := by
  have inv := scanning.invariant
  have grows := outcome.grows
  have kept : t.link node = s.link node := outcome.links node scanning.visited
  obtain ⟨later, pushed⟩ := outcome.parted
  have onto : ∀ v ∈ s.stack, v ∈ t.stack := fun v on => by simp [pushed, on]
  refine ⟨outcome.invariant.lowered node (t.link w), scanning.grayOld, ?_, ?_, ?_, ?_⟩
  · obtain ⟨new, parted⟩ := scanning.parted
    exact ⟨later ++ new, by simp [State.lowered, pushed, parted]⟩
  · intro v on offOld other x edgeX oldX
    have onX := scanning.old_onStack oldX
    rw [link_lowered_self, kept]
    by_cases before : v ∈ s.stack
    · have bound := scanning.bounded v before offOld other x edgeX oldX
      have same := grows.number x (inv.visited x onX)
      exact Nat.le_trans (Nat.min_le_left _ _) (same ▸ bound)
    · exact Nat.le_trans (Nat.min_le_right _ _) (outcome.bounded v on before x edgeX onX)
  · rw [link_lowered_self, kept]
    have same : (t.lowered node (t.link w)).number node = s.number node :=
      grows.number node scanning.visited
    rw [same]
    exact Nat.le_trans (Nat.min_le_left _ _) scanning.low
  · rw [link_lowered_self, kept]
    by_cases less : s.link node ≤ t.link w
    · obtain ⟨u, on, number, path⟩ := scanning.reaches
      rw [Nat.min_eq_left less]
      exact ⟨u, onto u on, (grows.number u (inv.visited u on)).trans number, path⟩
    · -- The call found its way down the stack: its node has not been popped.
      have under : t.link w < s.index := by
        have numbered := inv.numbered node scanning.visited
        have low := scanning.low
        omega
      obtain ⟨u, on, number, path⟩ := outcome.ended.resolve_left (Nat.not_le_of_lt under)
      rw [Nat.min_eq_right (Nat.le_of_not_le less)]
      exact ⟨u, onto u on, number, path.head edge⟩

def unvisited (graph : Walked V) (s : State V) : Finset V :=
  graph.nodes.toFinset.filter fun v => s.indices.get? v = none

theorem unvisited_grows (grows : Grows s t) :
    (unvisited graph t).card ≤ (unvisited graph s).card := by
  apply Finset.card_le_card
  intro v mem
  obtain ⟨isNode, none⟩ := Finset.mem_filter.mp mem
  refine Finset.mem_filter.mpr ⟨isNode, ?_⟩
  cases found : s.indices.get? v with
  | none => rfl
  | some i =>
    obtain ⟨j, later⟩ := grows.visited v ⟨i, found⟩
    rw [none] at later
    cases later

def Visits (graph : Walked V) (depth : Nat) (visit : V → State V → Option (State V)) : Prop :=
  ∀ gray s w, Invariant graph gray s → ¬ s.Visited w → w ∈ graph.nodes →
    (∀ g ∈ gray, Reach graph g w) → (unvisited graph s).card ≤ depth →
    ∃ t, visit w s = some t ∧ Outcome graph gray w s t

structure Scanned (graph : Walked V) (gray : List V) (node : V) (old nexts : List V)
    (s t : State V) : Prop where
  scanning : Scanning graph gray node old t
  grows : Grows s t
  links : ∀ v, s.Visited v → v ≠ node → t.link v = s.link v
  lower : t.link node ≤ s.link node
  seen : ∀ w ∈ nexts, t.Visited w ∧ (w ∈ old → t.link node ≤ t.number w)

theorem Scanned.visit (scanning : Scanning graph gray node old s) {u : State V} {rest : List V}
    (fresh : ¬ s.Visited w) (outcome : Outcome graph (node :: gray) w s t)
    (after : Scanned graph gray node old rest (t.lowered node (t.link w)) u) :
    Scanned graph gray node old (w :: rest) s u where
  scanning := after.scanning
  grows := outcome.grows.trans after.grows.of_lowered
  links v before other := by
    rw [after.links v (outcome.grows.visited v before) other, link_lowered, if_neg other]
    exact outcome.links v before
  lower := by
    have lower := after.lower
    rw [link_lowered_self, outcome.links node scanning.visited] at lower
    exact Nat.le_trans lower (Nat.min_le_left _ _)
  seen := by
    refine List.forall_mem_cons.mpr ⟨⟨after.grows.visited w outcome.visited, ?_⟩, after.seen⟩
    intro isOld
    exact absurd (scanning.invariant.visited w (scanning.old_onStack isOld)) fresh

theorem Scanned.lowered {u : State V} {rest : List V} (visited : s.Visited w)
    (after : Scanned graph gray node old rest (s.lowered node (s.number w)) u) :
    Scanned graph gray node old (w :: rest) s u := by
  have lower := after.lower
  rw [link_lowered_self] at lower
  refine ⟨after.scanning, after.grows.of_lowered, ?_, Nat.le_trans lower (Nat.min_le_left _ _), ?_⟩
  · intro v before other
    rw [after.links v before other, link_lowered, if_neg other]
  · refine List.forall_mem_cons.mpr ⟨⟨after.grows.visited w visited, fun _ => ?_⟩, after.seen⟩
    have kept : u.number w = s.number w := after.grows.number w visited
    rw [kept]
    exact Nat.le_trans lower (Nat.min_le_right _ _)

theorem Scanned.skip (scanning : Scanning graph gray node old s) {u : State V} {rest : List V}
    (visited : s.Visited w) (off : w ∉ s.stack) (after : Scanned graph gray node old rest s u) :
    Scanned graph gray node old (w :: rest) s u where
  scanning := after.scanning
  grows := after.grows
  links := after.links
  lower := after.lower
  seen := by
    refine List.forall_mem_cons.mpr ⟨⟨after.grows.visited w visited, ?_⟩, after.seen⟩
    exact fun isOld => absurd (scanning.old_onStack isOld) off

theorem scan_spec {depth : Nat} {visit : V → State V → Option (State V)}
    (visits : Visits graph depth visit) (nexts : List V)
    (edges : ∀ w ∈ nexts, Edge graph node w ∧ w ∈ graph.nodes) (s : State V)
    (scanning : Scanning graph gray node old s) (enough : (unvisited graph s).card ≤ depth) :
    ∃ t, scan visit node nexts s = some t ∧ Scanned graph gray node old nexts s t := by
  induction nexts generalizing s with
  | nil =>
    exact ⟨s, rfl, scanning, .refl s, fun _ _ _ => rfl, Nat.le_refl _, fun _ mem =>
      (List.not_mem_nil mem).elim⟩
  | cons w rest ih =>
    obtain ⟨edge, isNode⟩ := edges w List.mem_cons_self
    have later := fun v mem => edges v (List.mem_cons_of_mem w mem)
    have inv := scanning.invariant
    unfold scan
    cases found : s.indices.get? w with
    | none =>
      have fresh : ¬ s.Visited w := fun ⟨i, visited⟩ => by simp [found] at visited
      obtain ⟨t, visited, outcome⟩ :=
        visits (node :: gray) s w inv fresh isNode (scanning.reached edge) enough
      have linkedW := outcome.invariant.get?_link outcome.visited
      have linked := outcome.invariant.get?_link (outcome.grows.visited node scanning.visited)
      have fewer := Nat.le_trans (unvisited_grows outcome.grows) enough
      obtain ⟨u, scanned, after⟩ := ih later _ (scanning.visit edge outcome) fewer
      refine ⟨u, ?_, after.visit scanning fresh outcome⟩
      simp [visited, linkedW, lower_eq linked, scanned]
    | some i =>
      have visited : s.Visited w := ⟨i, found⟩
      dsimp only
      by_cases on : w ∈ s.onStack
      · have moved := scanning.lowered ((inv.onStack w).mp on) edge
        have linked := inv.get?_link scanning.visited
        obtain ⟨u, scanned, after⟩ := ih later _ moved enough
        rw [number_of_get? found] at scanned
        exact ⟨u, by simp [on, lower_eq linked, scanned], after.lowered visited⟩
      · have off : w ∉ s.stack := fun mem => on ((inv.onStack w).mpr mem)
        obtain ⟨u, scanned, after⟩ := ih later s scanning enough
        exact ⟨u, by simp [on, scanned], after.skip scanning visited off⟩

end Scan

section Close

variable {V : Type} [DecidableEq V] {graph : Walked V} {gray : List V} {old new : List V}
  {s : State V} {node : V}

theorem popTo_spec (node : V) (new old : List V) (onStack : Finset V)
    (on : ∀ v ∈ new ++ [node], v ∈ onStack) (distinct : (new ++ [node]).Nodup) :
    ∃ left, popTo node (new ++ node :: old) onStack = some (new ++ [node], old, left) ∧
      ∀ v, v ∈ left ↔ v ∈ onStack ∧ v ∉ new ++ [node] := by
  induction new generalizing onStack with
  | nil =>
    have first : node ∈ onStack := on node (by simp)
    refine ⟨onStack.erase node, by simp [popTo, first], ?_⟩
    intro v
    rw [Finset.mem_erase, and_comm]
    simp
  | cons top new ih =>
    have first : top ∈ onStack := on top (by simp)
    obtain ⟨topNew, rest⟩ := List.nodup_cons.mp (List.cons_append ▸ distinct)
    have other : top ≠ node := fun same => topNew (by simp [same])
    have onRest : ∀ v ∈ new ++ [node], v ∈ onStack.erase top := by
      intro v mem
      refine Finset.mem_erase.mpr ⟨?_, on v (List.mem_cons_of_mem _ mem)⟩
      exact fun same => topNew (same ▸ mem)
    obtain ⟨left, popped, members⟩ := ih (onStack.erase top) onRest rest
    refine ⟨left, by simp [popTo, first, other, popped], ?_⟩
    intro v
    rw [members, Finset.mem_erase, List.cons_append, List.mem_cons, not_or]
    constructor
    · exact fun ⟨⟨notTop, mem⟩, off⟩ => ⟨mem, notTop, off⟩
    · exact fun ⟨mem, notTop, off⟩ => ⟨⟨notTop, mem⟩, off⟩

def State.popped (s : State V) (old : List V) (left : Finset V) (scc : List V) : State V :=
  { s with stack := old, onStack := left, sccs := s.sccs ++ [scc] }

theorem close_keep (scanning : Scanning graph gray node old s)
    (differs : s.link node ≠ s.number node) : s.close node = some s := by
  have linked := scanning.invariant.get?_link scanning.visited
  have numbered := get?_of_visited scanning.visited
  simp [State.close, linked, numbered, differs]

theorem keep_invariant (scanning : Scanning graph gray node old s)
    (seen : ∀ w ∈ graph.successors node, s.Visited w) (differs : s.link node ≠ s.number node) :
    Invariant graph gray s := by
  have inv := scanning.invariant
  have below : s.link node < s.number node := Nat.lt_of_le_of_ne scanning.low differs
  refine ⟨inv.known, inv.numbered, inv.linked, inv.onStack, inv.visited, inv.descending, ?_, inv.closed,
    ?_, ?_, ?_, inv.distinct, inv.filled, inv.component⟩
  · exact fun v isGray => inv.stacked v (List.mem_cons_of_mem _ isGray)
  · intro v on notGray w edge
    by_cases same : v = node
    · exact seen w (same ▸ edge)
    · exact inv.scanned v on (fun isGray => notGray ((List.mem_cons.mp isGray).resolve_left same)) w
        edge
  · intro v on
    obtain ⟨g, isGray, less, path⟩ := inv.back v on
    rcases List.mem_cons.mp isGray with same | isGray
    · subst same
      obtain ⟨u, onU, number, down⟩ := scanning.reaches
      obtain ⟨h, isGrayH, lessH, pathH⟩ := inv.back u onU
      have other : h ≠ g := by
        intro same
        rw [same] at lessH
        omega
      exact ⟨h, (List.mem_cons.mp isGrayH).resolve_left other, by omega,
        path.trans (down.trans pathH)⟩
    · exact ⟨g, isGray, less, path⟩
  · exact fun g isGray => inv.forth g (List.mem_cons_of_mem _ isGray)

omit [DecidableEq V] in
theorem mem_stack_iff (parted : s.stack = new ++ node :: old) (v : V) :
    v ∈ s.stack ↔ v ∈ new ++ [node] ∨ v ∈ old := by
  rw [parted]
  simp [or_assoc]

omit [DecidableEq V] in
theorem above_onStack (parted : s.stack = new ++ node :: old) {v : V} (mem : v ∈ new ++ [node]) :
    v ∈ s.stack :=
  (mem_stack_iff parted v).mpr (.inl mem)

omit [DecidableEq V] in
theorem old_onStack (parted : s.stack = new ++ node :: old) {v : V} (mem : v ∈ old) : v ∈ s.stack :=
  (mem_stack_iff parted v).mpr (.inr mem)

section Pop

variable (scanning : Scanning graph gray node old s) (parted : s.stack = new ++ node :: old)
  (seen : ∀ w ∈ graph.successors node, s.Visited w ∧ (w ∈ old → s.link node ≤ s.number w))
  (root : s.link node = s.number node)

include scanning parted

theorem split_nodup : (new ++ [node]).Nodup ∧ ∀ v ∈ new ++ [node], v ∉ old := by
  have nodup := scanning.invariant.nodup
  rw [parted, List.append_cons] at nodup
  obtain ⟨front, _, apart⟩ := List.nodup_append.mp nodup
  exact ⟨front, fun v mem isOld => apart v mem v isOld rfl⟩

theorem number_above {v : V} (mem : v ∈ new ++ [node]) : s.number node ≤ s.number v := by
  have order := scanning.invariant.descending
  rw [parted] at order
  rcases List.mem_append.mp mem with above | same
  · exact Nat.le_of_lt ((List.pairwise_append.mp order).2.2 v above node List.mem_cons_self)
  · rw [List.mem_singleton.mp same]

theorem number_below {v : V} (mem : v ∈ old) : s.number v < s.number node := by
  have order := scanning.invariant.descending
  rw [parted] at order
  exact (List.pairwise_cons.mp (List.pairwise_append.mp order).2.1).1 v mem

theorem done_popped (left : Finset V) (v : V) : (s.popped old left (new ++ [node])).Done v ↔
    s.Done v ∨ v ∈ new ++ [node] := by
  have inv := scanning.invariant
  obtain ⟨_, apart⟩ := split_nodup scanning parted
  constructor
  · rintro ⟨visited, off⟩
    by_cases mem : v ∈ new ++ [node]
    · exact .inr mem
    · refine .inl ⟨visited, fun on => ?_⟩
      rcases (mem_stack_iff parted v).mp on with above | isOld
      · exact mem above
      · exact off isOld
  · rintro (done | mem)
    · exact ⟨done.1, fun isOld => done.2 (old_onStack parted isOld)⟩
    · exact ⟨inv.visited v (above_onStack parted mem), apart v mem⟩

theorem gray_of_old {v g : V} (mem : v ∈ old) (isGray : g ∈ node :: gray)
    (less : s.number g ≤ s.number v) : g ∈ gray := by
  have below := number_below scanning parted mem
  refine (List.mem_cons.mp isGray).resolve_left fun same => ?_
  rw [same] at less
  omega

include seen root

/-- No edge leaves the nodes above a root but to nodes that are done. -/
theorem sealed : Mutual.Sealed (Edge graph) (fun v => v ∈ new ++ [node]) s.Done where
  exits := by
    intro v mem w edge
    have inv := scanning.invariant
    obtain ⟨_, apart⟩ := split_nodup scanning parted
    have onV : v ∈ s.stack := above_onStack parted mem
    have target : s.Visited w ∧ (w ∈ old → s.link node ≤ s.number w) := by
      by_cases same : v = node
      · exact seen w (same ▸ edge)
      · have offOld := apart v mem
        have notGray : v ∉ node :: gray := fun isGray =>
          offOld (scanning.grayOld v ((List.mem_cons.mp isGray).resolve_left same))
        exact ⟨inv.scanned v onV notGray w edge, scanning.bounded v onV offOld same w edge⟩
    by_cases on : w ∈ s.stack
    · refine .inl (((mem_stack_iff parted w).mp on).resolve_right fun isOld => ?_)
      have low := target.2 isOld
      have below := number_below scanning parted isOld
      omega
    · exact .inr ⟨target.1, on⟩
  stays := fun v done w edge => scanning.invariant.closed v done w edge

theorem connected {v : V} (mem : v ∈ new ++ [node]) : Mutual (Edge graph) node v := by
  have inv := scanning.invariant
  obtain ⟨_, apart⟩ := split_nodup scanning parted
  have onV : v ∈ s.stack := above_onStack parted mem
  refine ⟨inv.forth node List.mem_cons_self v onV (number_above scanning parted mem), ?_⟩
  obtain ⟨g, isGray, _, path⟩ := inv.back v onV
  rcases List.mem_cons.mp isGray with same | isGray
  · exact same ▸ path
  · -- A gray node below could be reached only through an edge that lowers the low-link.
    have isOld := scanning.grayOld g isGray
    rcases (sealed scanning parted seen root).of_path mem path with within | done
    · exact absurd isOld (apart g within)
    · exact absurd (old_onStack parted isOld) done.2

theorem popped_component (v : V) : v ∈ new ++ [node] ↔ Mutual (Edge graph) node v := by
  refine (sealed scanning parted seen root).component (by simp) ?_
    (fun v mem => connected scanning parted seen root mem) v
  intro v mem done
  exact done.2 (above_onStack parted mem)

theorem pop_invariant {left : Finset V}
    (members : ∀ v, v ∈ left ↔ v ∈ s.onStack ∧ v ∉ new ++ [node]) :
    Invariant graph gray (s.popped old left (new ++ [node])) where
  known := scanning.invariant.known
  numbered := scanning.invariant.numbered
  linked := scanning.invariant.linked
  onStack v := by
    rw [State.popped, members, scanning.invariant.onStack, mem_stack_iff parted]
    constructor
    · exact fun ⟨on, off⟩ => on.resolve_left off
    · exact fun mem => ⟨.inr mem, fun above => (split_nodup scanning parted).2 v above mem⟩
  visited v mem := scanning.invariant.visited v (old_onStack parted mem)
  descending := by
    have order := scanning.invariant.descending
    rw [parted] at order
    exact (List.pairwise_cons.mp (List.pairwise_append.mp order).2.1).2
  stacked := scanning.grayOld
  closed v done w edge := by
    rw [done_popped scanning parted] at done ⊢
    rcases done with done | mem
    · exact .inl (scanning.invariant.closed v done w edge)
    · exact ((sealed scanning parted seen root).exits v mem w edge).symm
  scanned v mem notGray := by
    have other : v ≠ node := fun same => (split_nodup scanning parted).2 v (by simp [same]) mem
    refine scanning.invariant.scanned v (old_onStack parted mem) fun isGray => notGray ?_
    exact (List.mem_cons.mp isGray).resolve_left other
  back v mem := by
    obtain ⟨g, isGray, less, path⟩ := scanning.invariant.back v (old_onStack parted mem)
    exact ⟨g, gray_of_old scanning parted mem isGray less, less, path⟩
  forth g isGray v mem :=
    scanning.invariant.forth g (List.mem_cons_of_mem _ isGray) v (old_onStack parted mem)
  distinct := by
    have inv := scanning.invariant
    rw [State.popped, List.flatten_append, List.nodup_append]
    refine ⟨inv.distinct, by simpa using (split_nodup scanning parted).1, ?_⟩
    intro v filled w mem same
    subst same
    exact ((inv.filled v).mp filled).2 (above_onStack parted (by simpa using mem))
  filled v := by
    rw [done_popped scanning parted, State.popped, List.flatten_append, List.mem_append,
      scanning.invariant.filled v]
    simp
  component component mem v memV w := by
    rcases List.mem_append.mp mem with before | fresh
    · exact scanning.invariant.component component before v memV w
    · rw [List.mem_singleton.mp fresh] at memV ⊢
      have toV := (popped_component scanning parted seen root v).mp memV
      rw [popped_component scanning parted seen root w]
      exact ⟨toV.symm.trans, toV.trans⟩

theorem close_pop : ∃ left, s.close node = some (s.popped old left (new ++ [node])) ∧
    Invariant graph gray (s.popped old left (new ++ [node])) := by
  have inv := scanning.invariant
  have linked := inv.get?_link scanning.visited
  have numbered := get?_of_visited scanning.visited
  have on : ∀ v ∈ new ++ [node], v ∈ s.onStack := fun v mem =>
    (inv.onStack v).mpr (above_onStack parted mem)
  obtain ⟨left, popped, members⟩ :=
    popTo_spec node new old s.onStack on (split_nodup scanning parted).1
  refine ⟨left, ?_, pop_invariant scanning parted seen root members⟩
  simp [State.close, linked, numbered, root, parted, popped, State.popped]

end Pop

end Close

section Calls

variable {V : Type} [DecidableEq V] {graph : Walked V} {gray : List V} {s t : State V} {node : V}

theorem keep_outcome (fresh : ¬ s.Visited node)
    (scanned : Scanned graph gray node s.stack (graph.successors node) (s.enter node) t)
    (differs : t.link node ≠ t.number node) : Outcome graph gray node s t := by
  have scanning := scanned.scanning
  have grows := (grows_enter fresh).trans scanned.grows
  obtain ⟨new, parted⟩ := scanning.parted
  refine ⟨keep_invariant scanning (fun w edge => (scanned.seen w edge).1) differs, grows, ?_,
    scanning.visited, ⟨new ++ [node], by simp [parted]⟩, ?_, .inr ?_⟩
  · intro v old
    have other : v ≠ node := fun same => fresh (same ▸ old)
    rw [scanned.links v (visited_enter.mpr (.inr old)) other, link_enter, if_neg other]
  · intro v on offOld w edge isOld
    by_cases same : v = node
    · exact (scanned.seen w (same ▸ edge)).2 isOld
    · exact scanning.bounded v on offOld same w edge isOld
  · obtain ⟨u, on, number, path⟩ := scanning.reaches
    have low := scanning.low
    rcases (mem_stack_iff parted u).mp on with above | isOld
    · have larger := number_above scanning parted above
      omega
    · exact ⟨u, isOld, number, path⟩

/-- The call's node is the root of a component, which leaves the stack. -/
theorem pop_outcome (fresh : ¬ s.Visited node)
    (scanned : Scanned graph gray node s.stack (graph.successors node) (s.enter node) t)
    (root : t.link node = t.number node) :
    ∃ u, t.close node = some u ∧ Outcome graph gray node s u := by
  have scanning := scanned.scanning
  have grows := (grows_enter fresh).trans scanned.grows
  obtain ⟨new, parted⟩ := scanning.parted
  obtain ⟨left, closed, inv⟩ := close_pop scanning parted scanned.seen root
  refine ⟨_, closed, inv, ⟨grows.index, grows.visited, grows.number⟩, ?_, scanning.visited,
    ⟨[], rfl⟩, fun v on off => absurd on off, .inl ?_⟩
  · intro v old
    have other : v ≠ node := fun same => fresh (same ▸ old)
    have kept := scanned.links v (visited_enter.mpr (.inr old)) other
    rw [link_enter, if_neg other] at kept
    exact kept
  · have entered := scanned.grows.number node (visited_enter.mpr (.inl rfl))
    rw [number_enter, if_pos rfl] at entered
    have low : s.index = t.link node := (root.trans entered).symm
    exact Nat.le_of_eq low

theorem unvisited_enter (isNode : node ∈ graph.nodes) (fresh : ¬ s.Visited node) :
    (unvisited graph (s.enter node)).card < (unvisited graph s).card := by
  apply Finset.card_lt_card
  have unnumbered : s.indices.get? node = none := by
    cases found : s.indices.get? node with
    | none => rfl
    | some i => exact absurd ⟨i, found⟩ fresh
  refine (Finset.ssubset_iff_of_subset ?_).mpr ⟨node, ?_, ?_⟩
  · intro v mem
    obtain ⟨inside, absent⟩ := Finset.mem_filter.mp mem
    refine Finset.mem_filter.mpr ⟨inside, ?_⟩
    by_cases same : v = node
    · exact same ▸ unnumbered
    · simpa [State.enter, Dict.get?_set, same] using absent
  · exact Finset.mem_filter.mpr ⟨List.mem_toFinset.mpr isNode, unnumbered⟩
  · intro mem
    obtain ⟨_, absent⟩ := Finset.mem_filter.mp mem
    simp [State.enter] at absent

theorem strongconnect_visits (graph : Walked V) (depth : Nat) :
    Visits graph depth (strongconnect graph.successors depth) := by
  induction depth with
  | zero =>
    intro gray s node _ fresh isNode _ enough
    have some_ := unvisited_enter isNode fresh
    omega
  | succ depth ih =>
    intro gray s node inv fresh isNode reached enough
    have fewer := unvisited_enter isNode fresh
    have edges : ∀ w ∈ graph.successors node, Edge graph node w ∧ w ∈ graph.nodes :=
      fun w edge => ⟨edge, graph.closed node isNode w edge⟩
    obtain ⟨t, ran, scanned⟩ := scan_spec ih _ edges (s.enter node)
      (scanning_enter inv isNode fresh reached) (by omega)
    by_cases root : t.link node = t.number node
    · obtain ⟨u, closed, outcome⟩ := pop_outcome fresh scanned root
      exact ⟨u, by simp [strongconnect, ran, closed], outcome⟩
    · have closed := close_keep scanned.scanning root
      exact ⟨t, by simp [strongconnect, ran, closed], keep_outcome fresh scanned root⟩

theorem Invariant.stack_nil (inv : Invariant graph [] s) : s.stack = [] := by
  rw [List.eq_nil_iff_forall_not_mem]
  intro v on
  obtain ⟨g, isGray, _⟩ := inv.back v on
  exact List.not_mem_nil isGray

theorem roots_spec (roots : List V) (inside : ∀ v ∈ roots, v ∈ graph.nodes) (s : State V)
    (inv : Invariant graph [] s) :
    ∃ t, roots.foldlM (fun s node =>
        match s.indices.get? node with
        | none => strongconnect graph.successors graph.nodes.length node s
        | some _ => some s) s = some t ∧
      Invariant graph [] t ∧ Grows s t ∧ ∀ v ∈ roots, t.Visited v := by
  induction roots generalizing s with
  | nil => exact ⟨s, rfl, inv, .refl s, fun _ mem => (List.not_mem_nil mem).elim⟩
  | cons node rest ih =>
    have isNode := inside node List.mem_cons_self
    have later := fun v mem => inside v (List.mem_cons_of_mem node mem)
    cases found : s.indices.get? node with
    | none =>
      have fresh : ¬ s.Visited node := fun ⟨i, visited⟩ => by simp [found] at visited
      have enough : (unvisited graph s).card ≤ graph.nodes.length :=
        Nat.le_trans (Finset.card_filter_le _ _) (List.toFinset_card_le _)
      obtain ⟨t, visited, outcome⟩ := strongconnect_visits graph graph.nodes.length [] s node inv fresh
        isNode (fun _ mem => (List.not_mem_nil mem).elim) enough
      obtain ⟨u, ran, invU, grows, all⟩ := ih later t outcome.invariant
      refine ⟨u, by simp [found, visited, ran], invU, outcome.grows.trans grows, ?_⟩
      exact List.forall_mem_cons.mpr ⟨grows.visited node outcome.visited, all⟩
    | some i =>
      obtain ⟨u, ran, invU, grows, all⟩ := ih later s inv
      refine ⟨u, by simp [found, ran], invU, grows, ?_⟩
      exact List.forall_mem_cons.mpr ⟨grows.visited node ⟨i, found⟩, all⟩

end Calls

end KuvaAI.TarjanCycleDetector
