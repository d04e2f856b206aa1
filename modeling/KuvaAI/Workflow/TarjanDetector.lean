import KuvaAI.Lib.DiGraph
import Mathlib.Data.Finset.Basic

/-! `TarjanCycleDetector` of validator.py. -/
namespace KuvaAI.TarjanCycleDetector

/-- A graph as the code walks it: its nodes and each node's successors, in whatever
order they come. -/
structure Walked (V : Type) where
  nodes : List V
  successors : V → List V
  closed : ∀ v ∈ nodes, ∀ w ∈ successors v, w ∈ nodes

structure State (V : Type) where
  index : Nat
  indices : Dict V Nat
  lowlink : Dict V Nat
  /-- The newest node comes first. -/
  stack : List V
  onStack : Finset V
  sccs : List (List V)

section Definitions

variable {V : Type} [DecidableEq V]

def State.init : State V := ⟨0, .empty, .empty, [], ∅, []⟩

def State.enter (s : State V) (node : V) : State V where
  index := s.index + 1
  indices := s.indices.set node s.index
  lowlink := s.lowlink.set node s.index
  stack := node :: s.stack
  onStack := insert node s.onStack
  sccs := s.sccs

/-- `lowlink[node] = min(lowlink[node], bound)`; `none` is a KeyError. -/
def State.lower (s : State V) (node : V) (bound : Nat) : Option (State V) := do
  let low ← s.lowlink.get? node
  return { s with lowlink := s.lowlink.set node (min low bound) }

def scan (visit : V → State V → Option (State V)) (node : V) :
    List V → State V → Option (State V)
  | [], s => some s
  | successor :: rest, s =>
    match s.indices.get? successor with
    | none => do
      let s ← visit successor s
      let low ← s.lowlink.get? successor
      let s ← s.lower node low
      scan visit node rest s
    | some index =>
      if successor ∈ s.onStack then do
        let s ← s.lower node index
        scan visit node rest s
      else scan visit node rest s

/-- The component from the top of the stack down to `node`, and the stack and the set
that remain; `none` is an IndexError of `pop` or a KeyError of `remove`. -/
def popTo (node : V) : List V → Finset V → Option (List V × List V × Finset V)
  | [], _ => none
  | top :: rest, onStack =>
    if top ∈ onStack then
      if top = node then some ([top], rest, onStack.erase top)
      else do
        let (scc, stack, onStack) ← popTo node rest (onStack.erase top)
        return (top :: scc, stack, onStack)
    else none

def State.close (s : State V) (node : V) : Option (State V) := do
  let low ← s.lowlink.get? node
  let index ← s.indices.get? node
  if low = index then
    let (scc, stack, onStack) ← popTo node s.stack s.onStack
    return { s with stack := stack, onStack := onStack, sccs := s.sccs ++ [scc] }
  else return s

def strongconnect (successors : V → List V) : Nat → V → State V → Option (State V)
  | 0, _, _ => none
  | depth + 1, node, s => do
    let s ← scan (strongconnect successors depth) node (successors node) (s.enter node)
    s.close node

def strongconnectAll (graph : Walked V) : Option (State V) :=
  graph.nodes.foldlM (fun s node =>
    match s.indices.get? node with
    | none => strongconnect graph.successors graph.nodes.length node s
    | some _ => some s) .init

def findStronglyConnectedComponents (graph : Walked V) : Option (List (List V)) := do
  let s ← strongconnectAll graph
  return s.sccs.filter fun scc => 1 < scc.length

end Definitions

end KuvaAI.TarjanCycleDetector
