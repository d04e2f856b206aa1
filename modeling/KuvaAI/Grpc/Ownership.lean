import KuvaAI.Grpc.ClientPool
import KuvaAI.Lib.Custody

/-! Where the channels of a pool are: in a deque, with a caller, closed, or in the hand
of a task. -/
namespace KuvaAI.GrpcClient
open Custody

/-- What the pool does not provide for. -/
def Event.isLapse : Event → Prop
  | .handedOut _ _ => False
  | .probedUnhealthy _ | .probeCancelled _ | .serviceRaised _ | .overflowed _ => True

structure Ledger (resting : List Nat) (holder : Nat → Option Nat) (created : Nat)
    (history : List Event) : Prop where
  exclusive : Exclusive resting holder
  numbered : ∀ channel, Placed resting holder channel → channel < created
  serving : ∀ channel status, .handedOut channel status ∈ history → status = .serving
  accounted : (∀ channel < created, Placed resting holder channel) ↔ ∀ event ∈ history, ¬ event.isLapse

theorem ledger_nothing : Ledger [] (fun _ => none) 0 [] where
  exclusive := exclusive_nothing
  numbered _ placed := (not_placed_nothing placed).elim
  serving _ _ member := (List.not_mem_nil member).elim
  accounted := by simp

namespace Ledger

variable {resting resting' : List Nat} {holder : Nat → Option Nat} {created task channel : Nat}
  {history : List Event} {event : Event}

theorem perm (ledger : Ledger resting holder created history) (same : resting.Perm resting') :
    Ledger resting' holder created history where
  exclusive := ledger.exclusive.perm same
  numbered channel placed := ledger.numbered channel ((placed_perm same).mp placed)
  serving := ledger.serving
  accounted := by
    simp only [placed_perm same]
    exact ledger.accounted

theorem arrive (ledger : Ledger resting holder created history) :
    Ledger (created :: resting) holder (created + 1) history where
  exclusive := ledger.exclusive.arrive
    (fun member => lt_irrefl _ (ledger.numbered created (.inl member)))
    fun i held => lt_irrefl _ (ledger.numbered created (.inr ⟨i, held⟩))
  numbered channel placed := by
    rcases placed_arrive.mp placed with rfl | old
    · exact Nat.lt_succ_self channel
    · exact Nat.lt_succ_of_lt (ledger.numbered channel old)
  serving := ledger.serving
  accounted := by
    rw [← ledger.accounted]
    constructor
    · intro all channel old
      rcases placed_arrive.mp (all channel (Nat.lt_succ_of_lt old)) with rfl | placed
      · exact absurd old (lt_irrefl _)
      · exact placed
    · intro all channel known
      rcases Nat.lt_succ_iff_lt_or_eq.mp known with old | new
      · exact placed_arrive.mpr (.inr (all channel old))
      · exact placed_arrive.mpr (.inl new)

theorem take (ledger : Ledger (channel :: resting) holder created history)
    (idle : holder task = none) :
    Ledger resting (Function.update holder task (some channel)) created history where
  exclusive := ledger.exclusive.take task
  numbered other placed := ledger.numbered other ((placed_take idle).mp placed)
  serving := ledger.serving
  accounted := by
    simp only [placed_take idle]
    exact ledger.accounted

theorem give (ledger : Ledger resting holder created history) (held : holder task = some channel) :
    Ledger (channel :: resting) (Function.update holder task none) created history where
  exclusive := ledger.exclusive.give task held
  numbered other placed := ledger.numbered other ((placed_give held).mp placed)
  serving := ledger.serving
  accounted := by
    simp only [placed_give held]
    exact ledger.accounted

theorem drop (ledger : Ledger (channel :: resting) holder created history) (lapse : event.isLapse) :
    Ledger resting holder created (history ++ [event]) where
  exclusive := ledger.exclusive.sublist (List.sublist_cons_self channel resting)
  numbered other placed := ledger.numbered other (placed_arrive.mpr (.inr placed))
  serving other status member := by
    rcases List.mem_append.mp member with old | new
    · exact ledger.serving other status old
    · cases List.mem_singleton.mp new
      exact lapse.elim
  accounted := by
    have known : channel < created := ledger.numbered channel (placed_arrive.mpr (.inl rfl))
    constructor
    · intro all
      exact ((ledger.exclusive.placed_drop.mp (all channel known)).2 rfl).elim
    · intro none
      exact (none event (List.mem_append_right history List.mem_cons_self) lapse).elim

theorem handOut (ledger : Ledger resting holder created history) :
    Ledger resting holder created (history ++ [.handedOut channel .serving]) where
  exclusive := ledger.exclusive
  numbered := ledger.numbered
  serving other status member := by
    rcases List.mem_append.mp member with old | new
    · exact ledger.serving other status old
    · cases List.mem_singleton.mp new
      rfl
  accounted := by
    rw [ledger.accounted]
    simp [or_imp, forall_and, Event.isLapse]

end Ledger

namespace ClientPool

variable {g : ClientPool} {task channel : Nat} {endpoint : Endpoint} {pool : BoundedDeque Nat}
  {purpose : Purpose}

def pooled (g : ClientPool) : List Nat := g.pools.collect BoundedDeque.items

def resting (g : ClientPool) : List Nat := g.pooled ++ (g.held ++ g.closed)

def holder (g : ClientPool) : Nat → Option Nat := Option.map Prod.snd ∘ g.hands

theorem holder_eq_none (idle : g.hands task = none) : g.holder task = none := by
  rw [holder, Function.comp_apply, idle, Option.map_none]

theorem holder_eq_some (held : g.hands task = some (purpose, channel)) : g.holder task = some channel := by
  rw [holder, Function.comp_apply, held, Option.map_some]

theorem holder_takes : (g.takes task purpose channel).holder = Function.update g.holder task (some channel) :=
  Function.comp_update _ _ _ _

theorem holder_empties : (g.empties task).holder = Function.update g.holder task none :=
  Function.comp_update _ _ _ _

theorem pooled_setPool (found : g.pools.get? endpoint = some pool) :
    ∃ others, g.pooled.Perm (pool.items ++ others) ∧
      ∀ pool', (g.setPool endpoint pool').pooled.Perm (pool'.items ++ others) :=
  Dict.collect_set BoundedDeque.items found

structure Sound (config : ClientConfig) (g : ClientPool) : Prop where
  ledger : Ledger g.resting g.holder g.created g.history
  keyed : ∀ endpoint, endpoint ∈ g.pools.keys ↔ endpoint ∈ config.keys

namespace Sound

variable {config : ClientConfig} (sound : g.Sound config)

include sound

theorem keyed_set (found : g.pools.get? endpoint = some pool) (pool' : BoundedDeque Nat) (key : Endpoint) :
    key ∈ (g.pools.set endpoint pool').keys ↔ key ∈ config.keys := by
  rw [Dict.mem_keys_set, ← sound.keyed]
  refine or_iff_right_of_imp ?_
  rintro rfl
  exact (Dict.mem_keys_iff _ _).mpr ⟨pool, found⟩

theorem popleft {rest : List Nat} (found : g.pools.get? endpoint = some pool)
    (first : pool.items = channel :: rest) (idle : g.hands task = none) :
    (g.popleft task endpoint pool channel).Sound config where
  ledger := by
    obtain ⟨others, before, after⟩ := pooled_setPool found
    have popped : pool.popleft.items = rest := by
      rw [BoundedDeque.items_popleft, first, List.tail_cons]
    have moved := after pool.popleft
    rw [first] at before
    rw [popped] at moved
    have same : g.resting.Perm (channel :: (g.setPool endpoint pool.popleft).resting) :=
      (before.append_right (g.held ++ g.closed)).trans ((moved.append_right _).symm.cons channel)
    rw [ClientPool.popleft, holder_takes]
    exact (sound.ledger.perm same).take (holder_eq_none idle)
  keyed := sound.keyed_set found _

theorem close (held : g.hands task = some (purpose, channel)) : (g.close task channel).Sound config where
  ledger := by
    have given := sound.ledger.give (holder_eq_some held)
    rw [ClientPool.close, holder_empties]
    refine given.perm ?_
    change (channel :: (g.pooled ++ (g.held ++ g.closed))).Perm
      (g.pooled ++ (g.held ++ (g.closed ++ [channel])))
    rw [← List.append_assoc, ← List.append_assoc, ← List.append_assoc]
    exact (List.perm_append_singleton _ _).symm
  keyed := sound.keyed

omit sound in
theorem resting_push (found : g.pools.get? endpoint = some pool) (dropped : List Nat)
    (split : pool.items ++ [channel] = dropped ++ (pool.push channel).items) :
    (channel :: g.resting).Perm (dropped ++ (g.setPool endpoint (pool.push channel)).resting) := by
  obtain ⟨others, before, after⟩ := pooled_setPool found
  refine List.perm_iff_count.mpr fun other => ?_
  have counted := before.count_eq other
  have recounted := (after (pool.push channel)).count_eq other
  have splits := congrArg (List.count other) split
  change (channel :: (g.pooled ++ (g.held ++ g.closed))).count other =
    (dropped ++ ((g.setPool endpoint (pool.push channel)).pooled ++ (g.held ++ g.closed))).count other
  simp only [List.count_append, List.count_cons, List.count_nil] at counted recounted splits ⊢
  omega

/-- A full deque drops a channel for the one that is added. -/
theorem append (found : g.pools.get? endpoint = some pool) (held : g.hands task = some (purpose, channel)) :
    (g.append task endpoint pool channel).Sound config where
  ledger := by
    have given := sound.ledger.give (holder_eq_some held)
    rw [ClientPool.append, holder_empties]
    by_cases full : pool.Full
    · obtain ⟨oldest, split⟩ := BoundedDeque.push_of_full (a := channel) full
      rw [if_pos full]
      exact (given.perm (resting_push found [oldest] split)).drop (by trivial)
    · rw [if_neg full]
      exact given.perm (resting_push found [] (BoundedDeque.push_of_room full).symm)
  keyed := sound.keyed_set found _

theorem forget {event : Event} (lapse : event.isLapse) (held : g.hands task = some (purpose, channel)) :
    (g.forget task event).Sound config where
  ledger := by
    rw [ClientPool.forget, holder_empties]
    exact (sound.ledger.give (holder_eq_some held)).drop lapse
  keyed := sound.keyed

theorem gains (held : g.hands task = some (purpose, channel)) :
    Ledger (g.pooled ++ (g.held ++ [channel] ++ g.closed)) (g.empties task).holder g.created g.history := by
  rw [holder_empties]
  refine (sound.ledger.give (holder_eq_some held)).perm ?_
  rw [List.append_assoc, ← List.append_assoc, resting, ← List.append_assoc]
  exact List.perm_middle.symm

theorem keep (held : g.hands task = some (purpose, channel)) : (g.keep task channel).Sound config :=
  ⟨sound.gains held, sound.keyed⟩

theorem handOut (held : g.hands task = some (purpose, channel)) (healthy : g.isHealthy channel = true) :
    (g.handOut task channel).Sound config where
  ledger := by
    have serving : (g.channels channel).healthStatus = .serving := of_decide_eq_true healthy
    rw [ClientPool.handOut, serving]
    exact (sound.gains held).handOut
  keyed := sound.keyed

theorem giveBack (member : channel ∈ g.held) (idle : g.hands task = none) :
    (g.giveBack task channel).Sound config where
  ledger := by
    have same : g.resting.Perm (channel :: (g.pooled ++ (g.held.erase channel ++ g.closed))) := by
      refine (((List.perm_cons_erase member).append_right g.closed).append_left g.pooled).trans ?_
      exact List.perm_middle
    rw [ClientPool.giveBack, holder_takes]
    exact (sound.ledger.perm same).take (holder_eq_none idle)
  keyed := sound.keyed

theorem create (idle : g.hands task = none) : (g.create task endpoint).Sound config where
  ledger := by
    rw [ClientPool.create, holder_takes]
    exact sound.ledger.arrive.take (holder_eq_none idle)
  keyed := sound.keyed

theorem closes {kept gone : List Nat} (found : g.pools.get? endpoint = some pool)
    (split : (kept ++ gone).Perm pool.items) {pool' : BoundedDeque Nat} (same : pool'.items = kept) :
    ({ g with closed := g.closed ++ gone }.setPool endpoint pool').Sound config where
  ledger := by
    obtain ⟨others, before, after⟩ := pooled_setPool found
    have moved := after pool'
    rw [same] at moved
    refine sound.ledger.perm (List.perm_iff_count.mpr fun other => ?_)
    have counted := before.count_eq other
    have recounted := moved.count_eq other
    have splits := split.count_eq other
    change (g.pooled ++ (g.held ++ g.closed)).count other =
      ((g.setPool endpoint pool').pooled ++ (g.held ++ (g.closed ++ gone))).count other
    simp only [List.count_append] at counted recounted splits ⊢
    omega
  keyed := sound.keyed_set found _

theorem evict (found : g.pools.get? endpoint = some pool) : (g.evict endpoint pool).Sound config := by
  exact sound.closes found (List.filter_append_perm g.isHealthy pool.items) (BoundedDeque.items_refill _)

theorem drain (found : g.pools.get? endpoint = some pool) : (g.drain endpoint pool).Sound config :=
  sound.closes found (.refl _) rfl

end Sound

end ClientPool

end KuvaAI.GrpcClient
