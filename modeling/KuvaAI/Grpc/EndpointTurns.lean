import KuvaAI.Grpc.ClientPool
import KuvaAI.Lib.Effect
import KuvaAI.Lib.RoundRobin

/-! The endpoints that the round-robin strategy selects, call after call. No call waits
for anything, so the calls of all tasks come one after another. -/
namespace KuvaAI.GrpcClient
open Python

structure RoundRobinStrategy where
  index : Nat

namespace RoundRobinStrategy

def selectEndpoint (endpoints : List String) : Effect RoundRobinStrategy Exn String := do
  if endpoints = [] then
    throw ⟨.zeroDivisionError, "integer modulo by zero"⟩
  modify fun s => ⟨(s.index + 1) % endpoints.length⟩
  let s ← get
  match endpoints[s.index]? with
  | some endpoint => return endpoint
  | none => throw ⟨.indexError, "list index out of range"⟩

def selectEach (endpoints : List String) : Nat → Effect RoundRobinStrategy Exn (List String)
  | 0 => return []
  | calls + 1 => do
    let endpoint ← selectEndpoint endpoints
    let rest ← selectEach endpoints calls
    return endpoint :: rest

variable {endpoints : List String} (nonempty : endpoints ≠ [])

include nonempty

theorem wp_selectEndpoint (s : RoundRobinStrategy) :
    Effect.wp (selectEndpoint endpoints)
      (fun endpoint t => RoundRobin.seat endpoints (s.index + 1) = some endpoint ∧
        t = ⟨(s.index + 1) % endpoints.length⟩)
      (fun _ _ => False) s := by
  obtain ⟨endpoint, _, seated⟩ := RoundRobin.seat_eq nonempty (s.index + 1)
  have there : endpoints[(s.index + 1) % endpoints.length]? = some endpoint := seated
  simp [selectEndpoint, nonempty, there, seated]

theorem wp_selectEach (calls : Nat) {s : RoundRobinStrategy} {start : Nat}
    (turn : s.index % endpoints.length = start % endpoints.length) :
    Effect.wp (selectEach endpoints calls)
      (fun selected _ => selected.map some = RoundRobin.dealt endpoints (start + 1) calls)
      (fun _ _ => False) s := by
  induction calls generalizing s start with
  | zero => rfl
  | succ calls ih =>
    have next : (s.index + 1) % endpoints.length = (start + 1) % endpoints.length := by
      rw [Nat.add_mod, turn, ← Nat.add_mod]
    rw [selectEach, Effect.wp_bind]
    refine Effect.wp_mono (wp_selectEndpoint nonempty s) ?_ fun _ _ none => none
    rintro endpoint t ⟨seated, rfl⟩
    rw [Effect.wp_bind]
    have turned := (Nat.mod_mod (s.index + 1) endpoints.length).trans next
    refine Effect.wp_mono (ih turned) (fun rest u turns => ?_) fun _ _ none => none
    rw [RoundRobin.seat, next, ← RoundRobin.seat] at seated
    rw [Effect.wp_pure, List.map_cons, RoundRobin.dealt_succ, seated, turns]

end RoundRobinStrategy

section Pool
open Coroutine

theorem selectEndpoint_advances (config : ClientConfig) (g : ClientPool)
    (answer : Nat → (q : Call) → Answer q) (n : Nat)
    (roundRobin : createLoadBalancer config.loadBalancingStrategy = .roundRobin)
    (nonempty : config.endpoints ≠ []) :
    ∃ endpoint index,
      RoundRobinStrategy.selectEndpoint config.endpoints ⟨g.roundRobinIndex⟩ = (.ok endpoint, ⟨index⟩) ∧
      advance (selectEndpoint config) answer n g =
        (done (some endpoint), { g with roundRobinIndex := index }) := by
  obtain ⟨endpoint, t, selected, seated, rfl⟩ :=
    Effect.exists_of_wp (RoundRobinStrategy.wp_selectEndpoint nonempty ⟨g.roundRobinIndex⟩)
  refine ⟨endpoint, _, selected, ?_⟩
  rw [← seated]
  simp only [selectEndpoint, roundRobin, raiseIf, nonempty]
  rfl

end Pool

/-- In every window of calls, each endpoint is selected as often as it is due. -/
theorem windows_fair (endpoints : List String) (nonempty : endpoints ≠ [])
    (nodup : endpoints.Nodup) (start : RoundRobinStrategy) (calls : Nat) :
    ∃ selected t, RoundRobinStrategy.selectEach endpoints calls start = (.ok selected, t) ∧
      selected.length = calls ∧
      ∀ window, window <:+: selected → ∀ endpoint ∈ endpoints,
        window.count endpoint = window.length / endpoints.length ∨
        window.count endpoint = (window.length + endpoints.length - 1) / endpoints.length := by
  obtain ⟨selected, t, ran, turns⟩ :=
    Effect.exists_of_wp (RoundRobinStrategy.wp_selectEach nonempty calls (s := start) rfl)
  have length : selected.length = calls := by
    have lengths := congrArg List.length turns
    simpa [RoundRobin.dealt] using lengths
  refine ⟨selected, t, ran, length, fun window within endpoint member => ?_⟩
  have among : window.map some <:+: RoundRobin.dealt endpoints (start.index + 1) calls :=
    turns ▸ within.map some
  have fair := RoundRobin.window_fair nodup among member
  rw [List.length_map, List.count_map_of_injective _ some (Option.some_injective _)] at fair
  exact fair

def edges : List String := ["edge-1:443", "edge-2:443", "edge-3:443"]

theorem edges_fair : ∃ selected t,
    RoundRobinStrategy.selectEach edges 5 ⟨2⟩ = (.ok selected, t) ∧ selected.length = 5 ∧
      ∀ window, window <:+: selected → ∀ endpoint ∈ edges,
        window.count endpoint = window.length / 3 ∨
        window.count endpoint = (window.length + 3 - 1) / 3 :=
  windows_fair edges (by simp [edges]) (by simp [edges]) ⟨2⟩ 5

end KuvaAI.GrpcClient
