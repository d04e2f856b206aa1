import KuvaAI.Lib.Dict

/-! A cache whose values are made on demand and expire. A fetch reads a clock,
hands out the value in force, and replaces one that is missing or has expired.
Clocks need not agree from one fetch to the next. -/
namespace ExpiringCache

/-- What a fetch takes from outside: the clock, the value to use on a miss, and
the clock again once that value was made. -/
structure Draw (ν : Type) where
  before : Int
  fresh : ν
  after : Int

abbrev Cache (κ ν : Type) := Dict κ (ν × Int)

variable {κ ν : Type} [DecidableEq κ] (lifetime : Int)

def fetch (cache : Cache κ ν) (k : κ) (draw : Draw ν) : ν × Cache κ ν :=
  let refreshed := (draw.fresh, cache.set k (draw.fresh, draw.after + lifetime))
  match cache.get? k with
  | none => refreshed
  | some (v, expiry) => if draw.before < expiry then (v, cache) else refreshed

def fetchAll (cache : Cache κ ν) : List (κ × Draw ν) → Cache κ ν
  | [] => cache
  | (k, draw) :: rest => fetchAll (fetch lifetime cache k draw).2 rest

theorem fetch_cases (cache : Cache κ ν) (k : κ) (draw : Draw ν) :
    (∃ v expiry, cache.get? k = some (v, expiry) ∧ draw.before < expiry ∧
      fetch lifetime cache k draw = (v, cache)) ∨
    ((∀ v expiry, cache.get? k = some (v, expiry) → expiry ≤ draw.before) ∧
      fetch lifetime cache k draw =
        (draw.fresh, cache.set k (draw.fresh, draw.after + lifetime))) := by
  cases found : cache.get? k with
  | none => exact .inr ⟨by simp, by simp [fetch, found]⟩
  | some entry =>
    obtain ⟨v, expiry⟩ := entry
    by_cases inForce : draw.before < expiry
    · exact .inl ⟨v, expiry, rfl, inForce, by simp [fetch, found, inForce]⟩
    · refine .inr ⟨?_, by simp [fetch, found, inForce]⟩
      intro w expiry' same
      cases same
      omega

/-- A fetch of `k` hands out `v`: it is held and has not expired, or it is the
value drawn afresh. -/
def InForce (cache : Cache κ ν) (k : κ) (v : ν) (draw : Draw ν) : Prop :=
  (∃ expiry, cache.get? k = some (v, expiry) ∧ draw.before < expiry) ∨
    ((∀ w expiry, cache.get? k = some (w, expiry) → expiry ≤ draw.before) ∧ draw.fresh = v)

theorem fetch_eq_iff (cache : Cache κ ν) (k : κ) (v : ν) (draw : Draw ν) :
    (fetch lifetime cache k draw).1 = v ↔ InForce cache k v draw := by
  rcases fetch_cases lifetime cache k draw with ⟨w, expiry, held, early, result⟩ | ⟨gone, result⟩
  · rw [result]
    constructor
    · rintro rfl
      exact .inl ⟨expiry, held, early⟩
    · rintro (⟨expiry', held', _⟩ | ⟨gone, _⟩)
      · rw [held] at held'
        cases held'
        rfl
      · have late := gone w expiry held
        omega
  · rw [result]
    constructor
    · exact fun same => .inr ⟨gone, same⟩
    · rintro (⟨expiry, held, early⟩ | ⟨_, same⟩)
      · have late := gone v expiry held
        omega
      · exact same

theorem fetch_hit {cache : Cache κ ν} {k : κ} {v : ν} {expiry : Int} {draw : Draw ν}
    (held : cache.get? k = some (v, expiry)) (early : draw.before < expiry) :
    fetch lifetime cache k draw = (v, cache) := by
  simp [fetch, held, early]

theorem fetch_entry (cache : Cache κ ν) (k : κ) (draw : Draw ν) :
    ∃ expiry, (fetch lifetime cache k draw).2.get? k =
      some ((fetch lifetime cache k draw).1, expiry) := by
  rcases fetch_cases lifetime cache k draw with ⟨v, expiry, held, _, result⟩ | ⟨_, result⟩
  · exact ⟨expiry, by rw [result, held]⟩
  · exact ⟨draw.after + lifetime, by rw [result, Dict.get?_set_same]⟩

theorem fetch_other (cache : Cache κ ν) {j k : κ} (other : j ≠ k) (draw : Draw ν) :
    (fetch lifetime cache k draw).2.get? j = cache.get? j := by
  rcases fetch_cases lifetime cache k draw with ⟨v, expiry, _, _, result⟩ | ⟨_, result⟩
  · rw [result]
  · rw [result, Dict.get?_set_other _ _ other]

theorem fetchAll_append (cache : Cache κ ν) (fetches more : List (κ × Draw ν)) :
    fetchAll lifetime cache (fetches ++ more) =
      fetchAll lifetime (fetchAll lifetime cache fetches) more := by
  induction fetches generalizing cache with
  | nil => rfl
  | cons f rest ih => exact ih (fetch lifetime cache f.1 f.2).2

/-- An entry survives every run whose fetches of its key all read the clock
before it expires. -/
theorem fetchAll_kept {cache : Cache κ ν} {k : κ} {v : ν} {expiry : Int}
    (held : cache.get? k = some (v, expiry)) (fetches : List (κ × Draw ν))
    (early : ∀ f ∈ fetches, f.1 = k → f.2.before < expiry) :
    (fetchAll lifetime cache fetches).get? k = some (v, expiry) := by
  induction fetches generalizing cache with
  | nil => exact held
  | cons f rest ih =>
    apply ih
    · by_cases same : f.1 = k
      · have hit := fetch_hit lifetime (same ▸ held) (early f List.mem_cons_self same)
        rw [hit]
        exact held
      · rw [fetch_other lifetime cache (Ne.symm same) f.2]
        exact held
    · exact fun g hg => early g (List.mem_cons_of_mem _ hg)

theorem fetchAll_values {P : κ → ν → Prop} {cache : Cache κ ν} (fetches : List (κ × Draw ν))
    (initial : ∀ k v expiry, cache.get? k = some (v, expiry) → P k v)
    (fresh : ∀ f ∈ fetches, P f.1 f.2.fresh) :
    ∀ k v expiry, (fetchAll lifetime cache fetches).get? k = some (v, expiry) → P k v := by
  induction fetches generalizing cache with
  | nil => exact initial
  | cons f rest ih =>
    apply ih
    · intro k v expiry held
      rcases fetch_cases lifetime cache f.1 f.2 with ⟨_, _, _, _, result⟩ | ⟨_, result⟩
      · rw [result] at held
        exact initial k v expiry held
      · rw [result, Dict.get?_set] at held
        by_cases same : k = f.1
        · rw [if_pos same] at held
          cases held
          exact same ▸ fresh f List.mem_cons_self
        · rw [if_neg same] at held
          exact initial k v expiry held
    · exact fun g hg => fresh g (List.mem_cons_of_mem _ hg)

/-- Once a fetch has read the clock at or past its expiry, a value is gone: what
the cache holds afterwards was drawn afresh. -/
theorem fetchAll_lost {cache : Cache κ ν} {k : κ} {v : ν} {expiry : Int}
    (held : cache.get? k = some (v, expiry)) (fetches : List (κ × Draw ν))
    (late : ∃ f ∈ fetches, f.1 = k ∧ expiry ≤ f.2.before) {w : ν} {expiry' : Int}
    (found : (fetchAll lifetime cache fetches).get? k = some (w, expiry')) :
    ∃ f ∈ fetches, w = f.2.fresh := by
  induction fetches generalizing cache with
  | nil => simp at late
  | cons f rest ih =>
    by_cases hit : f.1 = k ∧ expiry ≤ f.2.before
    · obtain ⟨rfl, past⟩ := hit
      rcases fetch_cases lifetime cache f.1 f.2 with ⟨_, _, held', inForce, _⟩ | ⟨_, result⟩
      · rw [held] at held'
        cases held'
        omega
      · have stored : ∀ j u e, (fetch lifetime cache f.1 f.2).2.get? j = some (u, e) →
            j = f.1 → ∃ g ∈ f :: rest, u = g.2.fresh := by
          intro j u e entry same
          rw [result, same, Dict.get?_set_same] at entry
          cases entry
          exact ⟨f, List.mem_cons_self, rfl⟩
        have drawn : ∀ g ∈ rest, g.1 = f.1 → ∃ h ∈ f :: rest, g.2.fresh = h.2.fresh :=
          fun g hg _ => ⟨g, List.mem_cons_of_mem _ hg, rfl⟩
        exact fetchAll_values lifetime (P := fun j u => j = f.1 → ∃ g ∈ f :: rest, u = g.2.fresh)
          rest stored drawn f.1 w expiry' found rfl
    · have later : ∃ g ∈ rest, g.1 = k ∧ expiry ≤ g.2.before := by
        obtain ⟨g, member, past⟩ := late
        rcases List.mem_cons.mp member with rfl | member
        · exact absurd past hit
        · exact ⟨g, member, past⟩
      have kept : (fetch lifetime cache f.1 f.2).2.get? k = some (v, expiry) :=
        fetchAll_kept lifetime held [f] (by
          intro g hg same
          rw [List.mem_singleton.mp hg] at same ⊢
          have inForce : ¬ expiry ≤ f.2.before := fun past => hit ⟨same, past⟩
          omega)
      obtain ⟨g, hg, drawn⟩ := ih kept later found
      exact ⟨g, List.mem_cons_of_mem _ hg, drawn⟩

end ExpiringCache
