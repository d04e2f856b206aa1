import KuvaAI.Python.Value
import KuvaAI.Python.Repr
import KuvaAI.Lib.Runs
import Mathlib.Logic.Function.Basic

/-! The values of prometheus.py's metrics and their expiry. Each metric keeps its values
under tuples of label values; the stamps of all metrics share one map under texts, so a
key of the stamps is never a key of the values. The class needs `threading`, which the
module does not import: it is taken as bound. -/
namespace KuvaAI.Prometheus
open Python

structure MetricConfig where
  name : String
  labels : List String
  namespace_ : String
  subsystem : Option String
  ttl : Option Flt

def MetricConfig.fullName (config : MetricConfig) : String :=
  match config.subsystem with
  | none | some "" => config.namespace_ ++ "_" ++ config.name
  | some subsystem => config.namespace_ ++ "_" ++ subsystem ++ "_" ++ config.name

inductive Key where
  | tuple (labelValues : List String)
  | text (s : String)
  deriving DecidableEq, Repr

/-- The values of every metric and the stamps they share. -/
structure Metrics (ι V : Type) where
  values : ι → Dict Key V
  lastUpdated : Dict String Flt
  /-- For the record: each metric's last update of each tuple. -/
  latest : ι → List String → Option (Flt × V)

def Metrics.init (ι V : Type) : Metrics ι V := ⟨fun _ => .empty, .empty, fun _ _ => none⟩

structure Call (ι V : Type) where
  metric : ι
  value : V
  labels : Option (Dict String String)
  /-- The clock as the update stamps it, and as `_check_ttl` reads it. -/
  written : Flt
  checked : Flt

section Labels

-- which characters beyond ASCII the Unicode database calls printable
variable (printable : Char → Bool)

def validateLabels (config : MetricConfig) (labels : Dict String String) :
    Except Exn (List String) :=
  if (∀ name ∈ labels.keys, name ∈ config.labels) ∧ (∀ name ∈ config.labels, name ∈ labels.keys) then
    config.labels.mapM fun name =>
      match labels.get? name with
      | some value => .ok value
      | none => .error ⟨.keyError, "'" ++ name ++ "'"⟩
  else
    .error ⟨.valueError, "Label mismatch. Expected " ++ String.ofList (reprList printable config.labels) ++
      ", got " ++ String.ofList (reprList printable labels.keys)⟩

def cacheKey (config : MetricConfig) (labelValues : List String) : String :=
  config.fullName ++ ":" ++ ":".intercalate labelValues

end Labels

section Update

variable {ι V : Type} [DecidableEq ι]
-- the difference of two floats
variable (sub : Flt → Flt → Flt)

/-- `self.config.ttl and (current_time - v) > self.config.ttl`. -/
def MetricConfig.expires (config : MetricConfig) (currentTime v : Flt) : Bool :=
  match config.ttl with
  | none => false
  | some ttl => ttl ≠ .finite 0 && ttl.lt (sub currentTime v)

def expiredKeys (config : MetricConfig) (currentTime : Flt) (lastUpdated : Dict String Flt) :
    List String :=
  (lastUpdated.entries.filter fun entry => config.expires sub currentTime entry.2).map Prod.fst

def deleteItem (values : Dict Key V) (key : Key) : Except Exn (Dict Key V) :=
  match values.get? key, key with
  | some _, _ => .ok (values.erase key)
  | none, .text s => .error ⟨.keyError, "'" ++ s ++ "'"⟩
  | none, .tuple labelValues => .error ⟨.keyError, toString labelValues⟩

def deleteKeys (metric : ι) : List String → Metrics ι V → Except Exn Unit × Metrics ι V
  | [], s => (.ok (), s)
  | key :: rest, s =>
    match deleteItem (s.values metric) (.text key) with
    | .error e => (.error e, s)
    | .ok values =>
      deleteKeys metric rest { s with
        values := Function.update s.values metric values,
        lastUpdated := s.lastUpdated.erase key }

def checkTtl (config : MetricConfig) (metric : ι) (currentTime : Flt) (s : Metrics ι V) :
    Except Exn Unit × Metrics ι V :=
  deleteKeys metric (expiredKeys sub config currentTime s.lastUpdated) s

def Metrics.write (config : MetricConfig) (call : Call ι V) (labelValues : List String)
    (s : Metrics ι V) : Metrics ι V where
  values := Function.update s.values call.metric
    ((s.values call.metric).set (.tuple labelValues) call.value)
  lastUpdated := s.lastUpdated.set (cacheKey config labelValues) call.written
  latest := Function.update s.latest call.metric
    (Function.update (s.latest call.metric) labelValues (some (call.written, call.value)))

def update (printable : Char → Bool) (family : ι → MetricConfig) (call : Call ι V)
    (s : Metrics ι V) : Except Exn Unit × Metrics ι V :=
  match validateLabels printable (family call.metric) (call.labels.getD .empty) with
  | .error e => (.error e, s)
  | .ok labelValues =>
    checkTtl sub (family call.metric) call.metric call.checked
      (s.write (family call.metric) call labelValues)

end Update

section Expiry

variable {ι V : Type} (sub : Flt → Flt → Flt)

/-- An update that far back is not older than the metric's TTL. -/
def MetricConfig.fresh (config : MetricConfig) (currentTime v : Flt) : Bool :=
  match config.ttl with
  | none => true
  | some ttl => !ttl.lt (sub currentTime v)

/-- The value that a metric owes under a key: the last one of a tuple that is fresh. -/
def owed (config : MetricConfig) (currentTime : Flt) (latest : List String → Option (Flt × V)) :
    Key → Option V
  | .text _ => none
  | .tuple labelValues =>
    match latest labelValues with
    | none => none
    | some (stamp, value) => if config.fresh sub currentTime stamp then some value else none

variable [DecidableEq ι] (printable : Char → Bool) (family : ι → MetricConfig)

/-- A valid update returns, and leaves its metric with exactly the values owed. -/
def Lawful (s : Metrics ι V) (call : Call ι V) : Prop :=
  ∀ labelValues,
    validateLabels printable (family call.metric) (call.labels.getD .empty) = .ok labelValues →
    (update sub printable family call s).1 = .ok () ∧
    ∀ key, ((update sub printable family call s).2.values call.metric).get? key =
      owed sub (family call.metric) call.checked
        ((update sub printable family call s).2.latest call.metric) key

/-- With the update's own stamp written, no stamp of any metric has run out under this
metric's TTL, and none of this metric's tuples was last updated longer ago than that. -/
def Clean (s : Metrics ι V) (call : Call ι V) : Prop :=
  ∀ labelValues,
    validateLabels printable (family call.metric) (call.labels.getD .empty) = .ok labelValues →
    (∀ stamp ∈ (s.lastUpdated.set (cacheKey (family call.metric) labelValues) call.written).values,
      (family call.metric).expires sub call.checked stamp = false) ∧
    ∀ tuple stamp value,
      (s.write (family call.metric) call labelValues).latest call.metric tuple = some (stamp, value) →
      (family call.metric).fresh sub call.checked stamp = true

def Retained (s : Metrics ι V) : Prop :=
  ∀ metric key, (s.values metric).get? key =
    match key with
    | .text _ => none
    | .tuple labelValues => (s.latest metric labelValues).map Prod.snd

omit [DecidableEq ι] in
theorem retained_init : Retained (.init ι V) := by
  intro metric key
  cases key <;> rfl

theorem retained_write {s : Metrics ι V} (retained : Retained s) (config : MetricConfig)
    (call : Call ι V) (labelValues : List String) : Retained (s.write config call labelValues) := by
  intro metric key
  unfold Metrics.write
  by_cases ours : metric = call.metric
  · subst ours
    simp only [Function.update_self, Dict.get?_set, retained call.metric key]
    cases key with
    | text s => simp
    | tuple other =>
      by_cases same : other = labelValues
      · simp [same]
      · simp [same]
  · simp only [Function.update_of_ne ours]
    exact retained metric key

variable {sub printable family} {s : Metrics ι V}

/-- A stamp's key is a text, under which no metric has a value. -/
theorem deleteKeys_cons (retained : Retained s) (metric : ι) (key : String) (rest : List String) :
    deleteKeys metric (key :: rest) s = (.error ⟨.keyError, "'" ++ key ++ "'"⟩, s) := by
  have absent : (s.values metric).get? (.text key) = none := retained metric (.text key)
  simp [deleteKeys, deleteItem, absent]

theorem deleteKeys_state (retained : Retained s) (metric : ι) (keys : List String) :
    (deleteKeys metric keys s).2 = s := by
  cases keys with
  | nil => rfl
  | cons key rest => rw [deleteKeys_cons retained]

theorem deleteKeys_ok_iff (retained : Retained s) (metric : ι) (keys : List String) :
    (deleteKeys metric keys s).1 = .ok () ↔ keys = [] := by
  cases keys with
  | nil => simp [deleteKeys]
  | cons key rest => simp [deleteKeys_cons retained]

theorem update_state (retained : Retained s) {call : Call ι V} {labelValues : List String}
    (valid : validateLabels printable (family call.metric) (call.labels.getD .empty) =
      .ok labelValues) : (update sub printable family call s).2 =
    s.write (family call.metric) call labelValues := by
  unfold update checkTtl
  rw [valid]
  exact deleteKeys_state (retained_write retained _ call labelValues) call.metric _

theorem update_ok_iff (retained : Retained s) {call : Call ι V} {labelValues : List String}
    (valid : validateLabels printable (family call.metric) (call.labels.getD .empty) =
      .ok labelValues) : (update sub printable family call s).1 = .ok () ↔
    ∀ stamp ∈ (s.lastUpdated.set (cacheKey (family call.metric) labelValues) call.written).values,
      (family call.metric).expires sub call.checked stamp = false := by
  unfold update checkTtl
  rw [valid]
  refine (deleteKeys_ok_iff (retained_write retained _ call labelValues) call.metric _).trans ?_
  simp only [expiredKeys, List.map_eq_nil_iff, List.filter_eq_nil_iff, Metrics.write, Dict.values,
    List.forall_mem_map, Bool.not_eq_true]

theorem retained_update (call : Call ι V) (retained : Retained s) :
    Retained (update sub printable family call s).2 := by
  cases valid : validateLabels printable (family call.metric) (call.labels.getD .empty) with
  | error e =>
    have same : (update sub printable family call s).2 = s := by simp [update, valid]
    rw [same]
    exact retained
  | ok labelValues =>
    rw [update_state retained valid]
    exact retained_write retained _ call labelValues

omit [DecidableEq ι] in
theorem owed_iff_fresh {config : MetricConfig} {currentTime : Flt} (retained : Retained s)
    (metric : ι) : (∀ key, (s.values metric).get? key =
        owed sub config currentTime (s.latest metric) key) ↔
      ∀ tuple stamp value, s.latest metric tuple = some (stamp, value) →
        config.fresh sub currentTime stamp = true := by
  constructor
  · intro exact_ tuple stamp value last
    have held := (retained metric (.tuple tuple)).symm.trans (exact_ (.tuple tuple))
    by_contra stale
    simp [owed, last, stale] at held
  · intro fresh key
    rw [retained metric key]
    cases key with
    | text s => rfl
    | tuple labelValues =>
      cases last : s.latest metric labelValues with
      | none => simp [owed, last]
      | some entry =>
        obtain ⟨stamp, value⟩ := entry
        simp [owed, last, fresh labelValues stamp value last]

theorem lawful_iff_clean (call : Call ι V) (retained : Retained s) :
    Lawful sub printable family s call ↔ Clean sub printable family s call := by
  unfold Lawful Clean
  refine forall_congr' fun labelValues => forall_congr' fun valid => ?_
  rw [update_ok_iff retained valid, update_state retained valid]
  exact and_congr Iff.rfl (owed_iff_fresh (retained_write retained _ call labelValues) call.metric)

end Expiry

/-- All updates of a run are lawful exactly if each of them finds nothing that has
expired: an expired stamp makes the update raise, and no value is ever removed. -/
theorem expiry_iff {ι V : Type} [DecidableEq ι] (sub : Flt → Flt → Flt) (printable : Char → Bool)
    (family : ι → MetricConfig) (calls : List (Call ι V)) :
    Runs.Each (fun s call => (update sub printable family call s).2)
        (Lawful sub printable family) (.init ι V) calls ↔
      Runs.Each (fun s call => (update sub printable family call s).2)
        (Clean sub printable family) (.init ι V) calls :=
  Runs.each_congr_inv (fun _ call retained => retained_update call retained)
    (fun _ call retained => lawful_iff_clean call retained) _ _ retained_init

def exactDifference : Flt → Flt → Flt
  | .finite a, .finite b => .finite (a - b)
  | _, _ => .nan

def queueDepth : MetricConfig := ⟨"queue_depth", ["queue"], "kuva_ai", none, some (.finite 60)⟩

theorem expired_stamp_raises :
    ¬ Runs.Each (fun s call => (update exactDifference (fun _ => false) (fun _ => queueDepth) call s).2)
      (Lawful exactDifference (fun _ => false) fun _ => queueDepth) (.init Unit Nat)
      [⟨(), 7, some ⟨[("queue", "mail")], by decide⟩, .finite 0, .finite 0⟩,
        ⟨(), 8, some ⟨[("queue", "jobs")], by decide⟩, .finite 100, .finite 100⟩] := by
  intro each
  have second := each [_] _ (List.prefix_refl _) ["jobs"] (by rfl)
  have returned := congrArg Except.isOk second.1
  exact absurd returned (by decide +kernel)

end KuvaAI.Prometheus
