import KuvaAI.Observability.DynamicMetric

/-! The histograms of prometheus.py, as they are collected. The metric family is what
`add_metric` has been given; how the client library writes it out is outside. -/
namespace KuvaAI.Prometheus
open Python

structure DynamicHistogram where
  config : MetricConfig
  description : String
  buckets : List Flt

structure Sample where
  labels : List String
  buckets : List (Flt × Nat)
  sumValue : Flt
  deriving DecidableEq

structure HistogramMetricFamily where
  name : String
  documentation : String
  labels : List String
  samples : List Sample
  deriving DecidableEq

def clientNames : List String :=
  ["REGISTRY", "CollectorRegistry", "Counter", "Gauge", "Histogram", "Summary", "generate_latest",
    "start_http_server", "GaugeMetricFamily", "InfoMetricFamily"]

-- the sum of two floats
variable (add : Flt → Flt → Flt)

section Buckets

/-- `v <= upper_bound`. -/
def within (v upperBound : Flt) : Bool := Value.Cmp.le.onFlt v upperBound

/-- The loop over the bounds: it breaks at the first one that is not below `v`, and without
a break counts `v` in the last place. -/
def countIn (buckets : List Flt) (counts : List Nat) (v : Flt) : List Nat :=
  counts.modify (buckets.findIdx (within v)) (· + 1)

def tally (buckets vs : List Flt) : List Nat × Flt :=
  vs.foldl (fun state v => (countIn buckets state.1 v, add state.2 v))
    (List.replicate (buckets.length + 1) 0, .finite 0)

end Buckets

section Collect

def Key.list : Key → List String
  | .tuple labelValues => labelValues
  | .text s => s.toList.map fun c => String.ofList [c]

/-- `for v in value`, where it is a float. -/
def iterateFloat (_ : Flt) : Except Exn (List Flt) :=
  .error ⟨.typeError, "'float' object is not iterable"⟩

variable {V : Type} (iterate : V → Except Exn (List Flt)) (globals : List String)

def sampleOf (buckets : List Flt) (entry : Key × V) : Except Exn Sample := do
  let vs ← iterate entry.2
  return ⟨entry.1.list, buckets.zip (tally add buckets vs).1, (tally add buckets vs).2⟩

def DynamicHistogram.collect (histogram : DynamicHistogram) (values : Dict Key V) :
    Except Exn HistogramMetricFamily := do
  if "HistogramMetricFamily" ∉ globals then
    throw ⟨.nameError, "name 'HistogramMetricFamily' is not defined"⟩
  let samples ← values.entries.mapM (sampleOf add iterate histogram.buckets)
  return ⟨histogram.config.fullName, histogram.description, histogram.config.labels, samples⟩

end Collect

section Counts

variable {add}

theorem sum_take_modify {counts : List Nat} {k : Nat} (inside : k < counts.length) (i : Nat) :
    ((counts.modify k (· + 1)).take i).sum = (counts.take i).sum + if k < i then 1 else 0 := by
  induction counts generalizing k i with
  | nil => simp at inside
  | cons n rest ih =>
    cases i with
    | zero => simp
    | succ i =>
      cases k with
      | zero => simp; omega
      | succ k => simp [ih (Nat.lt_of_succ_lt_succ inside)]; omega

theorem findIdx_lt_iff {α : Type} (p : α → Bool) {items : List α} {i : Nat} (most : i ≤ items.length) :
    items.findIdx p < i ↔ (items.take i).any p = true := by
  have cut : (items.take i).findIdx p < (items.take i).length ↔ ∃ x ∈ items.take i, p x = true :=
    List.findIdx_lt_length
  rw [List.findIdx_take, List.length_take, Nat.min_eq_left most] at cut
  rw [List.any_eq_true, ← cut]
  omega

theorem tally_counts (buckets vs : List Flt) :
    (tally add buckets vs).1 = vs.foldl (countIn buckets) (List.replicate (buckets.length + 1) 0) := by
  unfold tally
  generalize List.replicate (buckets.length + 1) 0 = counts
  generalize Flt.finite 0 = sum
  induction vs generalizing counts sum with
  | nil => rfl
  | cons v rest ih => exact ih _ _

theorem counted_up_to (buckets vs : List Flt) {counts : List Nat}
    (places : counts.length = buckets.length + 1) {i : Nat} (most : i ≤ buckets.length) :
    ((vs.foldl (countIn buckets) counts).take i).sum =
      (counts.take i).sum + vs.countP fun v => (buckets.take i).any (within v) := by
  induction vs generalizing counts with
  | nil => simp
  | cons v rest ih =>
    have inside : buckets.findIdx (within v) < counts.length := by
      have found : buckets.findIdx (within v) ≤ buckets.length := List.findIdx_le_length
      omega
    rw [List.foldl_cons, ih (by simp [countIn, places]), countIn, sum_take_modify inside,
      List.countP_cons]
    simp only [findIdx_lt_iff _ most]
    omega

/-- The counts are those of single buckets: an observation is counted once, and it is the
total up to a bound that says how many are not above it. -/
theorem tally_cumulates (buckets vs : List Flt) {i : Nat} (most : i ≤ buckets.length) :
    ((tally add buckets vs).1.take i).sum = vs.countP fun v => (buckets.take i).any (within v) := by
  rw [tally_counts, counted_up_to buckets vs (by simp) most]
  simp

end Counts

section Export

variable {ι : Type} [DecidableEq ι] (sub : Flt → Flt → Flt) (printable : Char → Bool)
  (family : ι → MetricConfig)

def observations (metric : ι) (labelValues : List String) (calls : List (Call ι Flt)) : List Flt :=
  calls.filterMap fun call =>
    match validateLabels printable (family call.metric) (call.labels.getD .empty) with
    | .ok valid => if call.metric = metric ∧ valid = labelValues then some call.value else none
    | .error _ => none

abbrev afterUpdates (calls : List (Call ι Flt)) : Metrics ι Flt :=
  Runs.run (fun s call => (update sub printable family call s).2) (.init ι Flt) calls

/-- The sum is that of the observations, the counts are cumulative, and the last bucket is
the unbounded one. -/
def Sample.Faithful (sample : Sample) (buckets vs : List Flt) : Prop :=
  sample.sumValue = vs.foldl add (.finite 0) ∧
  (∀ bound ∈ buckets, (bound, vs.countP fun v => within v bound) ∈ sample.buckets) ∧
  (∀ bucket ∈ sample.buckets.dropLast, bucket.2 = vs.countP fun v => within v bucket.1) ∧
  sample.buckets.getLast? = some (.infinite false, vs.length)

/-- `collect` returns, with a faithful sample of every label set that has been seen. -/
def Exported (globals : List String) (metric : ι) (description : String) (buckets : List Flt)
    (calls : List (Call ι Flt)) : Prop :=
  ∃ fm, DynamicHistogram.collect add iterateFloat globals ⟨family metric, description, buckets⟩
      ((afterUpdates sub printable family calls).values metric) = .ok fm ∧
    ∀ labelValues, observations printable family metric labelValues calls ≠ [] →
      ∃ sample ∈ fm.samples, sample.labels = labelValues ∧
        sample.Faithful add buckets (observations printable family metric labelValues calls)

variable {add sub printable family}

theorem retained_afterUpdates (calls : List (Call ι Flt)) :
    Retained (afterUpdates sub printable family calls) :=
  Runs.invariant (fun _ call retained => retained_update call retained) _ calls retained_init

theorem kept_last (metric : ι) (calls : List (Call ι Flt)) (labelValues : List String) :
    ((afterUpdates sub printable family calls).values metric).get? (.tuple labelValues) =
      (observations printable family metric labelValues calls).getLast? := by
  induction calls using List.reverseRecOn with
  | nil => rfl
  | append_singleton calls call ih =>
    have retained : Retained (afterUpdates sub printable family calls) := retained_afterUpdates calls
    rw [afterUpdates, Runs.run_append, Runs.run_cons, Runs.run_nil, observations, List.filterMap_append,
      ← observations]
    cases valid : validateLabels printable (family call.metric) (call.labels.getD .empty) with
    | error e =>
      have refused : ∀ s : Metrics ι Flt, (update sub printable family call s).2 = s := by
        simp [update, valid]
      rw [refused]
      simpa [valid] using ih
    | ok updated =>
      rw [update_state retained valid, Metrics.write]
      simp only [List.filterMap_cons, List.filterMap_nil, valid]
      by_cases ours : call.metric = metric
      · subst ours
        by_cases same : updated = labelValues
        · subst same
          simp
        · have other : Key.tuple labelValues ≠ .tuple updated := fun eq => same (Key.tuple.inj eq).symm
          simpa [same, Dict.get?_set_other _ _ other] using ih
      · simpa [ours, Function.update_of_ne (Ne.symm ours)] using ih

theorem values_eq_nil_iff (metric : ι) (calls : List (Call ι Flt)) :
    ((afterUpdates sub printable family calls).values metric).entries = [] ↔
      ∀ labelValues, observations printable family metric labelValues calls = [] := by
  constructor
  · intro empty labelValues
    refine List.getLast?_eq_none_iff.mp ?_
    rw [← kept_last metric calls labelValues, Dict.get?, empty]
    rfl
  · intro unseen
    rw [List.eq_nil_iff_forall_not_mem]
    rintro ⟨key, value⟩ member
    have found := Dict.get?_of_mem member
    cases key with
    | text s =>
      rw [retained_afterUpdates calls metric (.text s)] at found
      cases found
    | tuple labelValues =>
      rw [kept_last, unseen labelValues] at found
      cases found

theorem collect_ok_iff {globals : List String} {histogram : DynamicHistogram} {values : Dict Key Flt} :
    (∃ fm, histogram.collect add iterateFloat globals values = .ok fm) ↔
      "HistogramMetricFamily" ∈ globals ∧ values.entries = [] := by
  unfold DynamicHistogram.collect
  by_cases bound : "HistogramMetricFamily" ∈ globals
  · cases values.entries with
    | nil => simp [bound]
    | cons entry rest => simp [bound, List.mapM_cons, sampleOf, iterateFloat]
  · rw [if_pos bound]
    constructor
    · rintro ⟨fm, ran⟩
      cases ran
    · exact fun both => (bound both.1).elim

end Export

/-- Nothing is exported in a module that does not bind the metric family, and this one does
not. In one that does, the export is faithful exactly while no label set has been updated. -/
theorem histogram_unexported {ι : Type} [DecidableEq ι] (add sub : Flt → Flt → Flt)
    (printable : Char → Bool) (family : ι → MetricConfig) (metric : ι) (description : String)
    (buckets : List Flt) (calls : List (Call ι Flt)) :
    (¬ Exported add sub printable family clientNames metric description buckets calls) ∧
    ∀ globals, Exported add sub printable family globals metric description buckets calls ↔
      "HistogramMetricFamily" ∈ globals ∧
        ∀ labelValues, observations printable family metric labelValues calls = [] := by
  have exact_ : ∀ globals, Exported add sub printable family globals metric description buckets calls ↔
      "HistogramMetricFamily" ∈ globals ∧
        ∀ labelValues, observations printable family metric labelValues calls = [] := by
    intro globals
    constructor
    · rintro ⟨fm, ran, _⟩
      obtain ⟨bound, empty⟩ := collect_ok_iff.mp ⟨fm, ran⟩
      exact ⟨bound, (values_eq_nil_iff metric calls).mp empty⟩
    · rintro ⟨bound, unseen⟩
      obtain ⟨fm, ran⟩ := collect_ok_iff.mpr ⟨bound, (values_eq_nil_iff metric calls).mpr unseen⟩
      exact ⟨fm, ran, fun labelValues seen => (seen (unseen labelValues)).elim⟩
  refine ⟨fun exported => ?_, exact_⟩
  have bound := ((exact_ clientNames).mp exported).1
  simp [clientNames] at bound

def exactSum : Flt → Flt → Flt
  | .finite a, .finite b => .finite (a + b)
  | _, _ => .nan

def latency : DynamicHistogram := ⟨⟨"latency", ["route"], "kuva_ai", none, none⟩, "", [.finite 1, .finite 5]⟩

def oneUpdate : List (Call Unit Flt) :=
  [⟨(), .finite 3, some ⟨[("route", "/run")], by decide⟩, .finite 0, .finite 0⟩]

abbrev latencyValues : Dict Key Flt :=
  (afterUpdates exactDifference (fun _ => false) (fun _ => latency.config) oneUpdate).values ()

theorem latency_unexported :
    latency.collect exactSum iterateFloat clientNames latencyValues =
      .error ⟨.nameError, "name 'HistogramMetricFamily' is not defined"⟩ ∧
    latency.collect exactSum iterateFloat ("HistogramMetricFamily" :: clientNames) latencyValues =
      .error ⟨.typeError, "'float' object is not iterable"⟩ ∧
    ¬ Exported exactSum exactDifference (fun _ => false) (fun _ => latency.config) clientNames ()
      latency.description latency.buckets oneUpdate := by
  refine ⟨rfl, rfl, ?_⟩
  rintro ⟨fm, ran, _⟩
  cases ran

/-- Lists would be counted, bucket by bucket and without those above the last bound. -/
example : latency.buckets.zip (tally exactSum latency.buckets [.finite 3, .finite 7, .finite 1]).1 =
    [(.finite 1, 1), (.finite 5, 1)] := by decide

end KuvaAI.Prometheus
