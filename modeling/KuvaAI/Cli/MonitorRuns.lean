import KuvaAI.Cli.Monitor
import Mathlib.Analysis.Real.Sqrt

/-! Streams and ingestions among each other: what the buffers of a monitor hold, and which
windows its streams yield. -/
namespace KuvaAI.Monitor
open Python Coroutine

variable {F : Type} [Field F] [LinearOrder F] {env : Env F} {config : MonitoringConfig F}
  {g h : RealTimeMonitor F} {task : Nat}

def capacity (config : MonitoringConfig F) : Nat := config.samplingRate * config.retentionWindow

/-- A window begins where the one before it ends, and has the length of all. -/
def Follows (config : MonitoringConfig F) (a b : StreamWindow F) : Prop :=
  b.start = a.ending ∧ b.ending = after b.start config.correlationInterval

def Saturated (anomalies : List (DataPoint F)) : Prop :=
  exceeds anomalies "cpu_usage" = true ∧ exceeds anomalies "memory_usage" = true

/-- The anomalies of a window are those among the last points that were accepted by some
time. -/
def Found (env : Env F) (config : MonitoringConfig F) (accepted : List (DataPoint F))
    (window : StreamWindow F) : Prop :=
  ∃ n ≤ accepted.length,
    window.anomalies = detectAnomalies env config ((accepted.take n).rtake (capacity config))

def Calm (env : Env F) (window : StreamWindow F) : Prop := env.warning = true → ¬ Saturated window.anomalies

structure Sound (env : Env F) (config : MonitoringConfig F) (g : RealTimeMonitor F) : Prop where
  limit : g.streamBuffer.limit = capacity config
  buffer : g.streamBuffer.items = g.accepted.rtake (capacity config)
  room : ∀ metric, (g.cached metric).limit = 1000
  caches : ∀ metric,
    (g.cached metric).items = (g.accepted.filter fun p => p.metric = metric).rtake 1000
  consecutive : ∀ t, (g.yielded t).IsChain (Follows config)
  found : ∀ t, ∀ w ∈ g.yielded t, Found env config g.accepted w
  calm : ∀ t, ∀ w ∈ g.yielded t, Calm env w
  quiet : env.warning = true → "monitor.alert.resource_saturation" ∉ g.emitted

structure Leaves (task : Nat) (g h : RealTimeMonitor F) : Prop where
  current : h.current task = g.current task
  yielded : h.yielded task = g.yielded task
  accepted : g.accepted <+: h.accepted

def orderly (env : Env F) (config : MonitoringConfig F) :
    Discipline (RealTimeMonitor F) Answer where
  allowed := served
  inv := Sound env config
  rely := Leaves
  idle _ _ := True
  rely_refl _ _ := ⟨rfl, rfl, List.prefix_refl _⟩
  rely_trans _ _ _ _ first second :=
    ⟨second.current.trans first.current, second.yielded.trans first.yielded,
      first.accepted.trans second.accepted⟩
  idle_stable _ _ _ _ _ := trivial

abbrev Known (F : Type) := StreamWindow F → List (StreamWindow F) → List (DataPoint F) → Prop

def Lasts (known : Known F) : Prop :=
  ∀ w ws as bs, as <+: bs → known w ws as → known w ws bs

structure Holds (env : Env F) (config : MonitoringConfig F) (task : Nat) (known : Known F)
    (g : RealTimeMonitor F) : Prop where
  sound : Sound env config g
  known : known (g.current task) (g.yielded task) g.accepted

variable {known : Known F}

abbrev Does {α : Type} (env : Env F) (config : MonitoringConfig F) (task : Nat)
    (pre : RealTimeMonitor F → Prop) (x : Task F α) (post : RealTimeMonitor F → Prop) : Prop :=
  Triple (orderly env config) task pre x (fun _ => post) fun _ => post

theorem Holds.closed (env : Env F) (config : MonitoringConfig F) (task : Nat) (lasts : Lasts known) :
    Closed fun {_} (x : Task F _) =>
      Does env config task (Holds env config task known) x (Holds env config task known) := by
  refine Triple.closed (fun _ holds => holds.sound) fun g h holds leaves sound => ⟨sound, ?_⟩
  rw [leaves.current, leaves.yielded]
  exact lasts _ _ _ _ leaves.accepted holds.known

section Changes

theorem Found.later {accepted later : List (DataPoint F)} {w : StreamWindow F}
    (found : Found env config accepted w) (grows : accepted <+: later) :
    Found env config later w := by
  obtain ⟨n, within, found⟩ := found
  obtain ⟨more, rfl⟩ := grows
  refine ⟨n, ?_, ?_⟩
  · rw [List.length_append]
    omega
  · rw [List.take_append_of_le_length within, found]

theorem holds_change (lasts : Lasts known) {f : RealTimeMonitor F → RealTimeMonitor F}
    {exn : Interrupt → RealTimeMonitor F → Prop} (holds : Holds env config task known g)
    (sound : Sound env config (f g)) (current : (f g).current = g.current)
    (yielded : (f g).yielded = g.yielded) (accepted : g.accepted <+: (f g).accepted) :
    wp (orderly env config) task (fun _ => Holds env config task known) exn
      (modify f : Task F PUnit) g := by
  refine ⟨fun other _ => ⟨by rw [current], by rw [yielded], accepted⟩, sound, ?_⟩
  rw [current, yielded]
  exact lasts _ _ _ _ accepted holds.known

theorem Sound.record (sound : Sound env config g) {name : String}
    (quiet : env.warning = true → name ≠ "monitor.alert.resource_saturation") :
    Sound env config (g.record name) := by
  refine { sound with quiet := fun warns member => ?_ }
  rcases List.mem_append.mp member with old | new
  · exact sound.quiet warns old
  · exact quiet warns (List.mem_singleton.mp new).symm

theorem does_emit (lasts : Lasts known) {name : String}
    (quiet : env.warning = true → name ≠ "monitor.alert.resource_saturation") :
    Does env config task (Holds env config task known) (emit name) (Holds env config task known) := by
  have recorded : Does env config task (Holds env config task known)
      (modify fun g => g.record name : Task F PUnit) (Holds env config task known) :=
    fun g holds => holds_change lasts holds (holds.sound.record quiet) rfl rfl (List.prefix_refl _)
  exact recorded.bind fun _ =>
    (Holds.closed env config task lasts).called fun answered => closed_orRaise (Holds.closed env config task lasts) answered

theorem does_setLocked (lasts : Lasts known) (locked : Bool) :
    Does env config task (Holds env config task known)
      (modify fun g => g.setLocked locked : Task F PUnit) (Holds env config task known) := by
  intro g holds
  have sound := holds.sound
  exact holds_change lasts holds ⟨sound.limit, sound.buffer, sound.room, sound.caches,
    sound.consecutive, sound.found, sound.calm, sound.quiet⟩ rfl rfl (List.prefix_refl _)

theorem does_touch (lasts : Lasts known) (metric : String) :
    Does env config task (Holds env config task known)
      (modify fun g => g.touch metric : Task F PUnit) (Holds env config task known) := by
  intro g holds
  refine holds_change lasts holds { holds.sound with room := fun m => ?_, caches := fun m => ?_ } rfl rfl
    (List.prefix_refl _)
  · rw [RealTimeMonitor.cached_touch]
    exact holds.sound.room m
  · rw [RealTimeMonitor.cached_touch]
    exact holds.sound.caches m

theorem Sound.append (sound : Sound env config g) (point : DataPoint F) :
    Sound env config (g.append point) where
  limit := sound.limit
  buffer := by
    rw [← sound.limit]
    exact BoundedDeque.push_rtake (sound.limit ▸ sound.buffer)
  room metric := by
    by_cases same : metric = point.metric
    · rw [same, RealTimeMonitor.cached_append_same]
      exact sound.room point.metric
    · rw [RealTimeMonitor.cached_append_other same]
      exact sound.room metric
  caches metric := by
    change _ = ((g.accepted ++ [point]).filter _).rtake 1000
    rw [List.filter_append]
    by_cases same : metric = point.metric
    · subst same
      rw [RealTimeMonitor.cached_append_same, ← sound.room point.metric]
      rw [BoundedDeque.push_rtake (sound.room point.metric ▸ sound.caches point.metric)]
      simp
    · rw [RealTimeMonitor.cached_append_other same, sound.caches metric]
      simp [Ne.symm same]
  consecutive := sound.consecutive
  found t w member := (sound.found t w member).later (List.prefix_append _ _)
  calm := sound.calm
  quiet := sound.quiet

theorem does_append (lasts : Lasts known) (point : DataPoint F) :
    Does env config task (Holds env config task known)
      (modify fun g => g.append point : Task F PUnit) (Holds env config task known) := by
  intro g holds
  exact holds_change lasts holds (holds.sound.append point) rfl rfl (List.prefix_append _ _)

end Changes

section Tasks

theorem does_awaited (lasts : Lasts known) (request : Call)
    (answered : Answer request → Except Interrupt Unit) :
    Does env config task (Holds env config task known) (awaited request answered)
      (Holds env config task known) :=
  (Holds.closed env config task lasts).awaited fun answer => closed_outcome (Holds.closed env config task lasts) (answered answer)

theorem does_acquireLock (lasts : Lasts known) : Does env config task (Holds env config task known)
    acquireLock (Holds env config task known) := by
  have closed := Holds.closed env config task lasts
  refine closed.bind closed.get fun _ => Triple.ite (fun _ => ?_) fun _ => does_setLocked lasts true
  refine closed.awaited fun wake => ?_
  cases wake with
  | woken => exact does_setLocked lasts true
  | cancelled => exact closed.throw _

theorem does_ingestion (lasts : Lasts known) (point : DataPoint F) :
    Does env config task (Holds env config task known) (ingestion point)
      (Holds env config task known) := by
  have closed := Holds.closed env config task lasts
  have ingests : Does env config task (Holds env config task known) (ingest point)
      (Holds env config task known) :=
    closed.bind (does_awaited lasts (.validateDataSource point.source) id) fun _ => closed.bind (does_append lasts point) fun _ =>
      closed.bind (does_emit lasts fun _ => by decide) fun _ => closed.pure true
  have reports : Does env config task (Holds env config task known)
      (do emit "monitor.ingest.failure"; return false) (Holds env config task known) :=
    closed.bind (does_emit lasts fun _ => by decide) fun _ => closed.pure false
  have handled := closed_exceptException closed ingests fun _ => reports
  have locked := closed.finallyDo handled (does_setLocked lasts false)
  exact closed.bind (closed.bind (does_acquireLock lasts) fun _ => locked) fun _ => closed.pure ()

/-- Only a warning that does not raise lets the alert be emitted. -/
theorem does_triggerAction (lasts : Lasts known) (event : Event) :
    Does env config task (Holds env config task known) (triggerAction env config event)
      (Holds env config task known) := by
  have closed := Holds.closed env config task lasts
  have captures : Does env config task (Holds env config task known) (captureForensicData env event)
      (Holds env config task known) :=
    closed.bind (Closed.forM closed fun metric _ => does_touch lasts metric) fun _ =>
      closed.bind (closed_raiseIf closed _ _) fun _ => does_emit lasts fun _ => by decide
  refine Triple.ite (fun _ => ?_) fun _ => closed.pure ()
  by_cases warns : env.warning = true
  · rw [warns]
    exact closed.throw _
  · exact closed.bind (closed_raiseIf closed _ _) fun _ =>
      closed.bind (does_emit lasts fun on => absurd on warns) fun _ =>
        Triple.ite (fun _ => captures) fun _ => closed.pure ()

end Tasks

section Streams

def Linked (config : MonitoringConfig F) : Known F :=
  fun w ws _ => ∀ last ∈ ws.getLast?, Follows config last w

def Processed (env : Env F) (config : MonitoringConfig F) (rest : StreamWindow F → Prop) : Known F :=
  fun w ws accepted => Linked config w ws accepted ∧ Found env config accepted w ∧ rest w

theorem linked_lasts (config : MonitoringConfig F) : Lasts (Linked config) := fun _ _ _ _ _ linked => linked

theorem processed_lasts {rest : StreamWindow F → Prop} : Lasts (Processed env config rest) :=
  fun _ _ _ _ grows processed => ⟨processed.1, processed.2.1.later grows, processed.2.2⟩

omit [Field F] [LinearOrder F] in
theorem leaves_setCurrent {other : Nat} (different : other ≠ task) (w : StreamWindow F) :
    Leaves other g (g.setCurrent task w) where
  current := Function.update_of_ne different _ _
  yielded := rfl
  accepted := List.prefix_refl _

theorem Sound.setCurrent (sound : Sound env config g) (w : StreamWindow F) :
    Sound env config (g.setCurrent task w) :=
  ⟨sound.limit, sound.buffer, sound.room, sound.caches, sound.consecutive, sound.found, sound.calm,
    sound.quiet⟩

theorem wp_setCurrent (known : Known F) {exn : Interrupt → RealTimeMonitor F → Prop}
    (w : StreamWindow F) (sound : Sound env config g) (knows : known w (g.yielded task) g.accepted) :
    wp (orderly env config) task (fun _ => Holds env config task known) exn
      (modify fun g => g.setCurrent task w : Task F PUnit) g := by
  refine ⟨fun other different => leaves_setCurrent different w, sound.setCurrent w, ?_⟩
  have isSet : (g.setCurrent task w).current task = w := Function.update_self task _ _
  rw [isSet]
  exact knows

theorem correlateEvents_saturated {window : StreamWindow F} (saturated : Saturated window.anomalies) :
    correlateEvents window =
      [⟨"resource_saturation", ["cpu_usage", "memory_usage"], window.ending⟩] := by
  rw [correlateEvents, saturated.1, saturated.2]
  rfl

theorem correlateEvents_calm {window : StreamWindow F} (calm : ¬ Saturated window.anomalies) :
    correlateEvents window = [] :=
  if_neg fun both => calm ((Bool.and_eq_true _ _).mp both)

/-- The keywords of the warning raise before the alert. -/
theorem triggerActions_raises (window : StreamWindow F) (saturated : Saturated window.anomalies)
    (warns : env.warning = true) :
    triggerActions env config (correlateEvents window) = raise (badKeyword "type") := by
  rw [correlateEvents_saturated saturated, triggerActions, List.forM, triggerAction, if_pos rfl, raiseIf,
    if_pos warns]
  rfl

theorem does_triggerActions {window : StreamWindow F} :
    Triple (orderly env config) task
      (Holds env config task (Processed env config fun w => w.anomalies = window.anomalies))
      (triggerActions env config (correlateEvents window))
      (fun _ => Holds env config task (Processed env config (Calm env)))
      fun _ => Holds env config task (Linked config) := by
  intro g holds
  obtain ⟨linked, found, same⟩ := holds.known
  have failing (rest : StreamWindow F → Prop) (h : RealTimeMonitor F)
      (processed : Holds env config task (Processed env config rest) h) :
      Holds env config task (Linked config) h := ⟨processed.sound, processed.known.1⟩
  by_cases saturated : Saturated window.anomalies
  · by_cases warns : env.warning = true
    · rw [triggerActions_raises window saturated warns]
      exact failing _ g holds
    · have calm : Calm env (g.current task) := fun on => absurd on warns
      have lasts : Lasts (Processed env config (Calm env)) := processed_lasts
      have closed := Holds.closed env config task lasts
      refine wp_mono (Closed.forM closed (fun event _ => does_triggerAction lasts event) g
        ⟨holds.sound, linked, found, calm⟩) (fun _ _ ready => ready) fun _ h => failing _ h
  · rw [correlateEvents_calm saturated]
    exact ⟨holds.sound, linked, found, fun _ => by rwa [same]⟩

theorem does_complete : Triple (orderly env config) task (Holds env config task (Linked config))
    (complete env config task)
    (fun _ => Holds env config task (Processed env config (Calm env)))
    fun _ => Holds env config task (Linked config) := by
  intro g holds
  let window := { g.current task with anomalies := detectAnomalies env config g.streamBuffer.items }
  have found : Found env config g.accepted window :=
    ⟨g.accepted.length, le_rfl, by rw [List.take_length, ← holds.sound.buffer]⟩
  refine (wp_bind _ _ _).mpr ((wp_get g).mpr ((wp_bind _ _ _).mpr ?_))
  refine wp_mono (wp_setCurrent (Processed env config fun w => w = window) window holds.sound
    ⟨holds.known, found, rfl⟩) (fun _ h analysed => ?_) fun _ _ failed => failed
  obtain ⟨linked, found, same⟩ := analysed.known
  refine (wp_bind _ _ _).mpr (wp_orRaise (fun stats _ => (wp_bind _ _ _).mpr ?_) fun e _ => ?_)
  · rw [same] at linked found
    refine wp_mono (wp_setCurrent (Processed env config fun w => w.anomalies = window.anomalies)
      { window with stats := some stats } analysed.sound ⟨linked, found, rfl⟩) ?_ fun _ _ failed => failed
    exact fun _ t stored => does_triggerActions t stored
  · exact ⟨analysed.sound, linked⟩

theorem Sound.setYielded {ws : List (StreamWindow F)} (sound : Sound env config g)
    (consecutive : ws.IsChain (Follows config))
    (genuine : ∀ w ∈ ws, Found env config g.accepted w ∧ Calm env w) :
    Sound env config (g.setYielded task ws) := by
  have yields (t : Nat) : (g.setYielded task ws).yielded t = ws ∨
      (g.setYielded task ws).yielded t = g.yielded t := by
    by_cases same : t = task
    · exact .inl (same ▸ Function.update_self _ _ _)
    · exact .inr (Function.update_of_ne same _ _)
  refine { sound with consecutive := fun t => ?_, found := fun t w member => ?_, calm := fun t w member => ?_ }
  all_goals rcases yields t with new | old
  · rw [new]
    exact consecutive
  · rw [old]
    exact sound.consecutive t
  · exact (genuine w (new ▸ member)).1
  · exact sound.found t w (old ▸ member)
  · exact (genuine w (new ▸ member)).2
  · exact sound.calm t w (old ▸ member)

theorem does_yieldWindow : Triple (orderly env config) task
    (Holds env config task (Processed env config (Calm env))) (yieldWindow config task)
    (fun _ => Holds env config task (Linked config)) fun _ => Holds env config task (Linked config) := by
  intro g holds
  obtain ⟨linked, found, calm⟩ := holds.known
  have sound := holds.sound
  have chain : (g.yielded task ++ [g.current task]).IsChain (Follows config) := by
    refine List.isChain_append.mpr ⟨sound.consecutive task, .singleton _, fun last isLast w isNext => ?_⟩
    obtain rfl := Option.mem_some.mp isNext
    exact linked last isLast
  have later : Sound env config (g.setYielded task (g.yielded task ++ [g.current task])) := by
    refine sound.setYielded chain fun w member => ?_
    rcases List.mem_append.mp member with old | new
    · exact ⟨sound.found task w old, sound.calm task w old⟩
    · obtain rfl := List.mem_singleton.mp new
      exact ⟨found, calm⟩
  refine (wp_bind _ _ _).mpr ⟨fun other different => ?_, ?_⟩
  · exact ⟨rfl, Function.update_of_ne different _ _, List.prefix_refl _⟩
  refine And.intro later fun (_ : Unit) h leaves sound _ => ?_
  refine wp_setCurrent (Linked config) _ sound fun last isLast => ?_
  have yielded : h.yielded task = g.yielded task ++ [g.current task] :=
    leaves.yielded.trans (Function.update_self _ _ _)
  have isWindow : last = h.current task := by
    rw [yielded, List.getLast?_concat] at isLast
    exact (Option.mem_some.mp isLast).symm.trans leaves.current.symm
  exact ⟨congrArg StreamWindow.ending isWindow.symm, rfl⟩

theorem does_process : Does env config task (Holds env config task (Linked config))
    (process env config task) (Holds env config task (Linked config)) := by
  have closed := Holds.closed env config task (linked_lasts config)
  have yields : Does env config task (Holds env config task (Linked config))
      (do complete env config task; yieldWindow config task) (Holds env config task (Linked config)) :=
    does_complete.bind fun _ => does_yieldWindow
  refine closed.called fun (now : Int) => closed.bind (closed.bind closed.get fun g => ?_) fun _ =>
    does_awaited (linked_lasts config) .sleep id
  exact Triple.ite (fun _ => yields) fun _ => closed.pure ()

theorem does_pass : Does env config task (Holds env config task (Linked config))
    (pass env config task) (Holds env config task (Linked config)) := by
  have closed := Holds.closed env config task (linked_lasts config)
  have exits : Does env config task (Holds env config task (Linked config)) breakerExit
      (Holds env config task (Linked config)) := closed.awaited fun exited => closed_outcome closed exited
  have within := closed_asyncWith closed (does_awaited (linked_lasts config) .breakerEnter id) exits does_process
  exact closed_exceptException closed within fun _ =>
    closed.bind (does_awaited (linked_lasts config) .nextDelay id) fun _ => does_awaited (linked_lasts config) .sleep id

theorem does_passes (rounds : Nat) : Does env config task (Holds env config task (Linked config))
    (passes env config task rounds) (Holds env config task (Linked config)) := by
  have closed := Holds.closed env config task (linked_lasts config)
  induction rounds with
  | zero => exact closed.pure ()
  | succ n ih => exact closed.bind does_pass fun _ => ih

theorem does_processStream (rounds : Nat) : Does env config task (Sound env config)
    (processStream env config task rounds) (Sound env config) := by
  intro g sound start now
  have nothing : (g.setYielded task []).yielded task = [] := Function.update_self _ _ _
  have begun : Sound env config (g.setYielded task []) := sound.setYielded .nil (fun _ none => nomatch none)
  refine (wp_bind _ _ _).mpr ⟨fun other different => ?_, ?_⟩
  · exact ⟨Function.update_of_ne different _ _, Function.update_of_ne different _ _, List.prefix_refl _⟩
  · refine wp_mono (does_passes rounds _ ⟨begun.setCurrent _, fun last isLast => ?_⟩)
      (fun _ _ ended => ended.sound) fun _ _ failed => failed.sound
    change last ∈ ((g.setYielded task []).yielded task).getLast? at isLast
    rw [nothing] at isLast
    cases isLast

end Streams

section Runs

variable {c : Config (RealTimeMonitor F) Answer Interrupt Unit}

theorem sound_init : Sound env config (.init config) where
  limit := rfl
  buffer := (List.rtake_nil _).symm
  room _ := rfl
  caches _ := (List.rtake_nil _).symm
  consecutive _ := .nil
  found _ _ none := nomatch none
  calm _ _ none := nomatch none
  quiet _ := List.not_mem_nil

theorem reaches_sound (reached : Reaches env config c) : Sound env config c.shared := by
  have runs (task : Nat) (x : Task F Unit) (isTask : IsTask env config task x) :
      Does env config task (Sound env config) x (Sound env config) := by
    rcases isTask with ⟨rounds, rfl⟩ | ⟨point, rfl⟩
    · exact does_processStream rounds
    · have lasts : Lasts (F := F) fun _ _ _ => True := fun _ _ _ _ _ _ => trivial
      exact (does_ingestion lasts point).conseq (fun _ sound => ⟨sound, trivial⟩)
        (fun _ _ holds => holds.sound) fun _ _ holds => holds.sound
  exact reachable_inv (D := orderly env config) runs (fun _ _ sound _ => sound)
    (fun _ _ sound => ⟨sound, trivial⟩) sound_init (fun _ => trivial) reached

/-- However points are ingested meanwhile and whatever raises, the windows that a stream
yields follow each other without a gap, and each has the anomalies of the last points that
were accepted by some time. -/
theorem windows_consecutive (env : Env F) (config : MonitoringConfig F)
    (c : Config (RealTimeMonitor F) Answer Interrupt Unit) (reached : Reaches env config c) (t : Nat) :
    (c.shared.yielded t).IsChain (Follows config) ∧
    ∀ w ∈ c.shared.yielded t, Found env config c.shared.accepted w :=
  ⟨(reaches_sound reached).consecutive t, (reaches_sound reached).found t⟩

/-- Where the logger warns, no saturated window is yielded and no alert is emitted. -/
theorem saturated_withheld (env : Env F) (config : MonitoringConfig F)
    (c : Config (RealTimeMonitor F) Answer Interrupt Unit) (reached : Reaches env config c)
    (warns : env.warning = true) :
    (∀ t, ∀ w ∈ c.shared.yielded t, ¬ Saturated w.anomalies) ∧
    "monitor.alert.resource_saturation" ∉ c.shared.emitted :=
  ⟨fun t w member => (reaches_sound reached).calm t w member warns, (reaches_sound reached).quiet warns⟩

/-- The buffer has the last points that were accepted, and the cache of a metric those of
that metric, in the order in which they were. -/
theorem buffers_latest (env : Env F) (config : MonitoringConfig F)
    (c : Config (RealTimeMonitor F) Answer Interrupt Unit) (reached : Reaches env config c) :
    c.shared.streamBuffer.items = c.shared.accepted.rtake (capacity config) ∧
    ∀ metric, (c.shared.cached metric).items =
      (c.shared.accepted.filter fun p => p.metric = metric).rtake 1000 :=
  ⟨(reaches_sound reached).buffer, (reaches_sound reached).caches⟩

end Runs

section Anomalies

variable {points : List (DataPoint F)}

theorem detectAnomalies_cases (env : Env F) (config : MonitoringConfig F) (points : List (DataPoint F)) :
    detectAnomalies env config points = [] ∨ std env (points.map DataPoint.value) ≠ 0 ∧ detectAnomalies env config points =
      points.filter fun p => config.anomalyThreshold <
        |(p.value - Spread.mean (points.map DataPoint.value)) / std env (points.map DataPoint.value)| := by
  by_cases few : points.length < 10
  · exact .inl (if_pos few)
  · by_cases same : std env (points.map DataPoint.value) = 0
    · exact .inl ((if_neg few).trans (if_pos same))
    · exact .inr ⟨same, (if_neg few).trans (if_neg same)⟩

variable [IsStrictOrderedRing F] (root : ∀ x, 0 ≤ x → env.sqrt x * env.sqrt x = x)

include root

/-- Of any points only a share are anomalies. -/
theorem detectAnomalies_few :
    (detectAnomalies env config points).length * config.anomalyThreshold ^ 2 ≤ points.length := by
  rcases detectAnomalies_cases env config points with none | ⟨varies, some⟩
  · rw [none, List.length_nil, Nat.cast_zero, zero_mul]
    exact Nat.cast_nonneg _
  · have sub : ((detectAnomalies env config points).map DataPoint.value).Sublist
        (points.map DataPoint.value) := by
      rw [some]
      exact List.filter_sublist.map _
    have far := Spread.count_scores_le (root _ (Spread.variance_nonneg _)) varies
      config.anomalyThreshold_pos.le _ sub fun v member => ?_
    · rwa [List.length_map, List.length_map] at far
    · obtain ⟨p, within, rfl⟩ := List.mem_map.mp member
      rw [some] at within
      exact of_decide_eq_true (List.mem_filter.mp within).2

theorem detectAnomalies_nil (few : (points.length : F) - 1 ≤ config.anomalyThreshold ^ 2) :
    detectAnomalies env config points = [] := by
  rcases detectAnomalies_cases env config points with none | ⟨varies, some⟩
  · exact none
  · rw [some]
    refine List.filter_eq_nil_iff.mpr fun p member beyond => ?_
    have near := Spread.score_le_of_few (root _ (Spread.variance_nonneg _)) varies
      config.anomalyThreshold_pos.le (List.mem_map_of_mem member) (by rwa [List.length_map])
    exact absurd (of_decide_eq_true beyond) (not_lt.mpr near)

end Anomalies

/-- In exact arithmetic the anomalies of a window are limited by the square of the threshold:
they are at most that share of the points that can be buffered, and when these are no more
than one above it there are none. -/
theorem anomalies_bounded [IsStrictOrderedRing F] (env : Env F) (config : MonitoringConfig F)
    (root : ∀ x, 0 ≤ x → env.sqrt x * env.sqrt x = x)
    (c : Config (RealTimeMonitor F) Answer Interrupt Unit) (reached : Reaches env config c) (t : Nat)
    (w : StreamWindow F) (yields : w ∈ c.shared.yielded t) :
    w.anomalies.length * config.anomalyThreshold ^ 2 ≤
      (min c.shared.accepted.length (capacity config) : Nat) ∧
    (((min c.shared.accepted.length (capacity config) : Nat) : F) - 1 ≤ config.anomalyThreshold ^ 2 →
      w.anomalies = []) := by
  obtain ⟨n, within, found⟩ := (reaches_sound reached).found t w yields
  have buffered : (((c.shared.accepted.take n).rtake (capacity config)).length : F) ≤
      (min c.shared.accepted.length (capacity config) : Nat) := by
    refine Nat.cast_le.mpr ?_
    rw [List.rtake, List.length_drop, List.length_take]
    omega
  rw [found]
  refine ⟨(detectAnomalies_few root).trans buffered, fun few => detectAnomalies_nil root ?_⟩
  exact (sub_le_sub_right buffered 1).trans few

section Stuck

variable {i : Nat} {items : List (DataPoint F)} {yields : Nat → List (StreamWindow F)}

def Stuck (items : List (DataPoint F)) (yields : Nat → List (StreamWindow F))
    (g : RealTimeMonitor F) : Prop :=
  g.streamBuffer.items = items ∧ ∀ t, ∀ w ∈ g.yielded t, w ∈ yields t

theorem complete_raises (warns : env.warning = true)
    (saturated : Saturated (detectAnomalies env config items)) :
    Triple (.ofInvariant served (Stuck items yields)) i (Stuck items yields)
      (complete env config task) (fun _ _ => False) fun _ => Stuck items yields := by
  rintro g ⟨rfl, same⟩
  let window := { g.current task with anomalies := detectAnomalies env config g.streamBuffer.items }
  refine (wp_bind _ _ _).mpr ((wp_get g).mpr ((wp_bind _ _ _).mpr ⟨fun _ _ => trivial, ?_⟩))
  refine (wp_bind _ _ _).mpr (wp_orRaise (fun stats _ => ?_) fun _ _ => ⟨rfl, same⟩)
  refine (wp_bind _ _ _).mpr ⟨fun _ _ => trivial, ?_⟩
  rw [triggerActions_raises window saturated warns]
  exact ⟨rfl, same⟩

theorem preserves_pass (warns : env.warning = true)
    (saturated : Saturated (detectAnomalies env config items)) :
    Preserves served (Stuck items yields) (pass env config task) := by
  have closed : Closed fun {_} (x : Task F _) => Preserves served (Stuck items yields) x :=
    Preserves.closed _ _
  have waits (request : Call) (answered : Answer request → Except Interrupt Unit) :
      Preserves served (Stuck items yields) (awaited request answered : Task F Unit) :=
    closed.awaited fun answer => closed_outcome closed (answered answer)
  have due : Preserves served (Stuck items yields)
      (do complete env config task; yieldWindow config task) :=
    fun i => (complete_raises warns saturated).bind fun _ _ never => never.elim
  have turns (now : Int) : Preserves served (Stuck items yields) (turn env config task now) :=
    closed.bind closed.get fun g => .ite due (.pure ())
  have runs : Preserves served (Stuck items yields) (process env config task) :=
    closed.called fun now => closed.bind (turns now) fun _ => waits .sleep id
  have exits : Preserves served (Stuck items yields) (breakerExit : Task F Bool) :=
    closed.awaited fun exited => closed_outcome closed exited
  have within := closed_asyncWith closed (waits .breakerEnter id) exits runs
  exact closed_exceptException closed within fun _ =>
    closed.bind (waits .nextDelay id) fun _ => waits .sleep id

theorem preserves_passes (warns : env.warning = true)
    (saturated : Saturated (detectAnomalies env config items)) (rounds : Nat) :
    Preserves served (Stuck items yields) (passes env config task rounds) := by
  induction rounds with
  | zero => exact .pure ()
  | succ n ih => exact (preserves_pass warns saturated).bind fun _ => ih

/-- Where the logger warns, no stream over a buffer with saturated anomalies yields anything
as long as nothing is ingested. -/
theorem saturated_stuck (env : Env F) (config : MonitoringConfig F) (warns : env.warning = true)
    (s : RealTimeMonitor F) (saturated : Saturated (detectAnomalies env config s.streamBuffer.items))
    (c : Config (RealTimeMonitor F) Answer Interrupt Unit)
    (reached : Reachable served (fun task x => ∃ rounds, x = processStream env config task rounds) s c)
    (t : Nat) (w : StreamWindow F) (yielded : w ∈ c.shared.yielded t) : w ∈ s.yielded t := by
  have streams (i : Nat) (x : Task F Unit) (isStream : ∃ rounds, x = processStream env config i rounds) :
      Preserves served (Stuck s.streamBuffer.items s.yielded) x := by
    obtain ⟨rounds, rfl⟩ := isStream
    refine .bind (.call _) fun start => .bind (.call _) fun now => .bind (.modify ?_) fun _ =>
      preserves_passes warns saturated rounds
    rintro g ⟨same, old⟩
    refine ⟨same, fun u v member => ?_⟩
    change v ∈ Function.update g.yielded i [] u at member
    by_cases mine : u = i
    · rw [mine, Function.update_self] at member
      cases member
    · rw [Function.update_of_ne mine] at member
      exact old u v member
  exact (reachable_invariant streams ⟨rfl, fun _ _ member => member⟩ reached).2 t w yielded

end Stuck

section Yields

/-- Every call is answered at once, and the clock shows one time. -/
def clock (time : Int) (_ : Nat) : (request : Call) → Answer request
  | .utcnow => time
  | .emit _ => .ok ()
  | .lock => .woken
  | .validateDataSource _ => .ok ()
  | .breakerEnter => .ok ()
  | .breakerExit => .ok false
  | .nextDelay => .ok ()
  | .sleep => .ok ()
  | .consumer => ()

variable {time : Int} {points anomalies : List (DataPoint F)} {percentile : Option F}

abbrev May {α : Type} (task : Nat) (time : Int) (x : Task F α) (post : RealTimeMonitor F → Prop)
    (g : RealTimeMonitor F) : Prop :=
  may (served task) (clock time 0) (fun _ => False) (fun _ => post) x g

omit [Field F] [LinearOrder F] in
theorem may_ingestion (free : g.locked = false) (point : DataPoint F) :
    May task time (ingestion point)
      (fun h => h.locked = false ∧ h.accepted = g.accepted ++ [point]) g := by
  cases g
  cases free
  exact .inr ⟨.ok (), trivial, rfl, rfl⟩

theorem reaches_ingested (env : Env F) (config : MonitoringConfig F) (points : List (DataPoint F)) :
    ∃ c, Reaches env config c ∧ (∀ t, c.tasks t = none) ∧ c.shared.locked = false ∧
      c.shared.accepted = points := by
  induction points using List.reverseRecOn with
  | nil => exact ⟨_, .refl, fun _ => rfl, rfl, rfl⟩
  | append_singleton points point ih =>
    obtain ⟨c, reached, idle, free, rfl⟩ := ih
    have called := reached.spawn 0 (x := ingestion point) (fun _ => clock 0 0) (idle 0) (.inr ⟨point, rfl⟩)
    obtain ⟨d, later, others, never | ⟨ended, _, unlocked, accepted⟩⟩ :=
      reachable_of_may (may_ingestion free point) called
    · exact never.elim
    · refine ⟨d, later, fun t => ?_, unlocked, accepted⟩
      by_cases same : t = 0
      · rw [same, ended]
      · rw [others t same, idle t]

structure Yielded (task n : Nat) (anomalies : List (DataPoint F)) (g h : RealTimeMonitor F) : Prop where
  accepted : h.accepted = g.accepted
  buffer : h.streamBuffer = g.streamBuffer
  windows : (h.yielded task).map StreamWindow.anomalies =
    (g.yielded task).map StreamWindow.anomalies ++ List.replicate n anomalies

/-- A window that has ended is yielded where its anomalies lead to no event. -/
theorem may_turn (ended : (g.current task).ending ≤ time)
    (found : detectAnomalies env config g.streamBuffer.items = anomalies)
    (known : env.percentile (anomalies.map DataPoint.value) 95 = .ok percentile)
    (calm : ¬ Saturated anomalies) :
    May task time (turn env config task time) (fun h => Yielded task 1 anomalies g h ∧
      (h.current task).ending = after (g.current task).ending config.correlationInterval) g := by
  subst found
  let window := { g.current task with anomalies := detectAnomalies env config g.streamBuffer.items }
  change May task time (if (g.current task).ending ≤ time then _ else _) _ g
  rw [if_pos ended]
  refine may_bind ?_
  change may _ _ _ _ (orRaise (calculateStatistics env window.anomalies) >>= _) (g.setCurrent task window)
  rw [calculateStatistics, known]
  change may _ _ _ _ (triggerActions env config (correlateEvents window)) _
  rw [correlateEvents_calm calm]
  refine .inr ⟨(), trivial, ⟨rfl, rfl, ?_⟩, ?_⟩
  · simp [RealTimeMonitor.setYielded, RealTimeMonitor.setCurrent, window]
  · simp [RealTimeMonitor.setYielded, RealTimeMonitor.setCurrent, window]

theorem may_pass (ended : (g.current task).ending ≤ time)
    (found : detectAnomalies env config g.streamBuffer.items = anomalies)
    (known : env.percentile (anomalies.map DataPoint.value) 95 = .ok percentile)
    (calm : ¬ Saturated anomalies) :
    May task time (pass env config task) (fun h => Yielded task 1 anomalies g h ∧
      (h.current task).ending = after (g.current task).ending config.correlationInterval) g := by
  refine may_tryCatch (.inr ⟨.ok (), trivial, ?_⟩)
  change may _ _ _ _ (attempt (process env config task) >>= _) g
  refine may_bind (may_attempt ?_)
  change may _ _ _ _ (turn env config task time >>= _) g
  refine may_bind (may_mono (may_turn ended found known calm) fun _ h yielded => ?_)
  exact .inr ⟨.ok (), trivial, .inr ⟨.ok false, trivial, yielded⟩⟩

theorem may_passes (n : Nat)
    (ended : (g.current task).ending + 1000000 * config.correlationInterval * n ≤ time)
    (found : detectAnomalies env config g.streamBuffer.items = anomalies)
    (known : env.percentile (anomalies.map DataPoint.value) 95 = .ok percentile)
    (calm : ¬ Saturated anomalies) :
    May task time (passes env config task n) (Yielded task n anomalies g) g := by
  induction n generalizing g with
  | zero => exact ⟨rfl, rfl, (List.append_nil _).symm⟩
  | succ n ih =>
    have length : 0 ≤ 1000000 * (config.correlationInterval : Int) * (n + 1 : Nat) := by positivity
    have now : (g.current task).ending ≤ time := le_trans (le_add_of_nonneg_right length) ended
    refine may_bind (may_mono (may_pass now found known calm) ?_)
    rintro _ h ⟨first, later⟩
    refine may_mono (ih ?_ ?_) fun _ k rest =>
      ⟨rest.accepted.trans first.accepted, rest.buffer.trans first.buffer, ?_⟩
    · rw [later, after]
      push_cast at ended ⊢
      linarith
    · rw [first.buffer, found]
    · rw [rest.windows, first.windows, List.append_assoc]
      rfl

/-- Whatever points a stream finds, it can yield as many windows as it likes with their
anomalies, where these lead to no event. -/
theorem reaches_yielded (env : Env F) (config : MonitoringConfig F) (points : List (DataPoint F)) (n : Nat)
    (found : detectAnomalies env config (points.rtake (capacity config)) = anomalies)
    (known : env.percentile (anomalies.map DataPoint.value) 95 = .ok percentile)
    (calm : ¬ Saturated anomalies) :
    ∃ c, Reaches env config c ∧ c.shared.accepted = points ∧
      (c.shared.yielded 0).map StreamWindow.anomalies = List.replicate (n + 1) anomalies := by
  obtain ⟨c, reached, idle, _, rfl⟩ := reaches_ingested env config points
  let late : Int := 1000000 * config.correlationInterval * (n + 2)
  let window : StreamWindow F := ⟨0, after 0 config.correlationInterval, none, []⟩
  have begun := reached.spawn 0 (x := processStream env config 0 (n + 1)) (clock 0) (idle 0) (.inl ⟨_, rfl⟩)
  have buffered : c.shared.streamBuffer.items = c.shared.accepted.rtake (capacity config) :=
    (reaches_sound reached).buffer
  have intime : (((c.shared.setYielded 0 []).setCurrent 0 window).current 0).ending +
      1000000 * config.correlationInterval * (n + 1 : Nat) ≤ late := by
    simp only [RealTimeMonitor.setCurrent, Function.update_self, window, after, late]
    push_cast
    linarith
  have goes : May 0 late (passes env config 0 (n + 1)) _ ((c.shared.setYielded 0 []).setCurrent 0 window) :=
    may_passes (n + 1) intime ((congrArg _ buffered).trans found) known calm
  rcases goes with never | ⟨entered, _, rest⟩
  · exact never.elim
  · obtain ⟨d, later, _, never | ⟨_, _, yielded⟩⟩ := reachable_of_may rest
      (begun.resume 0 .breakerEnter entered (fun _ => clock late 0) rfl trivial)
    · exact never.elim
    · refine ⟨d, later, yielded.accepted, yielded.windows.trans ?_⟩
      simp [RealTimeMonitor.setYielded, RealTimeMonitor.setCurrent]

end Yields

section Instance

/-- The one deviation that is asked for is that of two values of 100 and eight of 0. -/
def decimal : Env Rat where
  sqrt x := if x = 1600 then 40 else 0
  percentile _ _ := .ok none
  warning := true
  info := true

def narrow : MonitoringConfig Rat where
  samplingRate := 10
  retentionWindow := 1
  anomalyThreshold := 1
  correlationInterval := 10
  enableForensic := true
  samplingRate_pos := by decide
  retentionWindow_pos := by decide
  anomalyThreshold_pos := by decide
  correlationInterval_pos := by decide

def point (metric : String) (value : Rat) : DataPoint Rat := ⟨metric, value, "node-1"⟩

def smouldering : List (DataPoint Rat) :=
  List.replicate 8 (point "disk_usage" 0) ++ List.replicate 2 (point "cpu_usage" 100)

theorem reaches_smouldering : ∃ c, Reaches decimal narrow c ∧ c.shared.accepted = smouldering ∧
    (c.shared.yielded 0).map StreamWindow.anomalies =
      List.replicate 2 (List.replicate 2 (point "cpu_usage" 100)) := by
  refine reaches_yielded decimal narrow smouldering 1 (by decide +kernel) rfl fun saturated => ?_
  exact absurd saturated.2 (by decide)

theorem windows_followed : ∃ c : Config (RealTimeMonitor Rat) Answer Interrupt Unit,
    (c.shared.yielded 0).map (fun w => w.anomalies.length) = [2, 2] ∧
    (c.shared.yielded 0).IsChain (Follows narrow) ∧
    ∀ w ∈ c.shared.yielded 0, Found decimal narrow c.shared.accepted w := by
  obtain ⟨c, reached, _, yielded⟩ := reaches_smouldering
  have lengths := congrArg (List.map List.length) yielded
  rw [List.map_map] at lengths
  exact ⟨c, lengths, windows_consecutive decimal narrow c reached 0⟩

theorem calm_yielded : ∃ c : Config (RealTimeMonitor Rat) Answer Interrupt Unit,
    (∃ w ∈ c.shared.yielded 0, point "cpu_usage" 100 ∈ w.anomalies) ∧
    (∀ t, ∀ w ∈ c.shared.yielded t, ¬ Saturated w.anomalies) ∧
    "monitor.alert.resource_saturation" ∉ c.shared.emitted := by
  obtain ⟨c, reached, _, yielded⟩ := reaches_smouldering
  have hot : List.replicate 2 (point "cpu_usage" 100) ∈ (c.shared.yielded 0).map StreamWindow.anomalies :=
    yielded ▸ List.mem_cons_self
  obtain ⟨w, member, anomalies⟩ := List.mem_map.mp hot
  exact ⟨c, ⟨w, member, anomalies ▸ List.mem_cons_self⟩, saturated_withheld decimal narrow c reached rfl⟩

theorem latest_buffered : ∃ c : Config (RealTimeMonitor Rat) Answer Interrupt Unit,
    c.shared.accepted = [point "cpu_usage" 95, point "memory_usage" 20] ∧
    c.shared.streamBuffer.items = c.shared.accepted.rtake 10 := by
  have idle : Reaches decimal narrow (.init (.init narrow)) := .refl
  have called := idle.spawn 0 (x := ingestion (point "cpu_usage" 95)) (clock 0) rfl (.inr ⟨_, rfl⟩)
  have ingested := called.resume 0 (.validateDataSource "node-1") (.ok ()) (clock 0) rfl trivial
  have again := ingested.spawn 0 (x := ingestion (point "memory_usage" 20)) (clock 0) rfl (.inr ⟨_, rfl⟩)
  have both := again.resume 0 (.validateDataSource "node-1") (.ok ()) (clock 0) rfl trivial
  exact ⟨_, rfl, (buffers_latest decimal narrow _ both).1⟩

noncomputable def analytic : Env Real where
  sqrt := Real.sqrt
  percentile _ _ := .ok none
  warning := true
  info := true

def usual : MonitoringConfig Real where
  samplingRate := 10
  retentionWindow := 1
  anomalyThreshold := 3
  correlationInterval := 10
  enableForensic := true
  samplingRate_pos := by decide
  retentionWindow_pos := by decide
  anomalyThreshold_pos := by norm_num
  correlationInterval_pos := by decide

/-- The last of ten points is three deviations from their mean, which is not beyond it. -/
def remarkable : List (DataPoint Real) :=
  List.replicate 9 ⟨"disk_usage", 0, "node-1"⟩ ++ [⟨"cpu_usage", 95, "node-1"⟩]

theorem ten_unremarkable : ∃ c : Config (RealTimeMonitor Real) Answer Interrupt Unit,
    c.shared.accepted = remarkable ∧ (c.shared.yielded 0).length = 1 ∧
    ∀ w ∈ c.shared.yielded 0, w.anomalies = [] := by
  have root : ∀ x : Real, 0 ≤ x → analytic.sqrt x * analytic.sqrt x = x :=
    fun x nonneg => Real.mul_self_sqrt nonneg
  have ten : ((10 : Nat) : Real) - 1 ≤ usual.anomalyThreshold ^ 2 := by
    change ((10 : Nat) : Real) - 1 ≤ 3 ^ 2
    norm_num
  obtain ⟨c, reached, accepted, yielded⟩ := reaches_yielded analytic usual remarkable 0
    (detectAnomalies_nil root ten) rfl fun saturated => absurd saturated.1 (by decide)
  have bounded := anomalies_bounded analytic usual root c reached 0
  rw [accepted] at bounded
  have one := congrArg List.length yielded
  rw [List.length_map] at one
  exact ⟨c, accepted, one, fun w member => (bounded w member).2 ten⟩

def burning : RealTimeMonitor Rat :=
  let quiet := List.replicate 8 (point "disk_usage" 0)
  (quiet ++ [point "cpu_usage" 100, point "memory_usage" 100]).foldl RealTimeMonitor.append (.init narrow)

theorem burning_stuck : ∃ c : Config (RealTimeMonitor Rat) Answer Interrupt Unit,
    c.shared.emitted = [] ∧ ∀ t, ∀ w ∈ c.shared.yielded t, w ∈ burning.yielded t := by
  have saturated : Saturated (detectAnomalies decimal narrow burning.streamBuffer.items) := by
    constructor <;> decide +kernel
  have idle : Reachable served (fun task x => ∃ rounds, x = processStream decimal narrow task rounds)
      burning (.init burning) := .refl
  have begun := idle.spawn 0 (x := processStream decimal narrow 0 2) (clock 0) rfl ⟨2, rfl⟩
  have raised := begun.resume 0 .breakerEnter (.ok ()) (clock 10000000) rfl trivial
  refine ⟨_, ?_, saturated_stuck decimal narrow rfl burning saturated _ raised⟩
  decide +kernel

end Instance

end KuvaAI.Monitor
