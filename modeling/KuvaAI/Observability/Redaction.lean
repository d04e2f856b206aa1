import KuvaAI.Python.Value

/-! The redaction of log events in structured.py. The filter looks at the keys of the
event itself, so what a harmless key holds is passed on as it is. -/
namespace KuvaAI.Logging
open Python

section Filter

-- `str.lower`, and the configured `sensitive_keys`
variable (lower : String → String) (sensitiveKeys : List String)

/-- `any(sensitive in key.lower() for sensitive in config.sensitive_keys)`. -/
def isSensitive (key : String) : Bool :=
  sensitiveKeys.any fun sensitive => sensitive.toList <:+: (lower key).toList

def redacted : Value := .str "***REDACTED***"

def redactKeys (keys : List String) (eventDict : Dict String Value) : Dict String Value :=
  keys.foldl (fun eventDict key =>
    if isSensitive lower sensitiveKeys key then eventDict.set key redacted else eventDict) eventDict

/-- Assigning to a key that is there does not disturb the iteration. -/
def sensitiveDataFilter (eventDict : Dict String Value) : Dict String Value :=
  redactKeys lower sensitiveKeys eventDict.keys eventDict

theorem get?_redactKeys (keys : List String) (eventDict : Dict String Value) (key : String) :
    (redactKeys lower sensitiveKeys keys eventDict).get? key =
      if key ∈ keys ∧ isSensitive lower sensitiveKeys key = true then some redacted
      else eventDict.get? key := by
  unfold redactKeys
  induction keys generalizing eventDict with
  | nil => simp
  | cons first rest ih =>
    rw [List.foldl_cons, ih]
    by_cases same : key = first
    · subst same
      cases sensitive : isSensitive lower sensitiveKeys key <;> simp
    · cases sensitive : isSensitive lower sensitiveKeys first <;> simp [same, Dict.get?_set]

theorem get?_sensitiveDataFilter (eventDict : Dict String Value) (key : String) :
    (sensitiveDataFilter lower sensitiveKeys eventDict).get? key =
      (eventDict.get? key).map fun v => if isSensitive lower sensitiveKeys key then redacted else v := by
  unfold sensitiveDataFilter
  rw [get?_redactKeys]
  cases found : eventDict.get? key with
  | none =>
    have absent := (Dict.get?_eq_none_iff eventDict key).mp found
    simp [absent]
  | some v =>
    have present := (Dict.mem_keys_iff eventDict key).mpr ⟨v, found⟩
    cases isSensitive lower sensitiveKeys key <;> simp [present]

end Filter

/-- Two values that differ at most in what they store, at any depth, under hidden keys. -/
inductive Agree (hidden : String → Prop) : Value → Value → Prop where
  | same (v : Value) : Agree hidden v v
  | list {xs ys : List Value} (length : xs.length = ys.length)
      (items : ∀ (i : Nat) (v w : Value), xs[i]? = some v → ys[i]? = some w → Agree hidden v w) :
      Agree hidden (.list xs) (.list ys)
  | dict {xs ys : List (String × Value)}
      (keys : ∀ key, (xs.lookup key).isSome = (ys.lookup key).isSome)
      (values : ∀ key v w, xs.lookup key = some v → ys.lookup key = some w → ¬ hidden key →
        Agree hidden v w) :
      Agree hidden (.dict xs) (.dict ys)

/-- Equal values, whatever the order of their keys. -/
def Equal : Value → Value → Prop := Agree fun _ => False

theorem Equal.text {a b : String} (equal : Equal (.str a) (.str b)) : a = b := by
  cases equal
  rfl

theorem Equal.entry {xs ys : List (String × Value)} (equal : Equal (.dict xs) (.dict ys))
    {key : String} {v w : Value} (left : xs.lookup key = some v) (right : ys.lookup key = some w) :
    Equal v w := by
  cases equal with
  | same =>
    rw [left] at right
    cases right
    exact Agree.same v
  | dict _ values => exact values key v w left right not_false

def EventsAgree (hidden : String → Prop) (first second : Dict String Value) : Prop :=
  (∀ key, (first.get? key).isSome = (second.get? key).isSome) ∧
  ∀ key v w, first.get? key = some v → second.get? key = some w → ¬ hidden key → Agree hidden v w

def EventsEqual (first second : Dict String Value) : Prop :=
  (∀ key, (first.get? key).isSome = (second.get? key).isSome) ∧
  ∀ key v w, first.get? key = some v → second.get? key = some w → Equal v w

def ContainsWord (lower : String → String) (sensitiveKeys : List String) (key : String) : Prop :=
  ∃ word ∈ sensitiveKeys, word.toList <:+: key.toList ∨ word.toList <:+: (lower key).toList

/-- Two events that differ only under sensitive keys come out equal exactly if they hold
equal values under every key that is not sensitive itself: nothing below such a key is
redacted. -/
theorem redaction_hides_iff (lower : String → String) (sensitiveKeys : List String)
    (first second : Dict String Value)
    (agree : EventsAgree (ContainsWord lower sensitiveKeys) first second) :
    EventsEqual (sensitiveDataFilter lower sensitiveKeys first)
        (sensitiveDataFilter lower sensitiveKeys second) ↔
      ∀ key v w, first.get? key = some v → second.get? key = some w →
        isSensitive lower sensitiveKeys key = false → Equal v w := by
  unfold EventsEqual
  simp only [get?_sensitiveDataFilter, Option.isSome_map]
  constructor
  · rintro ⟨_, equal⟩ key v w left right harmless
    exact equal key v w (by simp [left, harmless]) (by simp [right, harmless])
  · intro kept
    refine ⟨agree.1, fun key v w left right => ?_⟩
    obtain ⟨v', first, rfl⟩ := Option.map_eq_some_iff.mp left
    obtain ⟨w', second, rfl⟩ := Option.map_eq_some_iff.mp right
    cases sensitive : isSensitive lower sensitiveKeys key with
    | true => exact Agree.same _
    | false => exact kept key v' w' first second sensitive

def signIn (password : String) : Dict String Value := Dict.empty.set "password" (.str password)

def startup (password : String) : Dict String Value :=
  Dict.empty.set "config" (.dict [("password", .str password)])

def defaultKeys : List String := ["password", "token", "secret"]

theorem containsWord_password : ContainsWord String.toLower defaultKeys "password" :=
  ⟨"password", by decide, .inl (List.infix_refl _)⟩

theorem startups_agree (one other : String) :
    EventsAgree (ContainsWord String.toLower defaultKeys) (startup one) (startup other) := by
  constructor
  · intro key
    unfold startup
    rw [Dict.get?_set, Dict.get?_set]
    split <;> rfl
  · intro key v w left right _
    unfold startup at left right
    rw [Dict.get?_set] at left right
    split at left
    · rename_i same
      rw [if_pos same] at right
      cases left
      cases right
      refine Agree.dict (fun k => ?_) (fun k v w left right visible => ?_)
      · simp only [List.lookup_cons]
        split <;> rfl
      · simp only [List.lookup_cons, List.lookup_nil] at left right
        split at left
        · rename_i same
          exact absurd ((beq_iff_eq.mp same) ▸ containsWord_password) visible
        · cases left
    · cases left

theorem startup_kept (password : String) :
    (sensitiveDataFilter String.toLower defaultKeys (startup password)).get? "config" =
      some (.dict [("password", .str password)]) := by
  have harmless : isSensitive String.toLower defaultKeys "config" = false := by decide +kernel
  rw [get?_sensitiveDataFilter]
  simp [startup, harmless]

theorem nested_password_kept :
    EventsAgree (ContainsWord String.toLower defaultKeys) (startup "hunter2") (startup "swordfish") ∧
    ¬ EventsEqual (sensitiveDataFilter String.toLower defaultKeys (startup "hunter2"))
      (sensitiveDataFilter String.toLower defaultKeys (startup "swordfish")) := by
  refine ⟨startups_agree "hunter2" "swordfish", fun equal => ?_⟩
  have nested := equal.2 "config" _ _ (startup_kept "hunter2") (startup_kept "swordfish")
  have stored : ∀ password : String, List.lookup "password" [("password", Value.str password)] =
      some (.str password) := fun _ => List.lookup_cons_self
  have texts := nested.entry (stored "hunter2") (stored "swordfish")
  exact absurd texts.text (by decide)

theorem redaction_hides_top_level :
    EventsEqual (sensitiveDataFilter String.toLower defaultKeys (signIn "hunter2"))
      (sensitiveDataFilter String.toLower defaultKeys (signIn "swordfish")) := by
  have read : ∀ (password key : String) (v : Value), (signIn password).get? key = some v →
      key = "password" := by
    intro password key v found
    unfold signIn at found
    rw [Dict.get?_set] at found
    split at found
    · assumption
    · cases found
  refine (redaction_hides_iff String.toLower defaultKeys (signIn "hunter2") (signIn "swordfish")
    ⟨fun key => ?_, fun key v w left _ visible => ?_⟩).mpr fun key v w left _ harmless => ?_
  · unfold signIn
    rw [Dict.get?_set, Dict.get?_set]
    split <;> rfl
  · rw [read _ key v left] at visible
    exact absurd containsWord_password visible
  · rw [read _ key v left] at harmless
    exact absurd harmless (by decide +kernel)

end KuvaAI.Logging
