import KuvaAI.Knowledge.RdfStore

/-! The two readings of a pattern compared. An access rule takes every field that is
not `None` as it stands; the where clause leaves out empty names and empty contexts,
and asks of a context only that the triple's contains it. -/
namespace KuvaAI.Rdf
open Python

section Readings

variable {V : Type} (objects : Objects V)

/-- A name that is given and not empty is this one. -/
def Names (given : Option String) (name : String) : Prop := ∀ s, given = some s → s ≠ "" → s = name

def Blank (p : TriplePattern V) : Prop := p.subject = some "" ∨ p.predicate = some ""

def ObjectEqual (p : TriplePattern V) (t : RDFTriple V) : Prop :=
  ∀ v, p.object = some v → ∃ w, t.object = some w ∧ objects.equal v w = true

def ObjectInColumn (p : TriplePattern V) (t : RDFTriple V) : Prop :=
  ∀ v, p.object = some v → ∃ w, t.object = some w ∧ objects.columnEqual w v = true

def ContextContained (p : TriplePattern V) (t : RDFTriple V) : Prop :=
  ∀ xs, p.context = some xs → ∀ x ∈ xs, x ∈ t.context

def ContextEqual (p : TriplePattern V) (t : RDFTriple V) : Prop :=
  ∀ xs, p.context = some xs → xs = t.context

theorem ContextEqual.contained {p : TriplePattern V} {t : RDFTriple V} (equal : ContextEqual p t) :
    ContextContained p t := by
  intro xs given x member
  exact equal xs given ▸ member

theorem nameClause_iff (clause : String → Clause V) (given : Option String) (t : RDFTriple V)
    (name : String) (reads : ∀ s, (clause s).satisfied objects t = decide (name = s)) :
    (∀ c ∈ (given.toList.filter (· ≠ "")).map clause, c.satisfied objects t = true) ↔
      Names given name := by
  cases given with
  | none => simp [Names]
  | some s =>
    by_cases empty : s = ""
    · simp [Names, empty]
    · have only : Names (some s) name ↔ name = s :=
        ⟨fun named => (named s rfl empty).symm, fun same r given _ => by cases given; exact same.symm⟩
      simp [only, empty, reads]

theorem satisfies_iff (p : TriplePattern V) (t : RDFTriple V) :
    satisfies objects p t = true ↔
      (Names p.subject t.subject ∧ Names p.predicate t.predicate) ∧ ObjectInColumn objects p t ∧
        ContextContained p t := by
  have subject := nameClause_iff objects .subject p.subject t t.subject (fun _ => rfl)
  have predicate := nameClause_iff objects .predicate p.predicate t t.predicate (fun _ => rfl)
  have object : (∀ c ∈ p.object.toList.map Clause.object, c.satisfied objects t = true) ↔
      ObjectInColumn objects p t := by
    simp [ObjectInColumn, Clause.satisfied, Option.any_eq_true]
  have context : (∀ c ∈ (p.context.toList.filter (· ≠ [])).map Clause.contextContains,
      c.satisfied objects t = true) ↔ ContextContained p t := by
    cases given : p.context with
    | none => simp [ContextContained, given]
    | some xs =>
      by_cases empty : xs = []
      · simp [ContextContained, given, empty]
      · simp [ContextContained, given, empty, Clause.satisfied]
  rw [satisfies, List.all_eq_true, buildWhereClause]
  simp only [List.forall_mem_append]
  rw [subject, predicate, object, context]
  tauto

theorem inName_iff {given : Option String} {name : String} (valid : validName name) :
    inNoneOr (· = ·) given (some name) = true ↔ Names given name ∧ given ≠ some "" := by
  cases given with
  | none => simp [inNoneOr, Names]
  | some s =>
    have nonempty : name ≠ "" := by
      rintro rfl
      exact absurd valid.1 (by decide)
    by_cases empty : s = ""
    · simp [inNoneOr, Names, empty, Ne.symm nonempty]
    · simp [inNoneOr, Names, empty]

theorem matchPattern_iff (p : TriplePattern V) (t : RDFTriple V) :
    matchPattern objects p t = true ↔
      (Names p.subject t.subject ∧ Names p.predicate t.predicate) ∧ ¬ Blank p ∧
        ObjectEqual objects p t ∧ ContextEqual p t := by
  have object : inNoneOr objects.equal p.object t.object = true ↔ ObjectEqual objects p t := by
    cases given : p.object with
    | none => simp [inNoneOr, ObjectEqual, given]
    | some v => cases held : t.object <;> simp [inNoneOr, ObjectEqual, given, held]
  have context : inNoneOr (· = ·) p.context (some t.context) = true ↔ ContextEqual p t := by
    cases given : p.context <;> simp [inNoneOr, ContextEqual, given]
  simp only [matchPattern, List.all_cons, List.all_nil, id_eq, Bool.and_eq_true, Bool.and_true]
  rw [inName_iff t.validSubject, inName_iff t.validPredicate, object, context]
  unfold Blank
  tauto

/-- A triple with the names of the pattern passes the tests that the two readings do
not share in both of them, or in neither. -/
structure ReadsAlike (p : TriplePattern V) (t : RDFTriple V) : Prop where
  strict : ObjectInColumn objects p t → ContextContained p t →
    ¬ Blank p ∧ ObjectEqual objects p t ∧ ContextEqual p t
  loose : ¬ Blank p → ObjectEqual objects p t → ContextEqual p t → ObjectInColumn objects p t

/-- An access rule and a query agree on a triple exactly if they read alike every
field beyond the names on which they agree. -/
theorem matchPattern_satisfies_iff (p : TriplePattern V) (t : RDFTriple V) :
    (matchPattern objects p t = true ↔ satisfies objects p t = true) ↔
      (Names p.subject t.subject → Names p.predicate t.predicate → ReadsAlike objects p t) := by
  rw [matchPattern_iff, satisfies_iff]
  constructor
  · intro agree subject predicate
    constructor
    · intro object context
      exact (agree.mpr ⟨⟨subject, predicate⟩, object, context⟩).2
    · intro blank object context
      exact (agree.mp ⟨⟨subject, predicate⟩, blank, object, context⟩).2.1
  · intro alike
    constructor
    · rintro ⟨names, blank, object, context⟩
      exact ⟨names, (alike names.1 names.2).loose blank object context, context.contained⟩
    · rintro ⟨names, object, context⟩
      exact ⟨names, (alike names.1 names.2).strict object context⟩

end Readings

def textObjects : Objects String where
  equal a b := a = b
  columnEqual a b := a = b
  repr := reprChars (fun _ => true)

def sensor (context : List String) : RDFTriple String where
  subject := "urn:kuva:Device:123"
  predicate := "http://schema.org/name"
  object := some "AI Sensor Array"
  context := context
  datatype := none
  language := none
  validSubject := by decide
  validPredicate := by decide

/-- A rule for one graph does not match a triple that is also in another graph; the
query with the same pattern finds it. -/
theorem rule_misses_second_graph :
    matchPattern textObjects ⟨none, none, none, some ["urn:kuva:graph:a"]⟩
        (sensor ["urn:kuva:graph:a", "urn:kuva:graph:b"]) = false ∧
      satisfies textObjects ⟨none, none, none, some ["urn:kuva:graph:a"]⟩
        (sensor ["urn:kuva:graph:a", "urn:kuva:graph:b"]) = true := by
  decide

end KuvaAI.Rdf
