import KuvaAI.Lib.Dict
import KuvaAI.Python.Repr
import KuvaAI.Python.Value

/-! The triple store of rdf_store.py over a table of rows and a Redis of cached
answers. A cached answer is a list of triples that comes back as it was stored.
The module names `Boolean` and `uuid`, which it does not import; the store is taken
as it is once they are there. -/
namespace KuvaAI.Rdf
open Python

/-- `re.match(r'^[a-zA-Z][a-zA-Z0-9+.-]*:', v)`. -/
def uriFormat (v : String) : Bool :=
  match v.toList with
  | [] => false
  | c :: rest =>
    c.isAlpha && (rest.dropWhile fun d => d.isAlphanum || d ∈ ['+', '.', '-']).head? = some ':'

def validName (v : String) : Prop := 1 ≤ v.length ∧ v.length ≤ 1024 ∧ uriFormat v = true

instance (v : String) : Decidable (validName v) :=
  inferInstanceAs (Decidable (1 ≤ v.length ∧ v.length ≤ 1024 ∧ uriFormat v = true))

/-- `V` is the type of the objects other than `None`. -/
structure RDFTriple (V : Type) where
  subject : String
  predicate : String
  object : Option V
  context : List String
  datatype : Option String
  language : Option String
  validSubject : validName subject
  validPredicate : validName predicate
  deriving DecidableEq

structure TriplePattern (V : Type) where
  subject : Option String
  predicate : Option String
  object : Option V
  context : Option (List String)
  deriving DecidableEq

/-- What is asked of object values: Python's `==`, the equality of the JSON column,
and the text `repr` gives them. -/
structure Objects (V : Type) where
  equal : V → V → Bool
  columnEqual : V → V → Bool
  repr : V → List Char

section Patterns

variable {V : Type} (objects : Objects V)

/-! ### Patterns as where clauses -/

inductive Clause (V : Type) where
  | subject (value : String)
  | predicate (value : String)
  | object (value : V)
  | contextContains (elements : List String)

def Clause.satisfied (t : RDFTriple V) : Clause V → Bool
  | .subject value => t.subject = value
  | .predicate value => t.predicate = value
  | .object value => t.object.any (objects.columnEqual · value)
  | .contextContains elements => elements.all (· ∈ t.context)

/-- `if pattern.subject:` and `if pattern.context:` leave out empty values too. -/
def buildWhereClause (pattern : TriplePattern V) : List (Clause V) :=
  (pattern.subject.toList.filter (· ≠ "")).map .subject ++
  (pattern.predicate.toList.filter (· ≠ "")).map .predicate ++
  pattern.object.toList.map .object ++
  (pattern.context.toList.filter (· ≠ [])).map .contextContains

def satisfies (pattern : TriplePattern V) (t : RDFTriple V) : Bool :=
  (buildWhereClause pattern).all (Clause.satisfied objects t)

/-! ### Patterns as access rules -/

def inNoneOr {α : Type} (equal : α → α → Bool) (x y : Option α) : Bool :=
  match x, y with
  | none, _ => true
  | some _, none => false
  | some x, some y => equal x y

def matchPattern (pattern : TriplePattern V) (t : RDFTriple V) : Bool :=
  [inNoneOr (· = ·) pattern.subject (some t.subject),
    inNoneOr (· = ·) pattern.predicate (some t.predicate),
    inNoneOr objects.equal pattern.object t.object,
    inNoneOr (· = ·) pattern.context (some t.context)].all id

/-- The patterns that `apply_acl` has filed under each role. -/
abbrev AccessRules (V : Type) := Dict String (List (TriplePattern V))

def applyAcl [DecidableEq V] (rules : AccessRules V) (pattern : TriplePattern V) (role : String) :
    AccessRules V :=
  let filed := (rules.get? ("rdf:acl:" ++ role)).getD []
  rules.set ("rdf:acl:" ++ role) (if pattern ∈ filed then filed else filed ++ [pattern])

def checkAccess (rules : AccessRules V) (role : String) (t : RDFTriple V) : Bool :=
  ((rules.get? ("rdf:acl:" ++ role)).getD []).any (fun p => matchPattern objects p t)

end Patterns

/-! ### The table and the cached answers -/

abbrev Digest := { data : Bytes // data.length = 32 }

structure Backend (V : Type) where
  objects : Objects V
  /-- Which characters beyond ASCII `repr` prints as they are. -/
  printable : Char → Bool
  sha256 : Bytes → Digest
  bulkSize : Int

structure RDFTripleStore (V : Type) where
  rows : List (RDFTriple V)
  cache : Dict String (List (RDFTriple V))

def RDFTripleStore.init {V : Type} : RDFTripleStore V := ⟨[], Dict.empty⟩

inductive Raised where
  | rdfConflictError (text : String)
  | rdfTransactionError (text : String)
  | builtin (e : Exn)
  deriving DecidableEq, Repr

def Raised.text : Raised → String
  | .rdfConflictError text => text
  | .rdfTransactionError text => text
  | .builtin e => e.text

section Store

variable {V : Type} (backend : Backend V)

/-- `pattern.dict(exclude_none=True)`, each value with its text. -/
def keyData (pattern : TriplePattern V) : List (String × List Char) :=
  pattern.subject.toList.map (fun s => ("subject", reprChars backend.printable s)) ++
  pattern.predicate.toList.map (fun s => ("predicate", reprChars backend.printable s)) ++
  pattern.object.toList.map (fun v => ("object", backend.objects.repr v)) ++
  pattern.context.toList.map (fun xs => ("context", reprList backend.printable xs))

def keyText (pattern : TriplePattern V) : String :=
  String.ofList (reprDict backend.printable (keyData backend pattern))

def cacheKey (pattern : TriplePattern V) : String :=
  "rdf:cache:" ++ hex (backend.sha256 (encode (keyText backend pattern))).1

/-- Keys that Redis matches against a glob in which only the star is special. -/
def globMatches : List Char → List Char → Bool
  | [], s => s.isEmpty
  | c :: glob, [] => c = '*' && globMatches glob []
  | c :: glob, d :: s =>
    if c = '*' then globMatches glob (d :: s) || globMatches (c :: glob) s
    else c = d && globMatches glob s
termination_by glob s => glob.length + s.length

abbrev Session (V α : Type) := RDFTripleStore V → Except Raised α × RDFTripleStore V

/-- What the database did in a transaction that raises is undone; Redis keeps its part. -/
def transaction {α : Type} (body : Session V α) : Session V α := fun s =>
  match body s with
  | (.ok a, s') => (.ok a, s')
  | (.error e, s') =>
    (.error (.rdfTransactionError ("Transaction failed: " ++ e.text)), { s' with rows := s.rows })

/-- Equal in the columns of the unique constraint. -/
def sameRow (t u : RDFTriple V) : Bool :=
  t.subject = u.subject && t.predicate = u.predicate && t.context = u.context &&
    match t.object, u.object with
    | none, none => true
    | some v, some w => backend.objects.columnEqual v w
    | _, _ => false

/-- `none` where a row is there already, in the table or among the rows before it. -/
def insertRows (rows batch : List (RDFTriple V)) : Option (List (RDFTriple V)) :=
  batch.foldlM (fun rows t => if rows.any (sameRow backend t) then none else some (rows ++ [t])) rows

def insertTriples (triples : List (RDFTriple V)) : Session V Unit := fun s =>
  match insertRows backend s.rows triples with
  | some rows => (.ok (), { s with rows })
  | none => (.error (.rdfConflictError "Duplicate triples detected"), s)

def insertTriple (triple : RDFTriple V) : Session V Unit :=
  transaction (insertTriples backend [triple])

/-- The patterns whose answers an inserted triple is thought to affect. -/
def singleFieldPatterns (t : RDFTriple V) : List (TriplePattern V) :=
  [⟨some t.subject, none, none, none⟩, ⟨none, some t.predicate, none, none⟩,
    ⟨none, none, t.object, none⟩]

def updateCache (triples : List (RDFTriple V)) (s : RDFTripleStore V) : RDFTripleStore V :=
  let patterns := triples.flatMap singleFieldPatterns
  { s with cache := patterns.foldl (fun cache p => cache.erase (cacheKey backend p)) s.cache }

/-- `triples[i:i+size]` for the multiples `i` of a positive size. -/
def batches {α : Type} (size : Nat) : List α → List (List α)
  | [] => []
  | t :: rest => (t :: rest.take (size - 1)) :: batches size (rest.drop (size - 1))
termination_by triples => triples.length
decreasing_by simp only [List.length_drop, List.length_cons]; omega

def insertBatches : List (List (RDFTriple V)) → Session V Unit
  | [], s => (.ok (), s)
  | batch :: rest, s =>
    match insertTriples backend batch s with
    | (.ok (), s) => insertBatches rest (updateCache backend batch s)
    | (.error e, s) => (.error e, s)

def insertBulk (triples : List (RDFTriple V)) : Session V Unit :=
  transaction fun s =>
    if backend.bulkSize = 0 then
      (.error (.builtin ⟨.valueError, "range() arg 3 must not be zero"⟩), s)
    else if backend.bulkSize < 0 then (.ok (), s)
    else insertBatches backend (batches backend.bulkSize.toNat triples) s

def invalidateCache (pattern : TriplePattern V) (s : RDFTripleStore V) : RDFTripleStore V :=
  let glob := "rdf:cache:*" ++ cacheKey backend pattern ++ "*"
  { s with cache := s.cache.filterKeys fun key => !globMatches glob.toList key.toList }

def deleteTriple (pattern : TriplePattern V) : Session V Nat :=
  transaction fun s =>
    let deleted := s.rows.filter (satisfies backend.objects pattern)
    let kept := s.rows.filter fun t => !satisfies backend.objects pattern t
    (.ok deleted.length, invalidateCache backend pattern { s with rows := kept })

/-- An empty list that is cached counts as absent. -/
def query (pattern : TriplePattern V) : Session V (List (RDFTriple V)) := fun s =>
  match s.cache.get? (cacheKey backend pattern) with
  | some (t :: cached) => (.ok (t :: cached), s)
  | _ =>
    transaction (fun s =>
      let triples := s.rows.filter (satisfies backend.objects pattern)
      (.ok triples, { s with cache := s.cache.set (cacheKey backend pattern) triples })) s

inductive Operation (V : Type) where
  | insertTriple (triple : RDFTriple V)
  | insertBulk (triples : List (RDFTriple V))
  | deleteTriple (pattern : TriplePattern V)
  | query (pattern : TriplePattern V)

def step (s : RDFTripleStore V) : Operation V → RDFTripleStore V
  | .insertTriple triple => (insertTriple backend triple s).2
  | .insertBulk triples => (insertBulk backend triples s).2
  | .deleteTriple pattern => (deleteTriple backend pattern s).2
  | .query pattern => (query backend pattern s).2

end Store

end KuvaAI.Rdf
