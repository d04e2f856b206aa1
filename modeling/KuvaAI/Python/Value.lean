import KuvaAI.Lib.Dict
import Mathlib.Data.List.Infix
import Mathlib.Data.Rat.Defs
import Mathlib.Algebra.Order.Ring.Unbundled.Rat

/-! The part of Python's data model that the repository's dictionaries rely on:
the built-in exceptions, the values a JSON document or a request carries, and
the comparisons the code makes on them. -/
namespace KuvaAI.Python

section Outcomes

variable {ε α β : Type}

@[simp] theorem bind_ok (a : α) (f : α → Except ε β) : (Except.ok a >>= f) = f a := rfl

@[simp] theorem bind_error (e : ε) (f : α → Except ε β) : (Except.error e >>= f) = .error e := rfl

@[simp] theorem pure_eq_ok (a : α) : (pure a : Except ε α) = .ok a := rfl

theorem bind_eq_ok {first : Except ε α} {next : α → Except ε β} {b : β}
    (ends : (first >>= next) = .ok b) : ∃ a, first = .ok a ∧ next a = .ok b := by
  cases first with
  | ok a => exact ⟨a, rfl, ends⟩
  | error e => cases ends

theorem exists_mapM_iff {xs : List α} {f : α → Except ε β} :
    (∃ ys, xs.mapM f = .ok ys) ↔ ∀ x ∈ xs, ∃ y, f x = .ok y := by
  induction xs with
  | nil => exact iff_of_true ⟨[], rfl⟩ nofun
  | cons x xs ih =>
    rw [List.forall_mem_cons, ← ih, List.mapM_cons]
    constructor
    · rintro ⟨ys, mapped⟩
      obtain ⟨y, first, mapped⟩ := bind_eq_ok mapped
      obtain ⟨rest, others, -⟩ := bind_eq_ok mapped
      exact ⟨⟨y, first⟩, rest, others⟩
    · rintro ⟨⟨y, first⟩, rest, others⟩
      rw [first, bind_ok, others]
      exact ⟨y :: rest, rfl⟩

theorem mem_of_mapM {xs : List α} {f : α → Except ε β} {ys : List β} (mapped : xs.mapM f = .ok ys) :
    ∀ y ∈ ys, ∃ x ∈ xs, f x = .ok y := by
  induction xs generalizing ys with
  | nil =>
    obtain rfl := Except.ok.inj mapped
    exact nofun
  | cons x xs ih =>
    rw [List.mapM_cons] at mapped
    obtain ⟨y, first, mapped⟩ := bind_eq_ok mapped
    obtain ⟨rest, others, ended⟩ := bind_eq_ok mapped
    obtain rfl := Except.ok.inj ended
    refine List.forall_mem_cons.mpr ⟨⟨x, List.mem_cons_self, first⟩, fun z member => ?_⟩
    obtain ⟨w, within, found⟩ := ih others z member
    exact ⟨w, List.mem_cons_of_mem x within, found⟩

theorem mapM_eq_map {xs : List α} {ys : List β} {f : α → Except ε β} {g : α → β}
    (only : ∀ x y, f x = .ok y → y = g x) (mapped : xs.mapM f = .ok ys) : ys = xs.map g := by
  induction xs generalizing ys with
  | nil => exact (Except.ok.inj mapped).symm
  | cons x xs ih =>
    rw [List.mapM_cons] at mapped
    obtain ⟨y, first, mapped⟩ := bind_eq_ok mapped
    obtain ⟨rest, others, ended⟩ := bind_eq_ok mapped
    obtain rfl := Except.ok.inj ended
    rw [only x y first, ih others, List.map_cons]

end Outcomes

inductive ExnClass where
  | typeError | valueError | keyError | indexError | attributeError | nameError
  | runtimeError | oSError | validationError | importError | zeroDivisionError | other
  deriving DecidableEq, Repr

structure Exn where
  cls : ExnClass
  text : String
  deriving DecidableEq, Repr

/-- Pydantic's `ValidationError` is a subclass of `ValueError`. -/
def Exn.isValueError (e : Exn) : Bool := e.cls = .valueError ∨ e.cls = .validationError

/-- What ends a task early. `except Exception` catches only the first. -/
inductive Interrupt where
  | raised (e : Exn)
  | cancelled
  deriving DecidableEq, Repr

structure SetOrder where
  order : List String → List String
  perm : ∀ names, (order names).Perm names

def SetOrder.text (order : SetOrder) (names : List String) : String :=
  "\x7b" ++ ", ".intercalate ((order.order names).map fun name => "'" ++ name ++ "'") ++ "\x7d"

def SetOrder.asListed : SetOrder := ⟨fun names => names, fun _ => .refl _⟩

def Dotted (name : String) : Prop := '.' ∈ name.toList

instance (name : String) : Decidable (Dotted name) :=
  inferInstanceAs (Decidable ('.' ∈ name.toList))

theorem dotted_join (first second : String) : Dotted (first ++ "." ++ second) := by
  simp [Dotted]

/-- A float: every finite one is a rational number. -/
inductive Flt where
  | finite (q : Rat)
  | infinite (negative : Bool)
  | nan
  deriving DecidableEq, Repr

namespace Flt

def lt : Flt → Flt → Bool
  | .finite a, .finite b => a < b
  | .infinite true, .finite _ | .finite _, .infinite false => true
  | .infinite a, .infinite b => a && !b
  | _, _ => false

def eq : Flt → Flt → Bool
  | .finite a, .finite b => a = b
  | .infinite a, .infinite b => a = b
  | _, _ => false

def ofInt (n : Int) : Flt := .finite n

end Flt

inductive Value where
  | none
  | bool (b : Bool)
  | int (n : Int)
  | float (x : Flt)
  | str (s : String)
  /-- Microseconds since the epoch, UTC. -/
  | datetime (t : Int)
  | list (xs : List Value)
  | dict (entries : List (String × Value))

namespace Value

def typeName : Value → String
  | .none => "NoneType"
  | .bool _ => "bool"
  | .int _ => "int"
  | .float _ => "float"
  | .str _ => "str"
  | .datetime _ => "datetime.datetime"
  | .list _ => "list"
  | .dict _ => "dict"

/-- Booleans are integers, and both compare with floats by value. -/
def number? : Value → Option Flt
  | .bool b => some (Flt.ofInt b.toNat)
  | .int n => some (Flt.ofInt n)
  | .float x => some x
  | _ => Option.none

mutual
/-- `a == b`: dictionaries compare as maps, values of unrelated types differ. -/
def eq : Value → Value → Bool
  | .none, .none => true
  | .str a, .str b => a = b
  | .datetime a, .datetime b => a = b
  | .list xs, .list ys => eqList xs ys
  | .dict xs, .dict ys => xs.length = ys.length && eqDict xs ys
  | .bool a, w => numberEq (.bool a) w
  | .int a, w => numberEq (.int a) w
  | .float a, w => numberEq (.float a) w
  | _, _ => false
where
  numberEq (v w : Value) : Bool :=
    match v.number?, w.number? with
    | some a, some b => Flt.eq a b
    | _, _ => false

def eqList : List Value → List Value → Bool
  | [], [] => true
  | x :: xs, y :: ys => eq x y && eqList xs ys
  | _, _ => false

def eqDict : List (String × Value) → List (String × Value) → Bool
  | [], _ => true
  | (k, v) :: rest, ys =>
    (match ys.lookup k with
     | some w => eq v w
     | Option.none => false) && eqDict rest ys
end

inductive Cmp where
  | lt | le | gt
  deriving DecidableEq, Repr

def Cmp.symbol : Cmp → String
  | .lt => "<"
  | .le => "<="
  | .gt => ">"

def Cmp.onFlt : Cmp → Flt → Flt → Bool
  | .lt, a, b => Flt.lt a b
  | .le, a, b => Flt.lt a b || Flt.eq a b
  | .gt, a, b => Flt.lt b a

def Cmp.onOrdering : Cmp → Ordering → Bool
  | .lt, o => o = .lt
  | .le, o => o ≠ .gt
  | .gt, o => o = .gt

def unordered (op : Cmp) (a b : Value) : Exn :=
  ⟨.typeError, s!"'" ++ op.symbol ++ "' not supported between instances of '" ++ a.typeName ++
    "' and '" ++ b.typeName ++ "'"⟩

mutual
def compare (op : Cmp) : Value → Value → Except Exn Bool
  | .str a, .str b => .ok (op.onOrdering (Ord.compare a b))
  | .datetime a, .datetime b => .ok (op.onOrdering (Ord.compare a b))
  | .list xs, .list ys => compareList op xs ys
  | .bool a, w => onNumbers op (.bool a) w
  | .int a, w => onNumbers op (.int a) w
  | .float a, w => onNumbers op (.float a) w
  | v, w => .error (unordered op v w)
where
  onNumbers (op : Cmp) (v w : Value) : Except Exn Bool :=
    match v.number?, w.number? with
    | some a, some b => .ok (op.onFlt a b)
    | _, _ => .error (unordered op v w)

def compareList (op : Cmp) : List Value → List Value → Except Exn Bool
  | [], [] => .ok (op.onOrdering .eq)
  | [], _ :: _ => .ok (op.onOrdering .lt)
  | _ :: _, [] => .ok (op.onOrdering .gt)
  | x :: xs, y :: ys => if eq x y then compareList op xs ys else compare op x y
end

def truth : Value → Bool
  | .none => false
  | .bool b => b
  | .int n => n ≠ 0
  | .float x => x ≠ .finite 0
  | .str s => s ≠ ""
  | .datetime _ => true
  | .list xs => !xs.isEmpty
  | .dict es => !es.isEmpty

/-- `min(a, b)`: the second argument replaces the first only when it is smaller. -/
def min (a b : Value) : Except Exn Value := do
  if ← compare .lt b a then return b else return a

/-- `needle in haystack`; the haystack decides what membership means. -/
def contains (needle : Value) : Value → Except Exn Bool
  | .list xs => .ok (xs.any fun x => x.eq needle)
  | .dict es =>
    match needle with
    | .str k => .ok (es.any fun e => e.1 = k)
    | .list _ | .dict _ => .error ⟨.typeError, "unhashable type: '" ++ needle.typeName ++ "'"⟩
    | _ => .ok false
  | .str s =>
    match needle with
    | .str part => .ok (decide (part.toList <:+: s.toList))
    | _ => .error ⟨.typeError,
        "'in <string>' requires string as left operand, not " ++ needle.typeName⟩
  | v => .error ⟨.typeError, "argument of type '" ++ v.typeName ++ "' is not iterable"⟩

def item (v : Value) (i : Nat) : Except Exn Value :=
  match v with
  | .list xs =>
    match xs[i]? with
    | some x => .ok x
    | Option.none => .error ⟨.indexError, "list index out of range"⟩
  | .str s =>
    match s.toList[i]? with
    | some c => .ok (.str c.toString)
    | Option.none => .error ⟨.indexError, "string index out of range"⟩
  | .dict _ => .error ⟨.keyError, toString i⟩
  | _ => .error ⟨.typeError, "'" ++ v.typeName ++ "' object is not subscriptable"⟩

end Value

/-- What the code asks of an arbitrary object. Any of it may raise, since a
class may define the operator itself; nothing is assumed of the answers. -/
structure DataModel (V : Type) where
  none : V
  ofStr : String → V
  ofInt : Int → V
  truth : V → Except Exn Bool
  eq : V → V → Except Exn V
  compare : Value.Cmp → V → V → Except Exn V
  contains : V → V → Except Exn V
  item : V → Nat → Except Exn V
  /-- `re.match(pattern, str(text)) is not None`. -/
  reMatch : V → V → Except Exn V

def Value.dataModel (reMatch : Value → Value → Except Exn Value) : DataModel Value where
  none := .none
  ofStr := .str
  ofInt := .int
  truth v := .ok v.truth
  eq a b := .ok (.bool (a.eq b))
  compare op a b := (a.compare op b).map .bool
  contains needle haystack := (needle.contains haystack).map .bool
  item := Value.item
  reMatch := reMatch

end KuvaAI.Python
