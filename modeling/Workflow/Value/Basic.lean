import Workflow.Keyed
import Workflow.Number.Basic

/-!
# State trees

A state tree is a JSON-like value: the state and the result of every scope, the values of
components, the payloads of remote calls and the literals of a document are state trees.  The
fields of an object form a table sorted by key; `Value.Canonical` says so for a whole tree, and is
kept beside the type so that trees stay plain data.

Two notions of equality are told apart.  `=` is equality of trees.  `Value.same` is the equality
that rules use on nested values, in which the two zeros of the doubles are one.
-/

namespace Workflow

/-- A state tree. -/
inductive Value
  | null
  | bool (value : Bool)
  | number (value : Number)
  | string (value : String)
  | list (items : List Value)
  | object (fields : List (String × Value))
  deriving Repr, Inhabited

namespace Value

def empty : Value := .object []

/-- The name of the sort of value at the root of a tree. -/
def kindName : Value → String
  | .null => "null"
  | .bool _ => "bool"
  | .number _ => "number"
  | .string _ => "string"
  | .list _ => "array"
  | .object _ => "object"

def isObject : Value → Bool
  | .object _ => true
  | _ => false

def isNull : Value → Bool
  | .null => true
  | _ => false

/-- The fields of an object; any other value has none. -/
def fields : Value → List (String × Value)
  | .object fields => fields
  | _ => []

def field? (value : Value) (key : String) : Option Value :=
  Keyed.get? key value.fields

/-- The number of a tree that is an integer and not negative. -/
def toNat? : Value → Option Nat
  | .number n => n.toNat?
  | _ => none

mutual

/-- Equality as rules see it: numbers of one sort are compared as numbers. -/
def same : Value → Value → Bool
  | .null, .null => true
  | .bool a, .bool b => a == b
  | .number a, .number b => a.same b
  | .string a, .string b => a == b
  | .list a, .list b => sameItems a b
  | .object a, .object b => sameFields a b
  | _, _ => false

def sameItems : List Value → List Value → Bool
  | [], [] => true
  | a :: as, b :: bs => same a b && sameItems as bs
  | _, _ => false

def sameFields : List (String × Value) → List (String × Value) → Bool
  | [], [] => true
  | (k, a) :: as, (l, b) :: bs => k == l && same a b && sameFields as bs
  | _, _ => false

end

mutual

/-- Every object in the tree has its fields in strictly increasing order of the keys. -/
def Canonical : Value → Prop
  | .list items => CanonicalItems items
  | .object fields => Keyed.Sorted fields ∧ CanonicalFields fields
  | _ => True

def CanonicalItems : List Value → Prop
  | [] => True
  | item :: rest => Canonical item ∧ CanonicalItems rest

def CanonicalFields : List (String × Value) → Prop
  | [] => True
  | (_, value) :: rest => Canonical value ∧ CanonicalFields rest

end

mutual

def decEq : (a b : Value) → Decidable (a = b)
  | .null, b => match b with
    | .null => isTrue rfl
    | .bool _ | .number _ | .string _ | .list _ | .object _ => isFalse nofun
  | .bool a, b => match b with
    | .bool b => decidable_of_iff (a = b) (by simp)
    | .null | .number _ | .string _ | .list _ | .object _ => isFalse nofun
  | .number a, b => match b with
    | .number b => decidable_of_iff (a = b) (by simp)
    | .null | .bool _ | .string _ | .list _ | .object _ => isFalse nofun
  | .string a, b => match b with
    | .string b => decidable_of_iff (a = b) (by simp)
    | .null | .bool _ | .number _ | .list _ | .object _ => isFalse nofun
  | .list a, b => match b with
    | .list b =>
      have := decEqItems a b
      decidable_of_iff (a = b) (by simp)
    | .null | .bool _ | .number _ | .string _ | .object _ => isFalse nofun
  | .object a, b => match b with
    | .object b =>
      have := decEqFields a b
      decidable_of_iff (a = b) (by simp)
    | .null | .bool _ | .number _ | .string _ | .list _ => isFalse nofun

def decEqItems : (a b : List Value) → Decidable (a = b)
  | [], [] => isTrue rfl
  | [], _ :: _ => isFalse nofun
  | _ :: _, [] => isFalse nofun
  | a :: as, b :: bs =>
    have := decEq a b
    have := decEqItems as bs
    decidable_of_iff (a = b ∧ as = bs) (by simp)

def decEqFields : (a b : List (String × Value)) → Decidable (a = b)
  | [], [] => isTrue rfl
  | [], _ :: _ => isFalse nofun
  | _ :: _, [] => isFalse nofun
  | (k, a) :: as, (l, b) :: bs =>
    have := decEq a b
    have := decEqFields as bs
    decidable_of_iff (k = l ∧ a = b ∧ as = bs) (by simp [and_assoc])

end

instance : DecidableEq Value := decEq

@[simp] theorem fields_object (fields : List (String × Value)) :
    (Value.object fields).fields = fields := rfl

@[simp] theorem isObject_object (fields : List (String × Value)) :
    (Value.object fields).isObject = true := rfl

theorem object_fields_of_isObject {value : Value} (h : value.isObject) :
    .object value.fields = value := by
  cases value <;> simp_all [isObject]

end Value

end Workflow
