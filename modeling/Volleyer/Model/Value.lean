import Mathlib.Data.Int.Notation
import Mathlib.Data.Nat.Notation
import Mathlib.Tactic.Common

/-!
# Firestore values and documents

A document is a partial map from its top-level fields to values, and
what reads it casts (`as? String`, `as? [String]`, …): a missing field
and a value of another type both answer `none`. `updateData` replaces the
named fields and leaves the others, which is all that is assumed of it.
-/

namespace Volleyer

/-- What Firestore answers. -/
inductive Reply
  | ok
  | failed
deriving DecidableEq, Repr

/-- An instant, as Firestore stores it. -/
structure Timestamp where
  seconds : ℤ
  nanoseconds : ℕ
deriving DecidableEq, Repr

/-- Swift's `Date`; a stored one is answered unchanged. -/
abbrev Date := Timestamp

/-- **A value of a field.** -/
inductive Value
  | null
  | bool (b : Bool)
  | int (n : ℤ)
  | string (s : String)
  | timestamp (t : Timestamp)
  | array (vs : List Value)
  | map (kvs : List (String × Value))

namespace Value

/-- `as? String` -/
def asString : Value → Option String
  | .string s => some s
  | _ => none

/-- `as? Int`: a boolean is an `NSNumber` too. -/
def asInt : Value → Option ℤ
  | .int n => some n
  | .bool b => some (if b then 1 else 0)
  | _ => none

/-- `as? Timestamp` -/
def asTimestamp : Value → Option Timestamp
  | .timestamp t => some t
  | _ => none

/-- `as? [String]` -/
def asStrings : Value → Option (List String)
  | .array vs => vs.mapM asString
  | _ => none

/-- `as? [String: Int]` -/
def asIntDict : Value → Option (List (String × ℤ))
  | .map kvs => kvs.mapM fun kv => kv.2.asInt.map (kv.1, ·)
  | _ => none

/-- `as? [String: String]` -/
def asStringDict : Value → Option (List (String × String))
  | .map kvs => kvs.mapM fun kv => kv.2.asString.map (kv.1, ·)
  | _ => none

/-- `as? [[String: String]]`; the empty array casts to any array type. -/
def asStringDicts : Value → Option (List (List (String × String)))
  | .array vs => vs.mapM asStringDict
  | _ => none

/-- The value of a list of strings. -/
def strings (xs : List String) : Value := .array (xs.map .string)

@[simp] theorem asString_string (s : String) : (string s).asString = some s := rfl

@[simp] theorem asInt_int (n : ℤ) : (int n).asInt = some n := rfl

@[simp] theorem asTimestamp_timestamp (t : Timestamp) : (timestamp t).asTimestamp = some t := rfl

/-- A list of strings is read back as it was written. -/
@[simp] theorem asStrings_strings (xs : List String) : (strings xs).asStrings = some xs := by
  simp only [strings, asStrings]
  induction xs with
  | nil => rfl
  | cons x xs ih => simp [List.mapM_cons, ih]

end Value

/-- **A document**: the value of each field that is present. -/
abbrev Doc (Field : Type) := Field → Option Value

/-- The dictionary a write names its fields with. -/
abbrev Fields (Field : Type) := List (Field × Value)

namespace Doc

variable {Field : Type}

/-- `document.data()[f] as? String` -/
def string (d : Doc Field) (f : Field) : Option String := (d f).bind Value.asString

/-- `document.data()[f] as? Int` -/
def int (d : Doc Field) (f : Field) : Option ℤ := (d f).bind Value.asInt

/-- `document.data()[f] as? Timestamp` -/
def timestamp (d : Doc Field) (f : Field) : Option Timestamp := (d f).bind Value.asTimestamp

/-- `document.data()[f] as? [String]` -/
def strings (d : Doc Field) (f : Field) : Option (List String) := (d f).bind Value.asStrings

/-- `document.data()[f] as? [String: Int]` -/
def intDict (d : Doc Field) (f : Field) : Option (List (String × ℤ)) := (d f).bind Value.asIntDict

/-- `document.data()[f] as? [[String: String]]` -/
def stringDicts (d : Doc Field) (f : Field) : Option (List (List (String × String))) :=
  (d f).bind Value.asStringDicts

variable [DecidableEq Field]

/-- The document `setData(data)` stores. -/
def setData (data : Fields Field) : Doc Field := fun f => data.lookup f

/-- The document `updateData(data)` leaves: the named fields replaced. -/
def updateData (d : Doc Field) (data : Fields Field) : Doc Field :=
  fun f => (data.lookup f).or (d f)

/-- An update leaves every field it does not name. -/
theorem updateData_of_lookup_eq_none {d : Doc Field} {data : Fields Field} {f : Field}
    (h : data.lookup f = none) : d.updateData data f = d f := by
  simp [updateData, h]

theorem updateData_of_lookup_eq_some {d : Doc Field} {data : Fields Field} {f : Field} {v : Value}
    (h : data.lookup f = some v) : d.updateData data f = some v := by
  simp [updateData, h]

/-- What an update of one field leaves in each field. -/
theorem updateData_singleton (d : Doc Field) (f g : Field) (v : Value) :
    d.updateData [(f, v)] g = if g = f then some v else d g := by
  simp only [updateData, List.lookup_cons, List.lookup_nil]
  by_cases h : g = f
  · simp [h]
  · have hbeq : (g == f) = false := beq_false_of_ne h
    simp [hbeq, h]

@[simp] theorem updateData_singleton_self (d : Doc Field) (f : Field) (v : Value) :
    d.updateData [(f, v)] f = some v := by
  simp [updateData_singleton]

theorem updateData_singleton_of_ne (d : Doc Field) {f g : Field} (v : Value) (h : g ≠ f) :
    d.updateData [(f, v)] g = d g := by
  simp [updateData_singleton, h]

/-- What an update of one field leaves to be read. -/
@[simp] theorem string_updateData (d : Doc Field) (f g : Field) (v : Value) :
    (d.updateData [(f, v)]).string g = if g = f then v.asString else d.string g := by
  simp only [string, updateData_singleton]
  split <;> rfl

@[simp] theorem int_updateData (d : Doc Field) (f g : Field) (v : Value) :
    (d.updateData [(f, v)]).int g = if g = f then v.asInt else d.int g := by
  simp only [int, updateData_singleton]
  split <;> rfl

@[simp] theorem strings_updateData (d : Doc Field) (f g : Field) (v : Value) :
    (d.updateData [(f, v)]).strings g = if g = f then v.asStrings else d.strings g := by
  simp only [strings, updateData_singleton]
  split <;> rfl

end Doc

end Volleyer
