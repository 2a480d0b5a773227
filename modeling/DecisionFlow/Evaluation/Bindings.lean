import DecisionFlow.Batch.Record

/-!
# Bindings

While a record is evaluated, expressions read its fields and the values that nodes visited so far
have computed. A node's value is bound under its id, and further columns of a table lookup under
`node.column`. Whatever is not bound reads as null.
-/

set_option autoImplicit false

namespace DecisionFlow

/-- The record being evaluated and the values bound so far, the latest first. -/
structure Bindings where
  record : Record
  values : List (String × Value)

namespace Bindings

/-- The bindings at the start. -/
def initial (record : Record) : Bindings := ⟨record, []⟩

/-- The value of a field of the record. -/
def field (bindings : Bindings) (name : String) : Value :=
  bindings.record.get name

/-- The value bound last under a key. -/
def node (bindings : Bindings) (key : String) : Value :=
  (bindings.values.lookup key).getD .null

/-- Binds a value, so that an earlier one under the same key is not read any more. -/
def bind (bindings : Bindings) (key : String) (value : Value) : Bindings :=
  { bindings with values := (key, value) :: bindings.values }

/-- Binding a value leaves the record as it was. -/
@[simp]
theorem field_bind (bindings : Bindings) (key : String) (value : Value) (name : String) :
    (bindings.bind key value).field name = bindings.field name := rfl

/-- Before anything is bound, every node reads as null. -/
@[simp]
theorem node_initial (record : Record) (name : String) :
    (initial record).node name = .null := rfl

/-- Binds values one after the other. -/
def bindAll (bindings : Bindings) (values : List (String × Value)) : Bindings :=
  values.foldl (fun bindings entry => bindings.bind entry.1 entry.2) bindings

end Bindings

end DecisionFlow
