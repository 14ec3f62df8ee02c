/-
Records in JSON: a fixed list of fields, each with a type of its own.

A document gives the fields by name, in any order and with other entries between
them, or one after the other in an array. A field may have several names but only
one value.
-/
import MonitorControl.Json.Reader

set_option autoImplicit false

namespace MonitorControl

namespace JsonSyntax

/-! ## Fields -/

/-- The value among `entries` that stands under one of the names: none, or the only one. Two values
are refused. -/
def field? (entries : List (Text × JsonSyntax)) (names : List Text) : Option (Option JsonSyntax) :=
  match entries.filter fun entry => names.contains entry.1 with
  | [] => some none
  | [(_, value)] => some (some value)
  | _ => none

/-- **The fields of a record.** For each field, given by its names, what the document says: the entry
of an object, or the item of an array at the same place, where the last ones may be missing. -/
def fields? (record : List (List Text)) : JsonSyntax → Option (List (Option JsonSyntax))
  | .array items =>
    if items.length ≤ record.length then
      some (items.map some ++ List.replicate (record.length - items.length) none)
    else none
  | .object entries => do
    let entries ← entries.mapM fun (key, value) => (stringText? key).map (·, value)
    record.mapM (field? entries)
  | _ => none

/-! ## Types -/

/-- A string. -/
def text? : JsonSyntax → Option Text
  | .string parts => stringText? parts
  | _ => none

/-- A truth value. -/
def bool? : JsonSyntax → Option Bool
  | .bool b => some b
  | _ => none

/-- A whole number from 0 to `greatest`, written without point and exponent. -/
def naturalUpTo? (greatest : Nat) : JsonSyntax → Option Nat
  | .number literal => literal.integer?.bind fun n =>
    if 0 ≤ n && n ≤ greatest then some n.toNat else none
  | _ => none

/-- The items of an array. -/
def list? {α : Type} (read : JsonSyntax → Option α) : JsonSyntax → Option (List α)
  | .array items => items.mapM read
  | _ => none

/-- The entries of an object with text for values; of equal keys the last one counts. -/
def textMap? : JsonSyntax → Option (List (Text × Text))
  | .object entries => do
    let entries ← entries.mapM fun (key, value) => do return (← stringText? key, ← text? value)
    return entries.foldl (fun map (key, value) => map.filter (·.1 != key) ++ [(key, value)]) []
  | _ => none

/-! ## Presence -/

/-- A field that must be there. -/
def required? {α : Type} (read : JsonSyntax → Option α) (field : Option JsonSyntax) : Option α :=
  field.bind read

/-- A field with a value to take where it is missing. -/
def withDefault? {α : Type} (read : JsonSyntax → Option α) (value : α) :
    Option JsonSyntax → Option α
  | some field => read field
  | none => some value

/-- A field that may be missing or `null`. -/
def optional? {α : Type} (read : JsonSyntax → Option α) : Option JsonSyntax → Option (Option α)
  | none | some .null => some none
  | some field => (read field).map some

end JsonSyntax

end MonitorControl
