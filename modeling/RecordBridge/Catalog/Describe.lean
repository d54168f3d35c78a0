/-
# Catalogs from descriptions

A remote system describes a type by a JSON object with a name and a list of
fields.  A field has a name, a type tag that is put in lower case, two flags
that are spelled in either of two ways, and a list of values to pick from, of
which the ones that are not null count.

The description may be any JSON value.  What is wrong with it is found in the
order in which it is read: the name of the type, then field by field the
values to pick from, the name, and whether the name can be a name at all.
-/

import RecordBridge.Catalog.Basic
import RecordBridge.Text.Casing
import RecordBridge.Value.Shape

namespace RecordBridge
namespace Catalog

/-- The value to pick, if an item has one. -/
def pickedValue (item : Value) : Except ShapeFault (Option String) := do
  match ← item.field? "value" with
  | none | some .null => .ok none
  | some v => .ok (some v.display)

/-- The values to pick in a list of items. -/
def pickedValues : List Value → Except ShapeFault (List String)
  | [] => .ok []
  | item :: items => do
    let v ← pickedValue item
    let vs ← pickedValues items
    .ok (v.toList ++ vs)

/-- Whether a flag is set, under the first of two keys that is there. -/
def flag (entry : Object) (key otherKey : String) : Bool :=
  match entry.get? key, entry.get? otherKey with
  | some v, _ => v.isPresent
  | none, some v => v.isPresent
  | none, none => false

/-- The values to pick from in an entry; no values are no list. -/
def enumValues? (entry : Object) : Except ShapeFault (Option (List String)) := do
  let items := Value.ofOption (entry.get? "picklistValues")
  let items ← if items.isPresent then items.elements else .ok []
  let vs ← pickedValues items
  .ok (if vs.isEmpty then none else some vs)

/-- The field that an entry describes. -/
def describedField (entry : Value) : Except ShapeFault Field := do
  match entry with
  | .object es =>
    let enumValues ← enumValues? es
    let name ← entry.at? "name"
    .ok
      { name
        type := Text.toLower ((Entries.get? es "type").getD (.text "string")).display
        creatable := flag es "createable" "creatable"
        updatable := flag es "updateable" "updatable"
        enumValues }
  | v => .error (.noOperation v.kindName "get")

/-- Whether a value can be the name of a field: containers cannot. -/
def isName : Value → Bool
  | .list _ | .object _ | .set _ => false
  | _ => true

/-- The fields that the entries describe, put under their names in order. -/
def describedFields (done : List (Value × Field)) :
    List Value → Except ShapeFault (List (Value × Field))
  | [] => .ok done
  | entry :: entries => do
    let f ← describedField entry
    if isName f.name then describedFields (place done f) entries
    else .error (.notAKey f.name.kindName)

/-- The catalog that a description holds. -/
def ofDescription (description : Value) : Except ShapeFault Catalog := do
  let name ← description.at? "name"
  let entries ← description.field? "fields"
  let entries ← (entries.getD (.list [])).elements
  let fields ← describedFields [] entries
  .ok ⟨name, fields⟩

end Catalog
end RecordBridge
