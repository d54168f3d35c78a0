/-
# Catalogs

A catalog lists the fields of one remote type as one caller sees them.  A
field has a type tag and says whether the caller may give it a value when a
record is created and when it is updated.

The names come from a remote description, which may hold any scalar in their
place; a field that is not named by a text exists and is never found.  A name
that comes again keeps its place and takes the last field.
-/

import RecordBridge.Value.Basic

namespace RecordBridge
namespace Catalog

/-- A write that a field may allow. -/
inductive Capability
  | creatable
  | updatable
  deriving DecidableEq, Repr

namespace Capability

/-- The name in messages and requests. -/
def name : Capability → String
  | .creatable => "creatable"
  | .updatable => "updatable"

/-- The capability with a name. -/
def ofName? (s : String) : Option Capability :=
  if s = "creatable" then some .creatable
  else if s = "updatable" then some .updatable
  else none

end Capability

/-- A field. -/
structure Field where
  name : Value
  type : String := "string"
  creatable : Bool := false
  updatable : Bool := false
  enumValues : Option (List String) := none
  deriving DecidableEq, Inhabited

namespace Field

/-- Whether the field allows a write. -/
def allows (f : Field) : Capability → Bool
  | .creatable => f.creatable
  | .updatable => f.updatable

/-- Whether the field holds points in time. -/
def isDateTime (f : Field) : Bool := f.type = "datetime"

/-- Whether the field holds days. -/
def isDate (f : Field) : Bool := f.type = "date"

end Field

end Catalog

/-- The fields of a remote type, in order, each under its name. -/
structure Catalog where
  name : Value
  fields : List (Value × Catalog.Field)
  deriving DecidableEq, Inhabited

namespace Catalog

/-- A field put under its name: in place of one with the same name, at the end
otherwise. -/
def place : List (Value × Field) → Field → List (Value × Field)
  | [], f => [(f.name, f)]
  | (key, g) :: rest, f =>
    if key.sameKey f.name then (key, f) :: rest else (key, g) :: place rest f

/-- The catalog of a list of fields. -/
def ofFields (name : Value) (fields : List Field) : Catalog := ⟨name, fields.foldl place []⟩

/-- The field with a name. -/
def get? (c : Catalog) (name : String) : Option Field :=
  (c.fields.find? fun e => e.1 = .text name).map (·.2)

/-- Whether there is a field with a name. -/
def has (c : Catalog) (name : String) : Bool := (c.get? name).isSome

/-- The names of the fields, in order. -/
def names (c : Catalog) : List Value := c.fields.map (·.1)

/-- The names of the fields if all of them are texts; otherwise the kind of
the first one that is not. -/
def textNames (c : Catalog) : Except String (List String) :=
  c.names.mapM fun
    | .text s => .ok s
    | v => .error v.kindName

end Catalog

end RecordBridge
