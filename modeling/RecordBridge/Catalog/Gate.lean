/-
# The gate

Callers see different fields of one type, and a request that names a field its
caller cannot see fails as a whole.  So the gate drops such fields and records
a warning for each.  It never fails.

`projection` keeps the names that the type has, requested ones before default
ones, each at its first place.  `admitted` keeps the values of the fields that
allow a write.  A default that the type lacks is dropped without a warning,
since nobody asked for it.
-/

import RecordBridge.Catalog.Basic

namespace RecordBridge

/-- A note on something that was left out of a request. -/
structure Warning where
  code : String
  message : String
  field : Option String := none
  deriving DecidableEq, Repr

namespace Warning

/-- The warning as it stands in an answer. -/
def toObject (w : Warning) : Object :=
  [("targetType", .text "CdmWarning"), ("code", .text w.code), ("message", .text w.message)]
    ++ (match w.field with
      | some f => [("info", .object [("field", .text f)])]
      | none => [])

end Warning

namespace Catalog
namespace Gate

/-- The warning for a requested field that the type lacks. -/
def unknownRequest (name : String) : Warning :=
  { code := "integration.field.unknown"
    message := "Ignoring request for a field which is undefined for current user. Field name="
      ++ name
    field := some name }

/-- The warning for a value of a field that the type lacks. -/
def unknownValue (name : String) : Warning :=
  { code := "integration.field.unknown"
    message := "Ignoring value for a field which is undefined for current user. Field name="
      ++ name
    field := some name }

/-- The warning for a value of a field that does not allow the write. -/
def notPermitted (capability : Capability) (name : String) : Warning :=
  { code := "integration.field.notPermitted"
    message := "Ignoring value that is not " ++ capability.name ++ ". Field name=" ++ name
    field := some name }

/-- The names without repetitions, each at its first place. -/
def distinct (names : List String) : List String :=
  (names.foldl (fun seen n => if seen.contains n then seen else n :: seen) []).reverse

/-- The names that the type has, requested before default ones. -/
def projection (catalog : Catalog) (requested defaults : List String) : List String :=
  (distinct (requested ++ defaults)).filter catalog.has

/-- The warnings for requested names that neither the type nor the defaults
have. -/
def projectionWarnings (catalog : Catalog) (requested defaults : List String) : List Warning :=
  ((distinct requested).filter fun n => !catalog.has n && !defaults.contains n).map unknownRequest

/-- The values of the fields that allow the write. -/
def admitted (catalog : Catalog) (values : Object) (capability : Capability) : Object :=
  values.filter fun e => (catalog.get? e.1).any (·.allows capability)

/-- The warning for a value, if it is not admitted. -/
def valueWarning? (catalog : Catalog) (capability : Capability) (name : String) :
    Option Warning :=
  match catalog.get? name with
  | none => some (unknownValue name)
  | some f => if f.allows capability then none else some (notPermitted capability name)

/-- The warnings for the values that are not admitted. -/
def admissionWarnings (catalog : Catalog) (values : Object) (capability : Capability) :
    List Warning :=
  values.filterMap fun e => valueWarning? catalog capability e.1

end Gate
end Catalog

end RecordBridge
