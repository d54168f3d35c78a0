/-
# Remote records

A remote answer holds a list of records, or one record for a list of one.
`normalize` makes it a list; members that are no records are passed over.

`materialize` gives a record its generic shape: keys of the remote envelope
are left out, the identity becomes `externalId`, the time of the last change
becomes `externalTimestamp` in milliseconds since 1970, other points in time
become milliseconds, and everything else stays.  A record without a time of
change takes the fallback field for it.
-/

import RecordBridge.Catalog.Basic
import RecordBridge.Error
import RecordBridge.Settings
import RecordBridge.Value.Temporal

namespace RecordBridge
namespace Record

/-- The generic key of the identity. -/
def externalId : String := "externalId"

/-- The generic key of the time of the last change. -/
def externalTimestamp : String := "externalTimestamp"

/-- The mark of a deletion. -/
def deletedMark : String := "cdmDeleted"

/-- The records in a list of values. -/
def objectsIn (vs : List Value) : List Object := vs.filterMap Value.object?

/-- The records that a value holds. -/
def normalize : Value → Except Error (List Object)
  | .null => .ok []
  | .object es => .ok [es]
  | .list vs | .tuple vs => .ok (objectsIn vs)
  | v => .error (.notRecords v.kindName)

/-- A field as milliseconds.  A value that is no point in time is an error of
the record; a time out of range is a fault. -/
def epochField (field : String) (v : Value) : Except Failure Value :=
  match v.epochMillis with
  | .ok n => .ok (Value.ofOption (n.map .int))
  | .error f =>
    if f.isInValue then .error (.error (.record (.invalidTimestamp field v)))
    else .error (.time f)

/-- The key and the value that a field of a record becomes; `none` for a field
that is left out. -/
def materializeField (mapping : RecordMapping) (catalog : Catalog) (key : String) (v : Value) :
    Except Failure (Option (String × Value)) :=
  if mapping.envelopeKeys.contains key then .ok none
  else if key = mapping.identityField then .ok (some (externalId, v))
  else if key = mapping.timestampField then
    (epochField key v).map fun n => some (externalTimestamp, n)
  else if (catalog.get? key).any (·.isDateTime) then
    (epochField key v).map fun n => some (key, n)
  else .ok (some (key, v))

/-- The fields of a record, put into what there is already, in order. -/
def materializeFields (mapping : RecordMapping) (catalog : Catalog) (done : Object) :
    Object → Except Failure Object
  | [] => .ok done
  | (key, v) :: es => do
    match ← materializeField mapping catalog key v with
    | none => materializeFields mapping catalog done es
    | some (k, w) => materializeFields mapping catalog (done.set k w) es

/-- Whether a record has a time of change. -/
def hasTimestamp (result : Object) : Bool :=
  match result.get? externalTimestamp with
  | none | some .null => false
  | _ => true

/-- A remote record in its generic shape. -/
def materializeOne (mapping : RecordMapping) (catalog : Catalog) (record : Object) :
    Except Failure Object := do
  let result ← materializeFields mapping catalog [] record
  if hasTimestamp result then .ok result
  else
    let fallback := mapping.fallbackTimestampField
    let time ← epochField fallback (Value.ofOption (record.get? fallback))
    .ok (result.set externalTimestamp time)

/-- Remote records in their generic shape, in order. -/
def materializeAll (mapping : RecordMapping) (catalog : Catalog) :
    List Object → Except Failure (List Object)
  | [] => .ok []
  | r :: rs => do
    let x ← materializeOne mapping catalog r
    let xs ← materializeAll mapping catalog rs
    .ok (x :: xs)

/-- The records that a value holds, in their generic shape. -/
def materialize (mapping : RecordMapping) (catalog : Catalog) (payload : Value) :
    Except Failure (List Object) := do
  let records ← (normalize payload).mapError fun e => Failure.error (.record e)
  materializeAll mapping catalog records

/-- The record that stands for a deletion. -/
def tombstone (id : Value) : Object := [(externalId, id), (deletedMark, .bool true)]

end Record
end RecordBridge
