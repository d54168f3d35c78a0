/-
# Describing types

A session asks once for the description of a type and keeps its catalog.  The
name has to be an ASCII letter followed by letters, digits and underscores; a
line end behind it is let through.

The call has two halves, so that other calls may come between them: `lookUp`
decides from the session whether a description is needed, and `accept` makes
the answer a catalog and keeps it.
-/

import RecordBridge.Record.Materialize
import RecordBridge.Session.Basic
import RecordBridge.Text.Percent

namespace RecordBridge
namespace Session

/-- Whether a character may stand in the name of a type. -/
def isNameChar (c : Char) : Bool := c.isAlphanum || c = '_'

/-- The characters of a name without a line end behind them. -/
def dropLineEnd (cs : List Char) : List Char :=
  match cs.reverse with
  | '\n' :: rest => rest.reverse
  | _ => cs

/-- Whether a text is let through as the name of a type. -/
def isTypeName (name : String) : Bool :=
  match dropLineEnd name.toList with
  | [] => false
  | c :: cs => c.isAlpha && cs.all isNameChar

/-- The resource of a description. -/
def describeResource (typeName : String) : String := "sobjects/" ++ typeName ++ "/describe/"

/-- What a session knows about a type before it asks. -/
inductive LookUp
  | known (c : Catalog)
  | refused
  | unknown

/-- What the session knows about a type. -/
def lookUp (s : Session) (typeName : String) : LookUp :=
  match s.catalogs.get? typeName with
  | some c => .known c
  | none => if isTypeName typeName then .unknown else .refused

/-- The catalog that a description holds. -/
def describedCatalog (typeName : String) (description : Value) : Except Error Catalog :=
  (Catalog.ofDescription description).mapError (.malformedDescription typeName)

/-- The session with a catalog under a name. -/
def keep (s : Session) (typeName : String) (c : Catalog) : Session :=
  { s with catalogs := s.catalogs.set typeName c }

variable {τ : Type}

/-- Makes the description of a type a catalog and keeps it. -/
def accept (typeName : String) (description : Value) : Over τ Catalog := do
  let c ← Flow.ofExcept ((describedCatalog typeName description).mapError Failure.session)
  update (keep · typeName c)
  Flow.log .debug .session
    ("Described " ++ typeName ++ ": " ++ toString c.fields.length ++ " fields")
  pure c

/-- The catalog of a type, described if it has to be. -/
def catalog (t : Transport τ) (typeName : String) : Over τ Catalog := do
  match (← current).lookUp typeName with
  | .known c => pure c
  | .refused => Flow.fail (.session (.invalidTypeName (some typeName)))
  | .unknown =>
    let description ← expect t "GET" (describeResource typeName) 200 none
    accept typeName description

/-- The catalog of a type whose name may be missing. -/
def catalogOf? (t : Transport τ) : Option String → Over τ Catalog
  | some typeName => catalog t typeName
  | none => Flow.fail (.session (.invalidTypeName none))

/-- Other credentials for the session. -/
def updateCredentials (accessToken : String) (instanceUrl : Option String) : Over τ Unit := do
  update (·.withCredentials accessToken instanceUrl)
  Flow.log .info .session "Session credentials updated; type cache cleared"

/-- The resource that tells the deletions of a type between two times. -/
def deletedResource (typeName start stop : String) : String :=
  "sobjects/" ++ typeName ++ "/deleted/?start=" ++ Text.Percent.encodeSegment start
    ++ "&end=" ++ Text.Percent.encodeSegment stop

/-- The records under a key of a body; a body that is empty has none. -/
def recordsUnder (key : String) (body : Value) : Except Failure (List Object) := do
  let body := if body.isPresent then body else .object []
  let found ← (body.field? key).mapError Failure.shape
  (Record.normalize (Value.ofOption found)).mapError fun e => Failure.error (.record e)

/-- The identifiers in a list of records; a record without one is passed over. -/
def idsOf (records : List Object) : List Value :=
  records.filterMap fun r =>
    match r.get? "id" with
    | none | some .null => none
    | some v => some (.text v.display)

/-- The identifiers of the records of a type deleted between two times. -/
def deletedBetween (t : Transport τ) (typeName start stop : String) : Over τ (List Value) := do
  let body ← expect t "GET" (deletedResource typeName start stop) 200 none
  let records ← Flow.ofExcept (recordsUnder "deletedRecords" body)
  pure (idsOf records)

end Session
end RecordBridge
