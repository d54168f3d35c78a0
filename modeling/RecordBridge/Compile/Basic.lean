/-
# From directives to requests

| operation | method   | resource                              | status |
| --------- | -------- | ------------------------------------- | ------ |
| SELECT    | `GET`    | `query/?q=<query>`, or the cursor     | 200    |
| INSERT    | `POST`   | `sobjects/<type>/`                    | 201    |
| UPDATE    | `PATCH`  | `sobjects/<type>/<identifier>`        | 204    |
| DELETE    | `DELETE` | `sobjects/<type>/<identifier>`        | 204    |
| INVOKE    |          | fetch or refresh a document           |        |

`compile` sees a directive through the catalog of its caller: properties and
values that the catalog does not grant are left out with a warning, and a
filter may only mention fields of the catalog.  The directive itself is never
changed; the compiled one carries a copy with what remained.
-/

import RecordBridge.Compile.Delta
import RecordBridge.Compile.Request
import RecordBridge.Filter.Render
import RecordBridge.Text.Percent

namespace RecordBridge
namespace Compile

/-- The records of the warnings in the log. -/
def logWarnings (ws : List Warning) : Traced Unit :=
  ⟨.ok (), ws.map fun w => ⟨.warning, .gate, w.message⟩⟩

/-- The operation of a directive, which has to be one of the five. -/
def operationOf (d : Directive) : Except Directive.Error Operation :=
  match d.operation? with
  | some o => .ok o
  | none => .error (.unrecognizedOperation (.text d.op))

/-- A parameter as it counts: null and empty values do not. -/
def parameter? (params : Object) (key : String) : Option Value :=
  (params.get? key).filter Value.isPresent

/-- An invocation as an operation on a document. -/
def invocation (settings : Settings) (d : Directive) : Except Directive.Error DocumentInvoke := do
  if d.targetType ≠ settings.documentType then .error (.unsupportedInvoke d.name d.targetType)
  else
    let params := d.params.getD []
    match parameter? params "name" with
    | none =>
      .error (.missingParameter "params.name" (some "Document operation must include a name param"))
    | some name =>
      if d.name = some "fetch" then .ok (.fetch name.display)
      else if d.name = some "refresh" then
        let message := "Document refresh operation must include a contentType and content params"
        match parameter? params "contentType", parameter? params "content" with
        | none, _ => .error (.missingParameter "params.contentType" (some message))
        | some _, none => .error (.missingParameter "params.content" (some message))
        | some contentType, some content =>
          .ok (.refresh name.display contentType.display content.display)
      else .error (.unsupportedInvoke d.name d.targetType)

/-- A directive that invokes an operation. -/
def compileInvoke (settings : Settings) (d : Directive) : Traced Compiled := do
  let i ← Traced.ofExcept ((invocation settings d).mapError Failure.directive)
  pure { directive := d, action := .invoke i }

/-- A value of a field in the form in which it is sent: a number is written as
the point in time or the day that it denotes there. -/
def remoteValue (f : Option Catalog.Field) (v : Value) : Except Failure Value :=
  match f with
  | none => .ok v
  | some f =>
    if v.isNumber && f.isDateTime then
      match v.literalDateTime? with
      | some r => (r.mapError Failure.time).map .text
      | none => .ok v
    else if v.isNumber && f.isDate then
      match v.literalDate? with
      | some r => (r.mapError Failure.time).map .text
      | none => .ok v
    else .ok v

/-- Values in the form in which they are sent, in order. -/
def remoteValues (catalog : Catalog) : Object → Except Failure Object
  | [] => .ok []
  | (key, v) :: es => do
    let w ← remoteValue (catalog.get? key) v
    let ws ← remoteValues catalog es
    .ok ((key, w) :: ws)

/-- The properties that the catalog grants, and the warnings for the others. -/
def gateProperties (settings : Settings) (catalog : Catalog) (d : Directive) :
    Option (List String) × List Warning :=
  match d.properties with
  | none => (none, [])
  | some requested =>
    (some (Catalog.Gate.projection catalog requested settings.defaultFields),
      Catalog.Gate.projectionWarnings catalog requested settings.defaultFields)

/-- The query for properties of a type under a condition, which may be empty. -/
def queryText (properties : List String) (targetType condition : String) : String :=
  "SELECT " ++ Value.joined "," properties ++ " FROM " ++ targetType
    ++ (if condition.isEmpty then "" else " WHERE " ++ condition)

/-- The resource of a query. -/
def queryResource (query : String) : String := "query/?q=" ++ Text.Percent.encodeQuery query

/-- The resource of a record. -/
def recordResource (targetType id : String) : String :=
  "sobjects/" ++ targetType ++ "/" ++ Text.Percent.encodeSegment id

/-- The next page of a selection. -/
def compileCursor (d : Directive) (properties : Option (List String)) (warnings : List Warning)
    (cursor : String) : Traced Compiled := do
  Traced.log1 .info .compiler
    ("Fetching additional rows for: " ++ d.targetType ++ " with " ++ cursor)
  pure
    { directive := { d with properties }
      action := .request { method := .get, resource := cursor, expectedStatus := 200 }
      warnings }

/-- The filter of a directive, unless it is empty. -/
def givenFilter? (d : Directive) : Option Object := d.filter.filter fun es => !es.isEmpty

/-- The first page of a selection of properties. -/
def compileQuery (settings : Settings) (catalog : Catalog) (now : Int) (d : Directive)
    (properties : List String) (warnings : List Warning) : Traced Compiled := do
  let given := givenFilter? d
  let bound ← deltaBound settings now (given.getD [])
  let condition ← Traced.ofExcept (Filter.renderDocument catalog (.object bound.filter))
  let query := queryText properties d.targetType condition
  Traced.log1 (if settings.verbose then .info else .debug) .compiler
    ("Sending SOQL query: " ++ query)
  pure
    { directive :=
        { d with properties := some properties,
                 filter := if given.isSome then some bound.filter else d.filter }
      action := .request { method := .get, resource := queryResource query, expectedStatus := 200 }
      deltaSince := bound.since
      warnings }

/-- A selection. -/
def compileSelect (settings : Settings) (catalog : Catalog) (now : Int) (d : Directive)
    (properties : Option (List String)) (warnings : List Warning) : Traced Compiled :=
  match d.cursor?.filter (!·.isEmpty) with
  | some cursor => compileCursor d properties warnings cursor
  | none =>
    match properties with
    | none | some [] =>
      Traced.fail (.directive (.missingParameter "properties"
        (some "SELECT request must contain a property list")))
    | some ps => compileQuery settings catalog now d ps warnings

/-- A request that writes the admitted values. -/
def compileWrite (catalog : Catalog) (d : Directive) (properties : Option (List String))
    (warnings : List Warning) (capability : Catalog.Capability) (method : Method)
    (resource : String) (status : Int) : Traced Compiled := do
  let submitted := d.values.getD []
  let refused := Catalog.Gate.admissionWarnings catalog submitted capability
  logWarnings refused
  let values ← Traced.ofExcept
    (remoteValues catalog (Catalog.Gate.admitted catalog submitted capability))
  pure
    { directive := { d with properties, values := some values }
      action := .request { method, resource, expectedStatus := status, body := some values }
      warnings := warnings ++ refused }

/-- The identifier of the record that an operation is about. -/
def recordId (o : Operation) (d : Directive) : Except Directive.Error String :=
  match d.externalId?.filter (!·.isEmpty) with
  | some id => .ok id
  | none =>
    .error (.missingParameter "where.externalId"
      (some (o.tag ++ " request must identify the record with where.externalId")))

/-- A directive seen through the catalog of its caller. -/
def compile (settings : Settings) (catalog : Catalog) (now : Int) (d : Directive) :
    Traced Compiled := do
  match ← Traced.ofExcept ((operationOf d).mapError Failure.directive) with
  | .invoke => compileInvoke settings d
  | operation =>
    let (properties, warnings) := gateProperties settings catalog d
    logWarnings warnings
    match operation with
    | .select => compileSelect settings catalog now d properties warnings
    | .insert =>
      compileWrite catalog d properties warnings .creatable .post
        ("sobjects/" ++ d.targetType ++ "/") 201
    | .update => do
      let id ← Traced.ofExcept ((recordId .update d).mapError Failure.directive)
      compileWrite catalog d properties warnings .updatable .patch
        (recordResource d.targetType id) 204
    | _ => do
      let id ← Traced.ofExcept ((recordId operation d).mapError Failure.directive)
      pure
        { directive := { d with properties }
          action := .request
            { method := .delete, resource := recordResource d.targetType id, expectedStatus := 204 }
          warnings }

end Compile
end RecordBridge
