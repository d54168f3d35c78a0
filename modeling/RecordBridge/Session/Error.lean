/-
# What can go wrong in a session

The causes for which the session itself fails: a request that got no answer,
an answer that is no JSON, a name it refuses, a description it cannot read and
a folder that is not there.
-/

import RecordBridge.Value.Shape

namespace RecordBridge
namespace Session

/-- Why a session failed. -/
inductive Error
  /-- The request got no answer; the transport says why. -/
  | noAnswer (method resource reason detail : String)
  /-- The body of the answer is no JSON. -/
  | notJson (method resource : String) (status : Int)
  /-- The name cannot be the name of a type, or there is none. -/
  | invalidTypeName (name : Option String)
  /-- The description of a type could not be taken apart. -/
  | malformedDescription (typeName : String) (fault : ShapeFault)
  | folderNotFound (folder : String)
  /-- The name does not have the form `<Folder>/<Document>`. -/
  | invalidDocumentName (name : Option String)

namespace Error

/-- The message of the error. -/
def message : Error → String
  | .noAnswer method resource reason detail =>
    method ++ " " ++ resource ++ " failed: " ++ reason ++ ": " ++ detail
  | .notJson method resource status =>
    "Non-JSON response from " ++ method ++ " " ++ resource
      ++ " (status " ++ toString status ++ ")"
  | .invalidTypeName name => "Invalid entity type name: " ++ (Value.ofText? name).inspect
  | .malformedDescription typeName fault =>
    "Malformed describe response for " ++ typeName ++ ": " ++ fault.describe
  | .folderNotFound folder => "Folder not found: " ++ folder
  | .invalidDocumentName name =>
    "Document name must look like '<Folder>/<Document>', got " ++ (Value.ofText? name).inspect

/-- The code of the error. -/
def code (_ : Error) : String := "integration.session.error"

end Error

end Session
end RecordBridge
