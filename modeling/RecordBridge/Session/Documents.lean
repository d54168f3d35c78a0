/-
# Documents

A document lies in a folder, and its name is `<Folder>/<Document>`.  Both are
looked up by queries, the document within the identifier of its folder.

Reading sends no request that writes.  Writing sends at most one, as its last
request and only after both queries were answered: it changes the document
that was found, or creates one.
-/

import RecordBridge.Filter.Literal
import RecordBridge.Session.Types
import RecordBridge.Text.Base64

namespace RecordBridge
namespace Session

/-- The folder and the document of a name, after slashes at its front. -/
def splitDocumentName (name : Option String) : Except Error (String × String) :=
  let cs := (name.getD "").toList.dropWhile (· = '/')
  let folder := cs.takeWhile (· ≠ '/')
  match cs.dropWhile (· ≠ '/') with
  | [] => .error (.invalidDocumentName name)
  | _ :: document =>
    if folder.isEmpty || document.isEmpty || document.contains '/' then
      .error (.invalidDocumentName name)
    else .ok (String.ofList folder, String.ofList document)

/-- The query for a folder. -/
def folderQuery (folder : String) : String :=
  "SELECT Id FROM Folder WHERE DeveloperName = " ++ Filter.quote folder

/-- The query for a document in a folder. -/
def documentQuery (folderId document : String) : String :=
  "SELECT Id, ContentType, Body FROM Document WHERE DeveloperName = " ++ Filter.quote document
    ++ " AND FolderId = " ++ Filter.quote folderId

/-- The resource of a query. -/
def queryResource (query : String) : String := "query/?q=" ++ Text.Percent.encodeQuery query

variable {τ : Type}

/-- The records that a query finds. -/
def query (t : Transport τ) (text : String) : Over τ (List Object) := do
  let body ← expect t "GET" (queryResource text) 200 none
  Flow.ofExcept (recordsUnder "records" body)

/-- The identifier in the first of the records; null counts as none. -/
def firstId (records : List Object) : Except ShapeFault (Option Value) :=
  match records with
  | [] => .ok none
  | r :: _ => do
    let id ← (Value.object r).at? "Id"
    .ok (if id.isNull then none else some id)

/-- The identifier of a folder, if it is there. -/
def folderId (t : Transport τ) (folder : String) : Over τ (Option Value) := do
  let records ← query t (folderQuery folder)
  Flow.ofExcept ((firstId records).mapError Failure.shape)

/-- The text of an identifier, which is quoted in the next query. -/
def idText (id : Value) : Except ShapeFault String :=
  match id with
  | .text s => .ok s
  | v => .error (.noOperation v.kindName "replace")

/-- The record of a document in a folder, if it is there. -/
def findDocument (t : Transport τ) (folderId : Value) (document : String) :
    Over τ (Option Object) := do
  let id ← Flow.ofExcept ((idText folderId).mapError Failure.shape)
  let records ← query t (documentQuery id document)
  pure records.head?

/-- The address of the content of a document, which has to be a text. -/
def contentAddress (url : Value) : Except ShapeFault String :=
  match url with
  | .text s => .ok s
  | v => .error (.noOperation v.kindName "startswith")

/-- The content at an address in base 64; null without an address. -/
def content (t : Transport τ) (url : Value) : Over τ Value := do
  if url.isPresent then
    let address ← Flow.ofExcept ((contentAddress url).mapError Failure.shape)
    let r ← exchange t "GET" address none
    let _ ← Flow.ofExcept (bodyOf "GET" address 200 { status := r.status })
    pure (.text (Text.Base64.encode r.body))
  else pure .null

/-- The document of a name, if there is one. -/
def fetchDocument (t : Transport τ) (name : Option String) : Over τ (Option Document) := do
  let (folder, document) ← Flow.ofExcept ((splitDocumentName name).mapError Failure.session)
  match ← folderId t folder with
  | none => pure none
  | some id =>
    match ← findDocument t id document with
    | none => pure none
    | some record =>
      let url := Value.ofOption (record.get? "Body")
      let content ← content t url
      pure (some { contentType := Value.ofOption (record.get? "ContentType"), url, content })

/-- The fields of a document that are written. -/
def documentFields (contentType content : String) : Object :=
  [("ContentType", .text contentType), ("Body", .text content)]

/-- The resource of a document. -/
def documentResource (id : String) : String :=
  "sobjects/Document/" ++ Text.Percent.encodeSegment id

/-- Replaces the content of a document that was found. -/
def replaceDocument (t : Transport τ) (name : String) (found : Object)
    (contentType content : String) : Over τ String := do
  let id ← Flow.ofExcept (((Value.object found).at? "Id").mapError Failure.shape)
  let id := id.display
  let _ ← expect t "PATCH" (documentResource id) 204 (some (documentFields contentType content))
  Flow.log .info .session ("Updated document " ++ name ++ " (" ++ id ++ ")")
  pure id

/-- Creates a document in a folder. -/
def createDocument (t : Transport τ) (name : String) (folderId : Value)
    (document contentType content : String) : Over τ String := do
  let fields := documentFields contentType content
    ++ [("Name", .text document), ("DeveloperName", .text document), ("FolderId", folderId)]
  let created ← expect t "POST" "sobjects/Document/" 201 (some fields)
  let id ← Flow.ofExcept ((created.at? "id").mapError Failure.shape)
  let id := id.display
  Flow.log .info .session ("Created document " ++ name ++ " (" ++ id ++ ")")
  pure id

/-- Creates a document or replaces its content; its identifier. -/
def upsertDocument (t : Transport τ) (name : Option String) (contentType content : String) :
    Over τ String := do
  let (folder, document) ← Flow.ofExcept ((splitDocumentName name).mapError Failure.session)
  match ← folderId t folder with
  | none => Flow.fail (.session (.folderNotFound folder))
  | some id =>
    match ← findDocument t id document with
    | some found => replaceDocument t (name.getD "") found contentType content
    | none => createDocument t (name.getD "") id document contentType content

/-- The session as the remote side of a bridge. -/
def remote (t : Transport τ) : Remote (Session × τ) where
  catalog name := some <$> catalog t name
  request method resource body := request t method resource body
  deletedBetween name start stop := deletedBetween t name start stop
  fetchDocument name := fetchDocument t (some name)
  upsertDocument name contentType content := upsertDocument t (some name) contentType content

end Session
end RecordBridge
