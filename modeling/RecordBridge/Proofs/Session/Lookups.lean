/-
# Literals in the requests of a session

A folder and a document are looked up by queries with their names, and the
identifier of the folder, between quotes.  The value of such a query decodes to a
text that is made up of fixed pieces with these literals between them, so a reader
that goes by quotes and backslashes finds the values again, whatever they hold
(`talks_folderId`, `talks_findDocument`).

Together with the literals of filters this is all that is ever quoted.  A literal
delimits itself and loses nothing (`quoted_literals_read_back`).
-/

import RecordBridge.Proofs.Condition.Meaning
import RecordBridge.Proofs.Condition.Quoting
import RecordBridge.Proofs.Session.Conduct
import RecordBridge.Proofs.Text.PercentDecoding

namespace RecordBridge
namespace Session

variable {τ : Type}

/-- Whether an exchange asks for a query that decodes to some pieces with values between
them as literals. -/
def LooksUp (s : Session) (pieces values : List String) (e : Exchange) : Prop :=
  ∃ value text, e.request = s.httpRequest "GET" ("query/?q=" ++ value) none ∧
    Text.Percent.decode? value = some text ∧
      Filter.Interleaves pieces (values.map .text) text.toList

/-- The pieces around the name of a folder. -/
def folderPieces : List String := ["SELECT Id FROM Folder WHERE DeveloperName = ", ""]

/-- The pieces around the name of a document and the identifier of its folder. -/
def documentPieces : List String :=
  ["SELECT Id, ContentType, Body FROM Document WHERE DeveloperName = ", " AND FolderId = ", ""]

theorem interleaves_folderQuery (folder : String) :
    Filter.Interleaves folderPieces [.text folder] (folderQuery folder).toList := by
  have h := Filter.Interleaves.quote "SELECT Id FROM Folder WHERE DeveloperName = " folder .nothing
  rwa [List.append_nil, ← String.toList_append] at h

theorem interleaves_documentQuery (id document : String) :
    Filter.Interleaves documentPieces [.text document, .text id]
      (documentQuery id document).toList := by
  have h := Filter.Interleaves.quote
    "SELECT Id, ContentType, Body FROM Document WHERE DeveloperName = " document
    (.quote " AND FolderId = " id .nothing)
  rw [List.append_nil, ← String.toList_append, ← String.toList_append, ← String.toList_append,
    ← String.append_assoc, ← String.append_assoc] at h
  exact h

theorem looksUp_of_interleaves (s : Session) {pieces : List String} (values : List String)
    {text : String} (h : Filter.Interleaves pieces (values.map .text) text.toList)
    (answer : Except Failure (Except NoAnswer Reply)) :
    s.LooksUp pieces values ⟨s.httpRequest "GET" (queryResource text) none, answer⟩ :=
  ⟨Text.Percent.encodeQuery text, text, rfl, Text.Percent.decode?_encodeQuery text, h⟩

/-- **A folder is looked up by its name**, in one exchange. -/
theorem talks_folderId (t : Transport τ) (s : Session) (folder : String) :
    Talks s (folderId t.watched folder) (folderId t folder) fun new _ _ =>
      ∃ e, new = [e] ∧ s.LooksUp folderPieces [folder] e := by
  have hlookup := looksUp_of_interleaves s [folder] (interleaves_folderQuery folder)
  refine .bind (Talks.query t (folderQuery folder)) ?_ ?_
  · rintro _ records _ ⟨rfl, answer, rfl, -⟩
    exact .ofTraced ⟨_, rfl, hlookup answer⟩
  · rintro _ e _ ⟨rfl, answer, rfl, -⟩
    exact ⟨_, rfl, hlookup answer⟩

/-- **A document is looked up by its name and the identifier of its folder**, in one
exchange. -/
theorem talks_findDocument (t : Transport τ) (s : Session) (id document : String) :
    Talks s (findDocument t.watched (.text id) document) (findDocument t (.text id) document)
      fun new _ _ => ∃ e, new = [e] ∧ s.LooksUp documentPieces [document, id] e := by
  refine (Talks.findDocument t (.text id) document).mono ?_
  rintro new r _ ⟨-, ⟨-, -, hnone⟩ | ⟨found, answer, hfound, rfl, -⟩⟩
  · exact absurd rfl (hnone id)
  · obtain rfl := Value.text.inj hfound
    exact ⟨_, rfl, looksUp_of_interleaves s [document, id] (interleaves_documentQuery id document)
      answer⟩

/-- **A literal delimits itself and loses nothing.**  Whatever follows a quoted text, a
reader stops at its closing quote, and the text is what is left without the escapes; so
texts that differ have literals that differ.  It stops at the closing quote of a pattern
likewise.  So what a folder or a document is looked up by, and every operand of a filter
that is quoted, can be read back. -/
theorem quoted_literals_read_back :
    (∀ (s : String) (r : List Char), ∃ body,
      body = Filter.escapeAll '\'' (Filter.escapeAll '\\' s.toList) ∧
        (Filter.quote s).toList = '\'' :: body ++ ['\''] ∧
          Filter.lexQuoted ((Filter.quote s).toList ++ r) = some (body, r) ∧
            Filter.unescape body = s.toList) ∧
      Function.Injective Filter.quote ∧
      (∀ (operand : Value) (like : String) (r : List Char), Filter.patternOf operand = .ok like →
        Filter.lexQuoted ('\'' :: like.toList ++ ['\''] ++ r) = some (like.toList, r)) ∧
      (∀ (catalog : Catalog) (t : Filter.Tree) (text : String),
        Filter.render catalog t = .ok text →
          Filter.Carries (∃ c ∈ t.leaves, c.HasBareQuote catalog)
            (t.leaves.flatMap (Filter.quotedIn catalog)) text.toList) ∧
      ∀ (τ : Type) (t : Transport τ) (s : Session),
        (∀ folder, Talks s (folderId t.watched folder) (folderId t folder) fun new _ _ =>
          ∃ e, new = [e] ∧ s.LooksUp folderPieces [folder] e) ∧
        ∀ id document, Talks s (findDocument t.watched (.text id) document)
          (findDocument t (.text id) document) fun new _ _ =>
            ∃ e, new = [e] ∧ s.LooksUp documentPieces [document, id] e := by
  refine ⟨fun s r => ⟨s.toList.flatMap Filter.quoteChar, ?_, ?_, ?_, ?_⟩,
    Filter.quote_injective, fun operand like r h => ?_, fun catalog t text h => ?_,
    fun τ t s => ⟨talks_folderId t s, talks_findDocument t s⟩⟩
  · exact Filter.flatMap_quoteChar s.toList
  · exact Filter.quote_eq s
  · exact Filter.lexQuoted_quote s r
  · exact Filter.unescape_flatMap_quoteChar s.toList
  · exact Filter.lexQuoted_body (Filter.isBody_patternOf h) r
  · exact Filter.carries_render (fun c hc hbare => ⟨c, hc, hbare⟩) h

/-- `quoted_literals_read_back` for a pattern with a quote in it, and for a filter whose
operands look like syntax. -/
theorem quoted_literals_read_back_hostile :
    Filter.patternOf (.text "^it's \\(.*$") = .ok "it\\'s (%" ∧
      Filter.lexQuoted "'it\\'s (%' OR 'b'".toList
        = some ("it\\'s (%".toList, " OR 'b'".toList) ∧
      Filter.render Filter.kindsCatalog Filter.hostileTree = .ok Filter.hostileText ∧
      Filter.Carries False [.text "a') OR (b", .text "x AND y", .pattern "it\\'s (%"]
        Filter.hostileText.toList := by
  obtain ⟨-, -, hpattern, hfilter, -⟩ := quoted_literals_read_back
  have hlike : Filter.patternOf (.text "^it's \\(.*$") = .ok "it\\'s (%" := rfl
  have hrender : Filter.render Filter.kindsCatalog Filter.hostileTree = .ok Filter.hostileText :=
    rfl
  have hnone : ∀ c ∈ Filter.hostileTree.leaves,
      '\'' ∉ c.field.toList ∧ c.hasRawText Filter.kindsCatalog = false := by decide
  refine ⟨hlike, hpattern _ _ " OR 'b'".toList hlike, hrender, ?_⟩
  obtain ⟨pieces, hpieces, hquotes⟩ := hfilter _ _ _ hrender
  refine ⟨pieces, hpieces, fun piece hpiece hquote => ?_⟩
  obtain ⟨c, hc, hbare⟩ := hquotes piece hpiece hquote
  exact Filter.not_hasBareQuote (hnone c hc).1 (hnone c hc).2 hbare

end Session
end RecordBridge
