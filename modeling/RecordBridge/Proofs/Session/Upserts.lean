/-
# How a document is written

Both operations on documents look the document up in the same way: they ask for its
folder by name, and for the document in the identifier that the answer names
(`Lookups`).  Reading asks for nothing else but content.  Writing goes on like this:

| what was found              | what follows                            |
| --------------------------- | --------------------------------------- |
| no folder, or no answer     | an error                                |
| a record with an identifier | the fields of the document are replaced |
| a record without one        | an error                                |
| no record                   | a document is created in the folder     |

So there is at most one write, behind answers to both lookups and last, and exactly
one if an identifier is given back (`document_written_once`).
-/

import RecordBridge.Proofs.Catalog.Descriptions
import RecordBridge.Proofs.Session.Conduct

namespace RecordBridge
namespace Session

variable {τ α : Type}

/-! ### Names -/

/-- Whether a name is that of a folder and that of a document with a slash between them,
after slashes at its front. -/
def IsDocumentName (name : Option String) (folder document : String) : Prop :=
  ∃ slashes, (∀ c ∈ slashes, c = '/') ∧
    (name.getD "").toList = slashes ++ (folder.toList ++ '/' :: document.toList) ∧
      (folder ≠ "" ∧ '/' ∉ folder.toList) ∧ document ≠ "" ∧ '/' ∉ document.toList

theorem splitDocumentName_of_isDocumentName {name : Option String} {folder document : String}
    (h : IsDocumentName name folder document) :
    splitDocumentName name = .ok (folder, document) := by
  obtain ⟨slashes, hslashes, hname, ⟨hfolder, hfree⟩, hdocument, hfree'⟩ := h
  have hparts : ∀ c ∈ folder.toList, decide (c ≠ '/') = true := fun c hc =>
    decide_eq_true fun h => hfree (h ▸ hc)
  have hcs : (name.getD "").toList.dropWhile (· = '/')
      = folder.toList ++ '/' :: document.toList := by
    rw [hname, List.dropWhile_append_of_pos fun c hc => decide_eq_true (hslashes c hc)]
    cases hchars : folder.toList with
    | nil => exact absurd (String.toList_eq_nil_iff.1 hchars) hfolder
    | cons c cs =>
      refine List.dropWhile_cons_of_neg fun h => hfree ?_
      rw [hchars, of_decide_eq_true h]
      exact List.mem_cons_self
  have hfront : (folder.toList ++ '/' :: document.toList).takeWhile (· ≠ '/') = folder.toList := by
    rw [List.takeWhile_append_of_pos hparts, List.takeWhile_cons_of_neg (by decide),
      List.append_nil]
  have hback : (folder.toList ++ '/' :: document.toList).dropWhile (· ≠ '/')
      = '/' :: document.toList := by
    rw [List.dropWhile_append_of_pos hparts, List.dropWhile_cons_of_neg (by decide)]
  have hcheck : (folder.toList.isEmpty || document.toList.isEmpty
      || document.toList.contains '/') = false := by
    simp [hfolder, hdocument, hfree']
  simp only [splitDocumentName, hcs, hfront, hback, hcheck, String.ofList_toList]
  rfl

theorem isDocumentName_of_splitDocumentName {name : Option String} {folder document : String}
    (h : splitDocumentName name = .ok (folder, document)) :
    IsDocumentName name folder document := by
  obtain ⟨slashes, hall, hslashes⟩ : ∃ slashes, (∀ c ∈ slashes, c = '/') ∧
      slashes ++ (name.getD "").toList.dropWhile (· = '/') = (name.getD "").toList :=
    ⟨(name.getD "").toList.takeWhile (· = '/'),
      fun c hc => of_decide_eq_true (List.all_eq_true.1 List.all_takeWhile c hc),
      List.takeWhile_append_dropWhile⟩
  unfold splitDocumentName at h
  generalize (name.getD "").toList.dropWhile (· = '/') = cs at h hslashes
  have hparts : cs.takeWhile (· ≠ '/') ++ cs.dropWhile (· ≠ '/') = cs :=
    List.takeWhile_append_dropWhile
  dsimp only at h
  split at h
  · exact nomatch h
  · next c rest hback =>
    obtain rfl : c = '/' := by
      have hhead := List.head?_dropWhile_not (· ≠ '/') cs
      rw [hback] at hhead
      exact of_not_not (of_decide_eq_false hhead)
    split at h
    · exact nomatch h
    · next hcheck =>
      obtain ⟨rfl, rfl⟩ := Prod.mk.inj (Except.ok.inj h)
      refine ⟨slashes, hall, ?_, ?_⟩
      · rw [String.toList_ofList, String.toList_ofList, ← hback, hparts, hslashes]
      · simp only [Bool.not_eq_true, Bool.or_eq_false_iff, List.isEmpty_eq_false_iff,
          List.contains_eq_mem, decide_eq_false_iff_not] at hcheck
        obtain ⟨⟨hfolder, hdocument⟩, hfree⟩ := hcheck
        simp only [String.toList_ofList, ne_eq, String.ofList_eq_empty_iff]
        refine ⟨⟨hfolder, fun h => ?_⟩, hdocument, hfree⟩
        exact of_decide_eq_true (List.all_eq_true.1 List.all_takeWhile '/' h) rfl

/-- **A name is split into its folder and its document.** -/
theorem splitDocumentName_eq_ok_iff {name : Option String} {folder document : String} :
    splitDocumentName name = .ok (folder, document) ↔ IsDocumentName name folder document :=
  ⟨isDocumentName_of_splitDocumentName, splitDocumentName_of_isDocumentName⟩

theorem IsDocumentName.unique {name : Option String} {folder folder' document document' : String}
    (h : IsDocumentName name folder document) (h' : IsDocumentName name folder' document') :
    folder = folder' ∧ document = document' := by
  have hparts := (splitDocumentName_eq_ok_iff.2 h).symm.trans (splitDocumentName_eq_ok_iff.2 h')
  exact Prod.mk.inj (Except.ok.inj hparts)

/-! ### Lookups -/

/-- The request that looks a folder up. -/
def folderRequest (s : Session) (folder : String) : HttpRequest :=
  s.httpRequest "GET" (queryResource (folderQuery folder)) none

/-- The request that looks a document up in a folder. -/
def documentRequest (s : Session) (folderId document : String) : HttpRequest :=
  s.httpRequest "GET" (queryResource (documentQuery folderId document)) none

/-- Whether an answer names a folder by an identifier other than null, in the first of its
records. -/
def NamesFolder (answer : Except Failure (Except NoAnswer Reply)) (id : Value) : Prop :=
  ∃ record records, Finds answer (record :: records) ∧ record.get? "Id" = some id ∧ id ≠ .null

theorem firstId_eq_ok_some_iff {records : List Object} {id : Value} :
    firstId records = .ok (some id) ↔
      ∃ record rest, records = record :: rest ∧ record.get? "Id" = some id ∧ id ≠ .null := by
  have hnull : ∀ v : Value, v.isNull = true ↔ v = .null := by
    intro v
    cases v <;> simp [Value.isNull]
  cases records with
  | nil => exact iff_of_false (fun h => nomatch h) fun ⟨_, _, h, _⟩ => nomatch h
  | cons record rest =>
    constructor
    · intro h
      obtain ⟨v, hv, h⟩ := Outcome.bind_eq_ok_iff.1 h
      obtain ⟨_, hrecord, hv⟩ := Catalog.at?_eq_ok_iff.1 hv
      obtain rfl := Value.object.inj hrecord
      obtain ⟨hpresent, rfl⟩ : ¬ v.isNull = true ∧ v = id := by
        simpa using h
      exact ⟨record, rest, rfl, hv, fun h => hpresent ((hnull _).2 h)⟩
    · rintro ⟨_, _, hsplit, hid, hpresent⟩
      obtain ⟨rfl, rfl⟩ := List.cons.inj hsplit
      refine Outcome.bind_eq_ok_iff.2 ⟨id, Catalog.at?_eq_ok_iff.2 ⟨_, rfl, hid⟩, ?_⟩
      rw [if_neg fun h => hpresent ((hnull _).1 h)]

theorem NamesFolder.unique {answer : Except Failure (Except NoAnswer Reply)} {id id' : Value}
    (h : NamesFolder answer id) (h' : NamesFolder answer id') : id = id' := by
  obtain ⟨record, records, hfound, hid, -⟩ := h
  obtain ⟨record', records', hfound', hid', -⟩ := h'
  obtain ⟨rfl, -⟩ := List.cons.inj (hfound.unique hfound')
  exact Option.some.inj (hid.symm.trans hid')

/-- The lookups of a document at the front of what is exchanged for it. -/
inductive Lookups (s : Session) (name : Option String) : List Exchange → Prop
  /-- Without a name of a document nothing is asked for. -/
  | misnamed (hname : ∀ folder document, ¬ IsDocumentName name folder document) :
    Lookups s name []
  /-- Without an answer that names the folder by a text nothing else is asked for. -/
  | unplaced {folder document : String} {answer : Except Failure (Except NoAnswer Reply)}
    (hname : IsDocumentName name folder document)
    (hunplaced : ∀ id, ¬ NamesFolder answer (.text id)) :
    Lookups s name [⟨s.folderRequest folder, answer⟩]
  /-- The document is looked up in the identifier that the answer names. -/
  | placed {folder document id : String} {answer answer' : Except Failure (Except NoAnswer Reply)}
    {rest : List Exchange} (hname : IsDocumentName name folder document)
    (hplaced : NamesFolder answer (.text id)) :
    Lookups s name (⟨s.folderRequest folder, answer⟩ :: ⟨s.documentRequest id document, answer'⟩ ::
      rest)

/-- The lookups themselves write nothing. -/
theorem Lookups.get {s : Session} {name : Option String} {exchanges : List Exchange}
    (h : Lookups s name exchanges) (hshort : exchanges.length ≤ 2) :
    ∀ e ∈ exchanges, e.request.method = "GET" := by
  cases h with
  | misnamed => exact List.forall_mem_nil _
  | unplaced => exact List.forall_mem_singleton.2 rfl
  | @placed _ _ _ _ _ rest =>
    obtain rfl : rest = [] := List.eq_nil_of_length_eq_zero (by
      rw [List.length_cons, List.length_cons] at hshort
      omega)
    exact List.forall_mem_cons.2 ⟨rfl, List.forall_mem_singleton.2 rfl⟩

/-- What the lookups of a document come to: its folder and its own name, and the identifier
of the folder with the record of the document, as far as they are there. -/
structure Location where
  folder : String
  document : String
  placed : Option (Value × Option Object)

/-- Looks a document up. -/
def locate (t : Transport τ) (name : Option String) : Over τ Location := do
  let (folder, document) ← Flow.ofExcept ((splitDocumentName name).mapError Failure.session)
  match ← folderId t folder with
  | none => pure { folder, document, placed := none }
  | some id =>
    let found ← findDocument t id document
    pure { folder, document, placed := some (id, found) }

/-- Reads a document where it is. -/
def readAt (t : Transport τ) (l : Location) : Over τ (Option Document) :=
  match l.placed with
  | none => pure none
  | some (_, found) =>
    match found with
    | none => pure none
    | some record => do
      let url := Value.ofOption (record.get? "Body")
      let content ← content t url
      pure (some { contentType := Value.ofOption (record.get? "ContentType"), url, content })

/-- Writes a document where it is, or has to be. -/
def writeAt (t : Transport τ) (name contentType content : String) (l : Location) :
    Over τ String :=
  match l.placed with
  | none => Flow.fail (.session (.folderNotFound l.folder))
  | some (id, found) =>
    match found with
    | some record => replaceDocument t name record contentType content
    | none => createDocument t name id l.document contentType content

theorem locate_bind (t : Transport τ) (name : Option String) (k : Location → Over τ α) :
    locate t name >>= k = (do
      let (folder, document) ← Flow.ofExcept ((splitDocumentName name).mapError Failure.session)
      match ← folderId t folder with
      | none => k { folder, document, placed := none }
      | some id =>
        let found ← findDocument t id document
        k { folder, document, placed := some (id, found) }) := by
  simp only [locate, Flow.bind_assoc]
  congr 1
  funext ⟨folder, document⟩
  congr 1
  funext id
  cases id with
  | none => rfl
  | some id => rw [Flow.bind_assoc]; rfl

theorem fetchDocument_eq (t : Transport τ) (name : Option String) :
    fetchDocument t name = locate t name >>= readAt t := by
  rw [locate_bind]
  rfl

theorem upsertDocument_eq (t : Transport τ) (name : Option String) (contentType content : String) :
    upsertDocument t name contentType content
      = locate t name >>= writeAt t (name.getD "") contentType content := by
  rw [locate_bind]
  rfl

/-- The lookups of a document with what they come to. -/
inductive Locates (s : Session) (name : Option String) :
    List Exchange → Except Failure Location → Prop
  | astray {exchanges : List Exchange} {r : Except Failure Location}
    (hlookups : Lookups s name exchanges) (hshort : exchanges.length ≤ 2)
    (hastray : ∀ l, r = .ok l → l.placed = none) : Locates s name exchanges r
  | located {folder document id : String} {answer answer' : Except Failure (Except NoAnswer Reply)}
    {found : List Object} (hname : IsDocumentName name folder document)
    (hplaced : NamesFolder answer (.text id)) (hfound : Finds answer' found) :
    Locates s name [⟨s.folderRequest folder, answer⟩, ⟨s.documentRequest id document, answer'⟩]
      (.ok ⟨folder, document, some (.text id, found.head?)⟩)

namespace Talks

variable {s : Session} (t : Transport τ)

/-- A folder is looked up in one exchange, and comes to what the answer names. -/
theorem folderId (folder : String) :
    Talks s (Session.folderId t.watched folder) (Session.folderId t folder) fun new r s' =>
      s' = s ∧ ∃ answer, new = [⟨s.folderRequest folder, answer⟩] ∧
        ∀ id, r = .ok (some id) ↔ NamesFolder answer id := by
  refine bind (query t (folderQuery folder)) ?_ ?_
  · rintro _ records _ ⟨rfl, answer, rfl, hfound⟩
    refine ofTraced ⟨rfl, answer, rfl, fun id => Outcome.mapError_eq_ok_iff.trans ?_⟩
    have hrecords : Finds answer records := (hfound records).1 rfl
    rw [firstId_eq_ok_some_iff]
    constructor
    · rintro ⟨record, rest, rfl, hid⟩
      exact ⟨record, rest, hrecords, hid⟩
    · rintro ⟨record, rest, hnamed, hid⟩
      exact ⟨record, rest, hrecords.unique hnamed, hid⟩
  · rintro _ e _ ⟨rfl, answer, rfl, hfound⟩
    refine ⟨rfl, answer, rfl, fun id => ⟨fun h => (nomatch h), ?_⟩⟩
    rintro ⟨record, records, hrecords, -⟩
    exact nomatch (hfound _).2 hrecords

/-- **A document is looked up in its folder.** -/
theorem locate (name : Option String) :
    Talks s (Session.locate t.watched name) (Session.locate t name) fun new r s' =>
      s' = s ∧ Locates s name new r := by
  refine ofTraced_bind (fun (folder, document) hparts => ?_) fun e he => ?_
  · have hname : IsDocumentName name folder document :=
      splitDocumentName_eq_ok_iff.1 (Outcome.mapError_eq_ok_iff.1 hparts)
    refine bind (folderId t folder) ?_ ?_
    · rintro _ id _ ⟨rfl, answer, rfl, hid⟩
      cases id with
      | none =>
        refine ofTraced ⟨rfl, .astray (.unplaced hname fun id hplaced => ?_) (Nat.le_succ 1) ?_⟩
        · exact nomatch Except.ok.inj ((hid _).2 hplaced)
        · rintro _ h
          rw [← Except.ok.inj h]
      | some id =>
        have hplaced : NamesFolder answer id := (hid id).1 rfl
        refine bind (findDocument t id document) ?_ ?_
        · rintro _ found _ ⟨rfl, ⟨-, ⟨_, he⟩, -⟩ | ⟨text, answer', rfl, rfl, hfound⟩⟩
          · exact nomatch he
          · obtain ⟨records, hrecords, rfl⟩ := (hfound found).1 rfl
            exact ofTraced ⟨rfl, .located hname hplaced hrecords⟩
        · rintro _ e _ ⟨rfl, ⟨rfl, -, hnone⟩ | ⟨text, answer', rfl, rfl, -⟩⟩
          · refine ⟨rfl, .astray (.unplaced hname fun text htext => ?_) (Nat.le_succ 1) ?_⟩
            · exact hnone text (hplaced.unique htext)
            · exact fun _ h => nomatch h
          · exact ⟨rfl, .astray (.placed hname hplaced) (Nat.le_refl 2) fun _ h => nomatch h⟩
    · rintro _ e _ ⟨rfl, answer, rfl, hid⟩
      refine ⟨rfl, .astray (.unplaced hname fun id hplaced => ?_) (Nat.le_succ 1) ?_⟩
      · exact nomatch (hid _).2 hplaced
      · exact fun _ h => nomatch h
  · have hrefused : ∀ folder document, ¬ IsDocumentName name folder document := by
      intro folder document hname
      rw [splitDocumentName_eq_ok_iff.2 hname] at he
      exact nomatch he
    exact ⟨rfl, .astray (.misnamed hrefused) (Nat.zero_le 2) fun _ h => nomatch h⟩

end Talks

/-! ### Writes -/

/-- The request that writes a document, as what was found for it calls for. -/
inductive WritesOver (s : Session) (contentType content folderId document : String) :
    List Object → HttpRequest → Prop
  | replaces {record : Object} {records : List Object} {id : Value}
    (hid : record.get? "Id" = some id) :
    WritesOver s contentType content folderId document (record :: records)
      (s.httpRequest "PATCH" (documentResource id.display)
        (some [("ContentType", .text contentType), ("Body", .text content)]))
  | creates :
    WritesOver s contentType content folderId document []
      (s.httpRequest "POST" "sobjects/Document/"
        (some [("ContentType", .text contentType), ("Body", .text content),
          ("Name", .text document), ("DeveloperName", .text document),
          ("FolderId", .text folderId)]))

/-- The identifier that is given back for a document that was written, as what was found for
it and the answer to the write say. -/
inductive Identifies (answer : Except Failure (Except NoAnswer Reply)) :
    List Object → String → Prop
  | replaced {record : Object} {records : List Object} {id body : Value} {reply : Reply}
    (hid : record.get? "Id" = some id) (hanswer : answer = .ok (.ok reply))
    (hstatus : reply.status = 204) (hbody : reply.Holds body) :
    Identifies answer (record :: records) id.display
  | created {fields : Object} {id : Value} {reply : Reply} (hanswer : answer = .ok (.ok reply))
    (hstatus : reply.status = 201) (hbody : reply.Holds (.object fields))
    (hid : fields.get? "id" = some id) :
    Identifies answer [] id.display

/-- Whether a document is written in one exchange, as what was found for it calls for. -/
def Writes (s : Session) (contentType content folderId document : String) (found : List Object)
    (exchanges : List Exchange) (r : Except Failure String) : Prop :=
  ∃ request answer, exchanges = [⟨request, answer⟩] ∧
    WritesOver s contentType content folderId document found request ∧
      ∀ id, r = .ok id ↔ Identifies answer found id

/-- How the writing of a document can go. -/
inductive Upserts (s : Session) (name : Option String) (contentType content : String) :
    List Exchange → Except Failure String → Prop
  | unwritten {exchanges : List Exchange} {e : Failure} (hlookups : Lookups s name exchanges)
    (hshort : exchanges.length ≤ 2) : Upserts s name contentType content exchanges (.error e)
  | written {folder document id : String}
    {answer answer' : Except Failure (Except NoAnswer Reply)} {found : List Object}
    {last : List Exchange} {r : Except Failure String}
    (hname : IsDocumentName name folder document) (hplaced : NamesFolder answer (.text id))
    (hfound : Finds answer' found)
    (hwrites : s.Writes contentType content id document found last r) :
    Upserts s name contentType content
      (⟨s.folderRequest folder, answer⟩ :: ⟨s.documentRequest id document, answer'⟩ :: last) r

namespace Talks

variable {s : Session} (t : Transport τ)

/-- A document that was found is replaced in one exchange, if its record has an
identifier. -/
theorem replaceDocument (name : String) (record : Object) (records : List Object)
    (folderId document contentType content : String) :
    Talks s (Session.replaceDocument t.watched name record contentType content)
      (Session.replaceDocument t name record contentType content) fun new r _ =>
        (new = [] ∧ ∃ e, r = .error e) ∨
          s.Writes contentType content folderId document (record :: records) new r := by
  refine ofTraced_bind (fun id hid => ?_) fun e _ => .inl ⟨rfl, e, rfl⟩
  obtain ⟨_, hrecord, hid⟩ := Catalog.at?_eq_ok_iff.1 (Outcome.mapError_eq_ok_iff.1 hid)
  obtain rfl := Value.object.inj hrecord
  refine bind (expect t "PATCH" (documentResource id.display) 204 _) ?_ ?_
  · rintro _ body _ ⟨rfl, answer, rfl, hr⟩
    obtain ⟨reply, hanswer, hstatus, hbody⟩ := bodyIn_eq_ok_iff.1 hr.symm
    refine log_bind (ofTraced (.inr ⟨_, answer, rfl, .replaces hid, fun given => ⟨?_, ?_⟩⟩))
    · intro h
      obtain rfl := Except.ok.inj h
      exact .replaced hid hanswer hstatus hbody
    · rintro ⟨hid', -, -, -⟩
      rw [Option.some.inj (hid'.symm.trans hid)]
  · rintro _ e _ ⟨rfl, answer, rfl, hr⟩
    refine .inr ⟨_, answer, rfl, .replaces hid, fun given => ⟨fun h => (nomatch h), ?_⟩⟩
    rintro ⟨hid', hanswer, hstatus, hbody⟩
    exact nomatch hr.trans (bodyIn_eq_ok_iff.2 ⟨_, hanswer, hstatus, hbody⟩)

/-- A document is created in one exchange. -/
theorem createDocument (name folderId document contentType content : String) :
    Talks s (Session.createDocument t.watched name (.text folderId) document contentType content)
      (Session.createDocument t name (.text folderId) document contentType content) fun new r _ =>
        s.Writes contentType content folderId document [] new r := by
  refine bind (expect t "POST" "sobjects/Document/" 201 _) ?_ ?_
  · rintro _ body _ ⟨rfl, answer, rfl, hr⟩
    obtain ⟨reply, hanswer, hstatus, hbody⟩ := bodyIn_eq_ok_iff.1 hr.symm
    have hfields : ∀ {fields} {reply' : Reply}, answer = .ok (.ok reply') → reply'.status = 201 →
        reply'.Holds (.object fields) → body = .object fields := by
      intro fields reply' hanswer' hstatus' hbody'
      exact Except.ok.inj (hr.trans (bodyIn_eq_ok_iff.2 ⟨_, hanswer', hstatus', hbody'⟩))
    refine ofTraced_bind (fun id hid => ?_) fun e he => ?_
    · have hid : body.at? "id" = .ok id := Outcome.mapError_eq_ok_iff.1 hid
      obtain ⟨fields, rfl, hget⟩ := Catalog.at?_eq_ok_iff.1 hid
      refine log_bind (ofTraced ⟨_, answer, rfl, .creates, fun given => ⟨fun h => ?_, fun h => ?_⟩⟩)
      · obtain rfl := Except.ok.inj h
        exact .created hanswer hstatus hbody hget
      · cases h with
        | created hanswer' hstatus' hbody' hget' =>
          obtain rfl := Value.object.inj (hfields hanswer' hstatus' hbody')
          rw [Option.some.inj (hget'.symm.trans hget)]
    · refine ⟨_, answer, rfl, .creates, fun given => ⟨fun h => (nomatch h), fun h => ?_⟩⟩
      cases h with
      | created hanswer' hstatus' hbody' hget' =>
        rw [hfields hanswer' hstatus' hbody'] at he
        rw [Catalog.at?_eq_ok_iff.2 ⟨_, rfl, hget'⟩] at he
        exact nomatch he
  · rintro _ e _ ⟨rfl, answer, rfl, hr⟩
    refine ⟨_, answer, rfl, .creates, fun given => ⟨fun h => (nomatch h), fun h => ?_⟩⟩
    cases h with
    | created hanswer hstatus hbody _ =>
      exact nomatch hr.trans (bodyIn_eq_ok_iff.2 ⟨_, hanswer, hstatus, hbody⟩)

/-- **The writing of a document goes by the rules.** -/
theorem upsertDocument (name : Option String) (contentType content : String) :
    Talks s (Session.upsertDocument t.watched name contentType content)
      (Session.upsertDocument t name contentType content) fun new r _ =>
        Upserts s name contentType content new r := by
  rw [upsertDocument_eq, upsertDocument_eq]
  refine bind (locate t name) ?_ ?_
  · rintro looked l _ ⟨rfl, hlocates⟩
    cases hlocates with
    | astray hlookups hshort hastray =>
      have hplaced : l.placed = none := hastray l rfl
      simp only [writeAt, hplaced]
      refine ofTraced ?_
      rw [List.append_nil]
      exact .unwritten hlookups hshort
    | @located _ document id _ _ found hname hplaced hfound =>
      cases found with
      | nil =>
        refine (createDocument t _ _ _ _ _).mono fun new r s' hwrites => ?_
        exact .written hname hplaced hfound hwrites
      | cons record records =>
        refine (replaceDocument t _ record records id document _ _).mono fun new r s' hnew => ?_
        obtain ⟨rfl, e, rfl⟩ | hwrites := hnew
        · exact .unwritten (.placed hname hplaced) (Nat.le_refl 2)
        · exact .written hname hplaced hfound hwrites
  · rintro looked e _ ⟨rfl, hlocates⟩
    cases hlocates with
    | astray hlookups hshort => exact .unwritten hlookups hshort

/-- Nothing is written where a document is read. -/
theorem readAt (l : Location) :
    Talks s (Session.readAt t.watched l) (Session.readAt t l) fun new _ _ =>
      ∀ e ∈ new, e.request.method = "GET" := by
  obtain ⟨folder, document, _ | ⟨id, _ | record⟩⟩ := l
  · exact ofTraced (List.forall_mem_nil _)
  · exact ofTraced (List.forall_mem_nil _)
  · have hasked : ∀ {new : List Exchange} {url : Value}, s.AsksContent url new →
        ∀ e ∈ new, e.request.method = "GET" := by
      rintro new url (rfl | ⟨address, answer, -, rfl⟩)
      · exact List.forall_mem_nil _
      · exact List.forall_mem_singleton.2 rfl
    refine bind (content t (.ofOption (record.get? "Body"))) ?_ fun _ _ _ hnew => hasked hnew.2
    rintro new _ _ ⟨rfl, hnew⟩
    refine ofTraced ?_
    rw [List.append_nil]
    exact hasked hnew

/-- The reading of a document writes nothing. -/
theorem fetchDocument (name : Option String) :
    Talks s (Session.fetchDocument t.watched name) (Session.fetchDocument t name) fun new _ _ =>
      Lookups s name new ∧ ∀ e ∈ new, e.request.method = "GET" := by
  rw [fetchDocument_eq, fetchDocument_eq]
  refine bind (locate t name) ?_ ?_
  · rintro looked l _ ⟨rfl, hlocates⟩
    cases hlocates with
    | astray hlookups hshort hastray =>
      have hplaced : l.placed = none := hastray l rfl
      simp only [Session.readAt, hplaced]
      refine ofTraced ?_
      rw [List.append_nil]
      exact ⟨hlookups, hlookups.get hshort⟩
    | located hname hplaced hfound =>
      refine (readAt t _).mono fun new r s' hnew => ⟨.placed hname hplaced, ?_⟩
      exact List.forall_mem_append.2 ⟨Lookups.get (.placed hname hplaced) (Nat.le_refl 2), hnew⟩
  · rintro looked e _ ⟨rfl, hlocates⟩
    cases hlocates with
    | astray hlookups hshort => exact ⟨hlookups, hlookups.get hshort⟩

end Talks

/-! ### Runs -/

/-- A transport that has the next of some replies for every request. -/
def repliesTransport : Transport (List Reply) where
  send _ := fun replies => (⟨.ok (.ok (replies.headD ⟨404, []⟩)), []⟩, replies.tail)

/-- The reply with a status and a text. -/
def textReply (status : Int) (text : String) : Reply :=
  ⟨status, text.toList.flatMap String.utf8EncodeChar⟩

/-- A document that is there is looked up and replaced. -/
example :
    (exchangesOf
        (upsertDocument repliesTransport.watched (some "/Shared/readme") "text/plain" "aGk=")
        (ofConfig { instanceUrl := "https://x", accessToken := "first" })
        [textReply 200 "\x7b\"records\":[\x7b\"Id\":\"00lF\"\x7d]\x7d",
          textReply 200 "\x7b\"records\":\x7b\"Id\":\"015D\"\x7d\x7d", textReply 204 ""]).map
      (fun e => e.request.method) = ["GET", "GET", "PATCH"] := by
  decide +kernel

end Session
end RecordBridge
