/-
# Where a record is

An update and a deletion are for the record of a type with an identifier, and so is the
replacement of a document.  Their resource is the type and one segment below it, from
which the identifier can be read back, whatever it is (`Addresses`).

An identifier of one dot or two is written as it is, and makes a dot segment of the
address: for these two, and no others, whoever drops dot segments asks for something
above the record (`records_addressed`).
-/

import RecordBridge.Proofs.Session.Naming
import RecordBridge.Proofs.Session.Upserts
import RecordBridge.Proofs.Text.DotSegments
import RecordBridge.Proofs.Text.PercentDecoding

namespace RecordBridge
namespace Session

open Text.Path (removeDots)
open Compile (recordResource)

variable {typeName id : String}

/-- What is left of a resource when the dot segments of an address are dropped, whatever it
is below. -/
def Leaves (resource rest : String) : Prop :=
  ∀ root, removeDots ("/" ++ root ++ "/" ++ resource) = removeDots ("/" ++ root ++ "/") ++ rest

/-- Whether a resource is that of the record of a type with an identifier. -/
structure Addresses (typeName id resource : String) : Prop where
  /-- It is one segment below the type, from which the identifier is read back. -/
  segment : ∃ segment, resource = "sobjects/" ++ typeName ++ "/" ++ segment ∧
    Text.Percent.IsSegment segment ∧ Text.Percent.decode? segment = some id
  /-- It stays there, if the identifier is not one dot or two. -/
  stays : Leaves resource resource ↔ id ≠ "." ∧ id ≠ ".."
  /-- With one dot only the type is left. -/
  dot : id = "." → Leaves resource ("sobjects/" ++ typeName ++ "/")
  /-- With two dots not even that. -/
  dots : id = ".." → Leaves resource "sobjects/"

theorem isDots_of_isProperName (hname : IsProperName typeName) :
    Text.Path.isDots typeName.toList = false := by
  have hdot : '.' ∉ typeName.toList := hname.notMem (by decide)
  rw [Text.Path.isDots, Bool.or_eq_false_iff, decide_eq_false_iff_not, decide_eq_false_iff_not]
  constructor
  · intro h
    rw [h] at hdot
    exact hdot (by decide)
  · intro h
    rw [h] at hdot
    exact hdot (by decide)

/-- The segments that are left of the resource of a record. -/
theorem ofSegments_leave (typeName id : String) :
    Text.Path.ofSegments (Text.Path.leave ["sobjects".toList, typeName.toList]
        (Text.Percent.encodeSegment id).toList)
      = "/" ++ if id = "." then "sobjects/" ++ typeName ++ "/"
        else if id = ".." then "sobjects/"
        else recordResource typeName id := by
  have hkept : ∀ s : String, Text.Percent.encodeSegment s = s →
      ((Text.Percent.encodeSegment id).toList = s.toList ↔ id = s) := fun s hs =>
    String.toList_inj.trans (Text.Percent.encodeSegment_eq_iff hs)
  have hdot : (Text.Percent.encodeSegment id).toList = ['.'] ↔ id = "." := hkept "." rfl
  have hdots : (Text.Percent.encodeSegment id).toList = ['.', '.'] ↔ id = ".." := hkept ".." rfl
  unfold Text.Path.leave Text.Path.ofSegments
  rw [← String.toList_inj]
  by_cases h : id = "."
  · rw [if_pos (hdot.2 h), if_pos h]
    simp
  · rw [if_neg fun h' => h (hdot.1 h'), if_neg h]
    by_cases h' : id = ".."
    · rw [if_pos (hdots.2 h'), if_pos h']
      simp
    · rw [if_neg fun h'' => h' (hdots.1 h''), if_neg h']
      simp [recordResource]

/-- What is left of the resource of a record. -/
theorem leaves_recordResource (hname : IsProperName typeName) (hid : id ≠ "") :
    Leaves (recordResource typeName id)
      (if id = "." then "sobjects/" ++ typeName ++ "/"
        else if id = ".." then "sobjects/"
        else recordResource typeName id) := by
  intro root
  have hresource : (recordResource typeName id).toList
      = ["sobjects".toList, typeName.toList].flatMap (· ++ ['/'])
        ++ (Text.Percent.encodeSegment id).toList := by
    simp [recordResource]
  have hfree : ∀ s ∈ ["sobjects".toList, typeName.toList]
      ++ [(Text.Percent.encodeSegment id).toList], '/' ∉ s := by
    have hsegment : '/' ∉ (Text.Percent.encodeSegment id).toList := fun h =>
      ((Text.Percent.isSegment_encodeSegment hid).2 '/' h).2 (by decide)
    exact List.forall_mem_cons.2 ⟨by decide, List.forall_mem_cons.2
      ⟨hname.notMem (by decide), List.forall_mem_singleton.2 hsegment⟩⟩
  have habove : ∀ s ∈ ["sobjects".toList, typeName.toList], Text.Path.isDots s = false :=
    List.forall_mem_cons.2
      ⟨by decide, List.forall_mem_singleton.2 (isDots_of_isProperName hname)⟩
  rw [Text.Path.removeDots_below hresource hfree habove (List.cons_ne_nil _ _),
    Text.Path.removeDots_root, ofSegments_leave]
  exact String.append_assoc.symm

/-- Only one thing is left of a resource. -/
theorem Leaves.unique {resource rest rest' : String} (h : Leaves resource rest)
    (hother : Leaves resource rest') : rest = rest' :=
  (String.append_right_inj _).1 ((h "").symm.trans (hother ""))

/-- **The resource of a record addresses it.** -/
theorem addresses_recordResource (hname : IsProperName typeName) (hid : id ≠ "") :
    Addresses typeName id (recordResource typeName id) where
  segment := ⟨Text.Percent.encodeSegment id, rfl, Text.Percent.isSegment_encodeSegment hid,
    Text.Percent.decode?_encodeSegment id⟩
  stays := by
    have hleaves := leaves_recordResource hname hid
    constructor
    · intro hstays
      have hrest := hstays.unique hleaves
      constructor
      · rintro rfl
        have hdot : recordResource typeName "." = "sobjects/" ++ typeName ++ "/" ++ "." := rfl
        rw [if_pos rfl, hdot, String.append_eq_left_iff] at hrest
        exact absurd hrest (by decide)
      · rintro rfl
        have hdots : recordResource typeName ".." = "sobjects/" ++ (typeName ++ "/" ++ "..") := by
          simp only [recordResource, String.append_assoc]
          rfl
        rw [if_neg (by decide), if_pos rfl, hdots, String.append_eq_left_iff] at hrest
        have hend : (typeName ++ "/" ++ "..").toList = [] := by rw [hrest]; rfl
        simp at hend
    · rintro ⟨hdot, hdots⟩
      rwa [if_neg hdot, if_neg hdots] at hleaves
  dot := by
    rintro rfl
    exact leaves_recordResource hname hid
  dots := by
    rintro rfl
    exact leaves_recordResource hname hid

/-- A resource addresses one record only. -/
theorem Addresses.unique {id' resource : String} (h : Addresses typeName id resource)
    (h' : Addresses typeName id' resource) : id = id' := by
  obtain ⟨segment, hresource, -, hread⟩ := h.segment
  obtain ⟨segment', hresource', -, hread'⟩ := h'.segment
  obtain rfl := (String.append_right_inj _).1 (hresource.symm.trans hresource')
  exact Option.some.inj (hread.symm.trans hread')

/-! ### Directives -/

/-- Whether a directive updates or deletes the record of its type with an identifier, under
a proper name and with an identifier that is a text and not empty. -/
structure Targets (d : Directive) (id : String) : Prop where
  updates_or_deletes : Compile.operationOf d = .ok .update ∨ Compile.operationOf d = .ok .delete
  isProperName : IsProperName d.targetType
  identifier : d.filter.bind (·.get? "externalId") = some (.text id)
  ne_empty : id ≠ ""

namespace Targets

variable {d : Directive} {settings : Settings} {catalog : Catalog} {now : Int}

theorem recordId (h : Targets d id) (o : Operation) : Compile.recordId o d = .ok id := by
  refine Compile.recordId_eq_ok_iff.2 ⟨?_, h.ne_empty⟩
  rw [Directive.externalId?, h.identifier]
  rfl

/-- The request is for the resource of the record. -/
theorem request (h : Targets d id) {c : Compiled}
    (hc : (Compile.compile settings catalog now d).result = .ok c) :
    ∃ r, c.action = .request r ∧ r.resource = recordResource d.targetType id := by
  obtain ho | ho := h.updates_or_deletes
  · rw [Compile.result_update ho, h.recordId] at hc
    obtain ⟨r, hr, -⟩ := (Compile.compileWrite_isRequest hc).action_eq
    exact ⟨r, hr, Compile.resource_of_compileWrite hc hr⟩
  · rw [Compile.result_delete ho, h.recordId] at hc
    obtain rfl := Except.ok.inj hc
    exact ⟨_, rfl, rfl⟩

/-- There is a request, unless a value that is written has no form in which it can be
sent. -/
theorem compiles_iff (h : Targets d id) :
    (∃ c, (Compile.compile settings catalog now d).result = .ok c) ↔
      (Compile.operationOf d = .ok .update → ∃ values, Compile.remoteValues catalog
        (Catalog.Gate.admitted catalog (d.values.getD []) .updatable) = .ok values) := by
  obtain ho | ho := h.updates_or_deletes
  · rw [Compile.result_update ho, h.recordId]
    constructor
    · rintro ⟨c, hc⟩ -
      obtain ⟨values, hvalues, -⟩ := Compile.compileWrite_eq_ok_iff.1 hc
      exact ⟨values, hvalues⟩
    · intro hvalues
      obtain ⟨values, hvalues⟩ := hvalues ho
      exact ⟨_, Compile.compileWrite_eq_ok_iff.2 ⟨values, hvalues, rfl⟩⟩
  · rw [Compile.result_delete ho, h.recordId]
    refine iff_of_true ⟨_, rfl⟩ fun hupdate => ?_
    exact nomatch Except.ok.inj (ho.symm.trans hupdate)

end Targets

/-! ### Documents -/

/-- Whether a request replaces a document, the first of the records that were found before,
at the address of this record. -/
def ReplacesFound (s : Session) (exchanges : List Exchange) (request : HttpRequest) : Prop :=
  ∃ lookup ∈ exchanges, ∃ record records id resource fields,
    Finds lookup.answer (record :: records) ∧ record.get? "Id" = some id ∧
      request = s.httpRequest "PATCH" resource (some fields) ∧
      (id.display ≠ "" → Addresses "Document" id.display resource)

theorem Upserts.replacesFound {s : Session} {name : Option String} {contentType content : String}
    {exchanges : List Exchange} {r : Except Failure String}
    (h : Upserts s name contentType content exchanges r) {e : Exchange} (he : e ∈ exchanges)
    (hmethod : e.request.method = "PATCH") : ReplacesFound s exchanges e.request := by
  have hother : ∀ {method : String}, method ≠ "PATCH" → e.request.method ≠ method := by
    intro method hne h
    exact hne (h.symm.trans hmethod)
  have hget : e.request.method ≠ "GET" := hother (by decide)
  cases h with
  | unwritten hlookups hshort => exact absurd (hlookups.get hshort e he) hget
  | @written folder document id first second found _ _ hname hplaced hfound hwrites =>
    obtain ⟨request, answer, rfl, hover, -⟩ := hwrites
    obtain rfl | he := List.mem_cons.1 he
    · exact absurd rfl hget
    obtain rfl | he := List.mem_cons.1 he
    · exact absurd rfl hget
    obtain rfl := List.mem_singleton.1 he
    cases hover with
    | @replaces record records v hid =>
      refine ⟨⟨s.documentRequest id document, second⟩, ?_, record, records, v, _, _, hfound, hid,
        rfl, fun hne => ?_⟩
      · exact List.mem_cons_of_mem _ List.mem_cons_self
      · exact @addresses_recordResource "Document" v.display (by decide) hne
    | creates => exact absurd rfl (@hother "POST" (by decide))

/-- **An update and a deletion address the record they are for, and no other.**  Where they
are compiled to a request, which a deletion always is, it is for one segment below the
type that reads back as the identifier and stays there when dot segments are dropped, but
for an identifier of one dot or two; no other record has this resource.  A document that was
found is replaced at such an address as well. -/
theorem records_addressed {d : Directive} (h : Targets d id) :
    (∀ settings catalog now,
      ((∃ c, (Compile.compile settings catalog now d).result = .ok c) ↔
        (Compile.operationOf d = .ok .update → ∃ values, Compile.remoteValues catalog
          (Catalog.Gate.admitted catalog (d.values.getD []) .updatable) = .ok values)) ∧
      ∀ c, (Compile.compile settings catalog now d).result = .ok c →
        ∃ r, c.action = .request r ∧ Addresses d.targetType id r.resource ∧
          ∀ id', Addresses d.targetType id' r.resource → id' = id) ∧
    ∀ {τ : Type} (t : Transport τ) (s : Session) (name : Option String)
      (contentType content : String) (u : τ),
      ∀ e ∈ exchangesOf (upsertDocument t.watched name contentType content) s u,
        e.request.method = "PATCH" →
        ReplacesFound s (exchangesOf (upsertDocument t.watched name contentType content) s u)
          e.request := by
  refine ⟨fun settings catalog now => ⟨h.compiles_iff, fun c hc => ?_⟩, ?_⟩
  · obtain ⟨r, hr, hresource⟩ := h.request hc
    have haddresses : Addresses d.targetType id r.resource := by
      rw [hresource]
      exact addresses_recordResource h.isProperName h.ne_empty
    exact ⟨r, hr, haddresses, fun id' h' => h'.unique haddresses⟩
  · intro τ t s name contentType content u e he hmethod
    have hupserts := (Talks.upsertDocument (s := s) t name contentType content).exchangesOf u
    exact hupserts.replacesFound he hmethod

/-- A description without fields. -/
def bareCatalog : Catalog := .ofFields (.text "Account") []

/-- `records_addressed` for an identifier with marks in it that part an address. -/
theorem records_addressed_marks :
    Targets (deletion "Account" "a/b?c") "a/b?c" ∧
      ∃ c r, (Compile.compile {} bareCatalog 0 (deletion "Account" "a/b?c")).result = .ok c ∧
        c.action = .request r ∧ r.resource = "sobjects/Account/a%2Fb%3Fc" ∧
        Addresses "Account" "a/b?c" r.resource := by
  have htargets : Targets (deletion "Account" "a/b?c") "a/b?c" :=
    ⟨.inr rfl, by decide, rfl, by decide⟩
  obtain ⟨hcompiles, hrequest⟩ := (records_addressed htargets).1 {} bareCatalog 0
  obtain ⟨c, hc⟩ := hcompiles.2 fun hupdate : Except.ok Operation.delete = _ => nomatch hupdate
  obtain ⟨r, hr, haddresses, -⟩ := hrequest c hc
  refine ⟨htargets, c, r, hc, hr, ?_, haddresses⟩
  obtain rfl := Except.ok.inj hc
  obtain rfl := Action.request.inj hr
  rfl

/-- An identifier of two dots is written as it is, and what is left of the address is that of
all types; one of a dot leaves that of the type. -/
theorem dots_leave_the_record :
    Targets (deletion "Account" "..") ".." ∧
      (∃ c r, (Compile.compile {} bareCatalog 0 (deletion "Account" "..")).result = .ok c ∧
        c.action = .request r ∧ r.resource = "sobjects/Account/..") ∧
      removeDots "/services/data/v59.0/sobjects/Account/.." = "/services/data/v59.0/sobjects/" ∧
      (∃ c r, (Compile.compile {} bareCatalog 0 (deletion "Account" ".")).result = .ok c ∧
        c.action = .request r ∧ r.resource = "sobjects/Account/.") ∧
      removeDots "/services/data/v59.0/sobjects/Account/."
        = "/services/data/v59.0/sobjects/Account/" :=
  ⟨⟨.inr rfl, by decide, rfl, by decide⟩, ⟨_, _, rfl, rfl, rfl⟩, by decide +kernel,
    ⟨_, _, rfl, rfl, rfl⟩, by decide +kernel⟩

end Session
end RecordBridge
