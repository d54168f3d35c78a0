/-
# Queries say what their directives say

The first page of a selection is asked for by a query, and the query is the
value of a URL parameter.  Whoever decodes that value reads the properties and
the filter of the compiled directive and nothing else (`IsQueryOf`): no
property twice, no field that the catalog does not grant, and a condition
exactly if the filter amounts to one.

The filter that counts is the one that is left when a lower bound beyond the
retention was dropped.  If it mentions a field that the catalog lacks, there is
no request (`compile_says_query`).
-/

import RecordBridge.Proofs.Catalog.Projection
import RecordBridge.Proofs.Compile.Requests
import RecordBridge.Proofs.Condition.Meaning
import RecordBridge.Proofs.Text.PercentDecoding

namespace RecordBridge

/-! ### Fields that a filter mentions -/

namespace Filter

theorem has_of_renderComparison {catalog : Catalog} {c : Comparison} {text : String}
    (h : renderComparison catalog c = .ok text) : catalog.has c.field = true := by
  unfold renderComparison at h
  split at h
  · exact nomatch h
  · next hfield => exact Option.isSome_of_eq_some hfield

mutual
/-- A filter that is rendered mentions fields of the catalog only. -/
theorem has_of_render {catalog : Catalog} : ∀ {t : Tree} {text : String},
    render catalog t = .ok text → ∀ c ∈ t.leaves, catalog.has c.field = true
  | .leaf _, _, h, _, hc => by
    rw [Tree.leaves, List.mem_singleton] at hc
    exact hc ▸ has_of_renderComparison h
  | .group _ _ _, _, h, _, hc => by
    obtain ⟨_, hparts, -⟩ := Outcome.bind_eq_ok_iff.1 h
    exact has_of_renderAll hparts _ hc

/-- Filters that are rendered mention fields of the catalog only. -/
theorem has_of_renderAll {catalog : Catalog} : ∀ {ts : List Tree} {parts : List String},
    renderAll catalog ts = .ok parts → ∀ c ∈ Tree.leavesAll ts, catalog.has c.field = true
  | [], _, _, _, hc => nomatch hc
  | _ :: _, _, h, c, hc => by
    obtain ⟨_, hfirst, h⟩ := Outcome.bind_eq_ok_iff.1 h
    obtain ⟨_, hrest, -⟩ := Outcome.bind_eq_ok_iff.1 h
    rw [Tree.leavesAll, List.mem_append] at hc
    obtain hc | hc := hc
    · exact has_of_render hfirst c hc
    · exact has_of_renderAll hrest c hc
end

/-- A document that is rendered mentions fields of the catalog only. -/
theorem has_of_renderDocument {catalog : Catalog} {document : Value} {text : String} {t : Tree}
    (h : renderDocument catalog document = .ok text) (hparse : parse document = .ok (some t)) :
    ∀ c ∈ t.leaves, catalog.has c.field = true := by
  rw [renderDocument_of_parse hparse] at h
  exact has_of_render h

end Filter

/-! ### The query -/

/-- The filter of a directive as a document. -/
def Directive.document (d : Directive) : Value :=
  match d.filter with
  | some entries => .object entries
  | none => .null

namespace Compile

variable {settings : Settings} {catalog : Catalog} {now : Int} {d : Directive} {c : Compiled}

/-- Whether the request of a compiled directive is the query for properties of
a type under a condition: the condition is that of the filter of the directive,
and everything in the query is granted by the catalog. -/
structure IsQueryOf (catalog : Catalog) (typeName : String) (c : Compiled)
    (properties : List String) (condition : String) : Prop where
  properties_eq : c.directive.properties = some properties
  properties_ne_nil : properties ≠ []
  nodup : properties.Nodup
  granted : ∀ name ∈ properties, catalog.has name = true
  condition_eq : Filter.renderDocument catalog c.directive.document = .ok condition
  leaves_granted : ∀ t, Filter.parse c.directive.document = .ok (some t) →
    ∀ leaf ∈ t.leaves, catalog.has leaf.field = true
  request : ∃ value : String,
    c.action = .request
      { method := .get, resource := "query/?q=" ++ value, expectedStatus := 200 } ∧
    Text.Percent.IsQueryValue value.toList ∧
    Text.Percent.decode? value
      = some ("SELECT " ++ String.intercalate "," properties ++ " FROM " ++ typeName
          ++ if condition = "" then "" else " WHERE " ++ condition)

/-- An empty cursor is none. -/
theorem cursor_eq_none (hcursor : ∀ cursor, d.options.cursorId = some cursor → cursor = "") :
    d.cursor?.filter (!·.isEmpty) = none := by
  rw [Option.filter_eq_none_iff]
  intro cursor hc
  rw [hcursor cursor hc]
  decide

/-- A selection without a cursor is compiled to the query for the properties
that the catalog grants, of which there is one at least. -/
theorem compileQuery_of_compile (ho : operationOf d = .ok .select)
    (hcursor : ∀ cursor, d.options.cursorId = some cursor → cursor = "")
    (h : (compile settings catalog now d).result = .ok c) :
    ∃ requested, d.properties = some requested ∧
      Catalog.Gate.projection catalog requested settings.defaultFields ≠ [] ∧
      (compileQuery settings catalog now d
        (Catalog.Gate.projection catalog requested settings.defaultFields)
        (Catalog.Gate.projectionWarnings catalog requested settings.defaultFields)).result
        = .ok c := by
  obtain ⟨cursor, hsome, -⟩ | ⟨-, properties, hproperties, hne, hquery⟩ :=
    compileSelect_eq_ok_iff.1 (compileSelect_of_compile ho h)
  · exact absurd (hsome.symm.trans (cursor_eq_none hcursor)) (Option.some_ne_none _)
  · rw [gateProperties] at hproperties hquery
    cases hrequested : d.properties with
    | none =>
      rw [hrequested] at hproperties
      exact absurd hproperties.symm (Option.some_ne_none _)
    | some requested =>
      rw [hrequested] at hproperties hquery
      obtain rfl := Option.some.inj hproperties
      exact ⟨requested, rfl, hne, hquery⟩

/-- A selection without a cursor is compiled exactly if it has a list of
properties, the catalog grants one, and what is left of its filter can be
written. -/
theorem exists_compile_iff (ho : operationOf d = .ok .select)
    (hcursor : ∀ cursor, d.options.cursorId = some cursor → cursor = "") :
    (∃ c, (compile settings catalog now d).result = .ok c) ↔
      ∃ requested bound condition, d.properties = some requested ∧
        Catalog.Gate.projection catalog requested settings.defaultFields ≠ [] ∧
        (remaining settings now d).result = .ok bound ∧
        Filter.renderDocument catalog (.object bound.filter) = .ok condition := by
  constructor
  · rintro ⟨c, h⟩
    obtain ⟨requested, hrequested, hne, hquery⟩ := compileQuery_of_compile ho hcursor h
    obtain ⟨bound, condition, hbound, hcondition, -⟩ := eq_firstPage_of_compileQuery hquery
    exact ⟨requested, bound, condition, hrequested, hne, hbound, hcondition⟩
  · rintro ⟨requested, bound, condition, hrequested, hne, hbound, hcondition⟩
    refine ⟨firstPage d (Catalog.Gate.projection catalog requested settings.defaultFields)
      (Catalog.Gate.projectionWarnings catalog requested settings.defaultFields) bound condition,
      ?_⟩
    rw [result_select ho, compileSelect_eq_ok_iff, gateProperties, hrequested]
    refine .inr ⟨cursor_eq_none hcursor, _, rfl, hne, ?_⟩
    rw [result_compileQuery, Outcome.bind_eq_ok_iff]
    exact ⟨bound, hbound, Outcome.bind_eq_ok_iff.2 ⟨condition, hcondition, rfl⟩⟩

/-- The filter of the compiled directive is rendered as what is left of the
given one. -/
theorem renderDocument_firstPage {properties : List String} {warnings : List Warning}
    {bound : DeltaBound} {condition : String}
    (hbound : (remaining settings now d).result = .ok bound)
    (h : Filter.renderDocument catalog (.object bound.filter) = .ok condition) :
    Filter.renderDocument catalog
      (firstPage d properties warnings bound condition).directive.document = .ok condition := by
  cases hgiven : givenFilter? d with
  | some entries => simpa [Directive.document, firstPage, hgiven] using h
  | none =>
    -- no filter and the empty one are no condition alike
    rw [remaining, hgiven] at hbound
    obtain rfl : (⟨[], none⟩ : DeltaBound) = bound := Except.ok.inj hbound
    obtain rfl : "" = condition := Except.ok.inj h
    have hempty := Option.filter_eq_none_iff.1 hgiven
    cases hfilter : d.filter with
    | none => simp [Directive.document, firstPage, hgiven, hfilter]; rfl
    | some entries =>
      cases entries with
      | nil => simp [Directive.document, firstPage, hgiven, hfilter]; rfl
      | cons e es => exact absurd rfl (hempty _ hfilter)

theorem isQueryOf_firstPage {requested defaults : List String} {warnings : List Warning}
    {bound : DeltaBound} {condition : String}
    (hne : Catalog.Gate.projection catalog requested defaults ≠ [])
    (hbound : (remaining settings now d).result = .ok bound)
    (hcondition : Filter.renderDocument catalog (.object bound.filter) = .ok condition) :
    IsQueryOf catalog d.targetType
      (firstPage d (Catalog.Gate.projection catalog requested defaults) warnings bound condition)
      (Catalog.Gate.projection catalog requested defaults) condition where
  properties_eq := rfl
  properties_ne_nil := hne
  nodup := Catalog.Gate.nodup_projection catalog requested defaults
  granted _ h := Catalog.Gate.has_of_mem_projection h
  condition_eq := renderDocument_firstPage hbound hcondition
  leaves_granted _ h :=
    Filter.has_of_renderDocument (renderDocument_firstPage hbound hcondition) h
  request := by
    refine ⟨_, rfl, Text.Percent.isQueryValue_encodeQuery _, ?_⟩
    rw [Text.Percent.decode?_encodeQuery, queryText, Value.joined]
    simp only [String.isEmpty_iff]

/-- **A query says what its directive says.**  Take a selection without a
cursor.  If it is compiled, its request is a query that decodes to the
properties, the type and the condition of the compiled directive, all of them
granted by the catalog.  And if what is left of its filter mentions a field
that the catalog lacks, it is not compiled. -/
theorem compile_says_query (ho : operationOf d = .ok .select)
    (hcursor : ∀ cursor, d.options.cursorId = some cursor → cursor = "") :
    (∀ c, (compile settings catalog now d).result = .ok c →
      ∃ properties condition, IsQueryOf catalog d.targetType c properties condition) ∧
    ∀ bound t leaf, (remaining settings now d).result = .ok bound →
      Filter.parse (.object bound.filter) = .ok (some t) → leaf ∈ t.leaves →
      catalog.has leaf.field = false → ∃ e, (compile settings catalog now d).result = .error e := by
  constructor
  · intro c h
    obtain ⟨requested, -, hne, hquery⟩ := compileQuery_of_compile ho hcursor h
    obtain ⟨bound, condition, hbound, hcondition, rfl⟩ := eq_firstPage_of_compileQuery hquery
    exact ⟨_, condition, isQueryOf_firstPage hne hbound hcondition⟩
  · intro bound t leaf hbound hparse hleaf hlacks
    cases hresult : (compile settings catalog now d).result with
    | error e => exact ⟨e, rfl⟩
    | ok c =>
      obtain ⟨requested, -, -, hquery⟩ := compileQuery_of_compile ho hcursor hresult
      obtain ⟨bound', condition, hbound', hcondition, -⟩ := eq_firstPage_of_compileQuery hquery
      obtain rfl := Except.ok.inj (hbound.symm.trans hbound')
      have hhas := Filter.has_of_renderDocument hcondition hparse leaf hleaf
      exact absurd hhas (by rw [hlacks]; decide)

/-- A selection with a name that is not granted, one that comes twice, a lower
bound on a field that is not granted either, and a text that has to be encoded. -/
def umlautDirective : Directive :=
  { op := "SELECT"
    targetType := "Account"
    properties := some ["Name", "Secret", "Name", "ReviewedAt"]
    filter := some
      [("SystemModstamp", .object [("$gt", .int 0)]), ("Name", .text "ö' & %25")] }

/-- What it is compiled to when the bound is beyond the retention. -/
def umlautPage : Compiled :=
  { directive :=
      { umlautDirective with
        properties := some ["Name", "ReviewedAt"]
        filter := some [("Name", .text "ö' & %25")] }
    action := .request
      { method := .get
        resource := "query/?q=SELECT%20Name%2CReviewedAt%20FROM%20Account%20WHERE%20"
          ++ "Name%3D'%C3%B6%5C'%20%26%20%2525'"
        expectedStatus := 200 }
    warnings := [Catalog.Gate.unknownRequest "Secret"] }

set_option maxRecDepth 4000 in
/-- `compile_says_query` for that selection, at a time when the bound is dropped
and at one when it is kept. -/
theorem compile_says_query_umlaut :
    operationOf umlautDirective = .ok .select ∧
      (∀ cursor, umlautDirective.options.cursorId = some cursor → cursor = "") ∧
      (compile {} Filter.kindsCatalog 3000000000 umlautDirective).result = .ok umlautPage ∧
      (∃ properties condition,
        IsQueryOf Filter.kindsCatalog "Account" umlautPage properties condition) ∧
      ∃ e, (compile {} Filter.kindsCatalog 0 umlautDirective).result = .error e := by
  have hop : operationOf umlautDirective = .ok .select := rfl
  have hcursor : ∀ cursor, umlautDirective.options.cursorId = some cursor → cursor = "" :=
    fun _ h => nomatch h
  have hpage : (compile {} Filter.kindsCatalog 3000000000 umlautDirective).result
      = .ok umlautPage := rfl
  refine ⟨hop, hcursor, hpage, (compile_says_query hop hcursor).1 umlautPage hpage, ?_⟩
  have hparse : Filter.parse (.object (umlautDirective.filter.getD [])) = .ok (some
      (.group .all false
        [.leaf ⟨"SystemModstamp", .gt, .int 0⟩, .leaf ⟨"Name", .eq, .text "ö' & %25"⟩])) := rfl
  exact (compile_says_query hop hcursor).2 ⟨_, some 0⟩ _ ⟨"SystemModstamp", .gt, .int 0⟩ rfl hparse
    (by simp [Filter.Tree.leaves, Filter.Tree.leavesAll]) (by decide)

end Compile
end RecordBridge
