/-
# What a directive sees of a catalog

A directive mentions names: its properties, the keys of its values, and the keys of
its filter that are no operators.  Together with the fields that are always asked
for these are all that its compilation looks up (`mentioned`).

Catalogs that agree on these names are as good as equal.  A directive is compiled
through both or through neither, and to the same request, with the same warnings.
Other fields and the order in which a catalog has them make no difference.

A failure is the same too, with one exception.  A selection whose filter stops at a
field that its catalog lacks (`AsksUnknown`) is refused with the names of all the
fields that there are, for a proposal to be made among them.  If one of these is no
text, no proposal can be made, and the refusal is a fault instead.  So a field that
nobody mentions can change the class of a failure, and it does exactly if it makes
the difference whether all names are texts (`compile_sees_mentioned`).
-/

import RecordBridge.Catalog.Describe
import RecordBridge.Proofs.Compile.Strays
import RecordBridge.Proofs.Condition.Mentions

namespace RecordBridge

/-! ### Classes of failures -/

/-- The classes of the errors of a directive. -/
inductive DirectiveError.Class
  | general
  | query
  | unknownField
  | unknownOperator
  | unsupportedPattern
  | directive
  | missingParameter
  | unsupportedInvoke
  | unrecognizedOperation
  | status
  | record
  | session
  deriving DecidableEq

/-- The class of an error. -/
def DirectiveError.cls : DirectiveError → DirectiveError.Class
  | .filter (.unknownField ..) => .unknownField
  | .filter (.unknownOperator ..) => .unknownOperator
  | .filter (.unsupportedPattern ..) => .unsupportedPattern
  | .filter _ | .reported .query _ _ => .query
  | .directive (.missingParameter ..) => .missingParameter
  | .directive (.unsupportedInvoke ..) => .unsupportedInvoke
  | .directive (.unrecognizedOperation _) => .unrecognizedOperation
  | .directive (.malformed _) | .reported .directive _ _ => .directive
  | .status _ => .status
  | .record _ => .record
  | .session _ | .reported .session _ _ => .session
  | .reported .general _ _ => .general

/-- The name of the class of a fault. -/
def Fault.className : Fault → String
  | .time (.malformed _) | .time .notANumber | .time .yearOutOfRange => "ValueError"
  | .time (.unconvertible _) => ShapeFault.Class.kind.name
  | .time .yearTooWide => "OSError"
  | .time .secondsTooWide | .time .leavesCalendar => "OverflowError"
  | .shape f => f.cls.name
  | .unknownName _ => "ValueError"
  | .misplacedOperator _ => ShapeFault.Class.key.name
  | .collaborator kind _ => kind

/-- The classes of failures. -/
inductive Failure.Class
  | error (c : DirectiveError.Class)
  | fault (name : String)
  deriving DecidableEq

/-- The class of a failure. -/
def Failure.cls : Failure → Failure.Class
  | .error e => .error e.cls
  | .fault f => .fault f.className

namespace Catalog

variable {catalog other : Catalog}

/-- Whether the names of all fields are texts. -/
def NamedByTexts (catalog : Catalog) : Prop :=
  ∀ name ∈ catalog.names, ∃ s, name = .text s

theorem exists_textNames_iff :
    (∃ names, catalog.textNames = .ok names) ↔ catalog.NamedByTexts := by
  rw [textNames, Outcome.exists_mapM_eq_ok_iff]
  refine forall₂_congr fun name _ => ?_
  cases name with
  | text s => exact iff_of_true ⟨s, rfl⟩ ⟨s, rfl⟩
  | _ => exact iff_of_false (fun ⟨_, h⟩ => nomatch h) fun ⟨_, h⟩ => nomatch h

end Catalog

namespace Filter

variable {catalog other : Catalog} {field : String}

theorem cls_unknownField (h : catalog.NamedByTexts) :
    (unknownField field catalog).cls = .error .unknownField := by
  obtain ⟨names, hnames⟩ := Catalog.exists_textNames_iff.2 h
  rw [unknownField, hnames]
  rfl

theorem cls_unknownField_of_not (h : ¬ catalog.NamedByTexts) :
    (unknownField field catalog).cls = .fault ShapeFault.Class.kind.name := by
  cases hnames : catalog.textNames with
  | ok names => exact absurd (Catalog.exists_textNames_iff.1 ⟨names, hnames⟩) h
  | error kind =>
    rw [unknownField, hnames]
    rfl

/-- A field that is unknown to two catalogs is refused by them in the same class exactly
if both can propose names or neither can. -/
theorem cls_unknownField_eq_iff :
    (unknownField field catalog).cls = (unknownField field other).cls ↔
      (catalog.NamedByTexts ↔ other.NamedByTexts) := by
  by_cases h : catalog.NamedByTexts <;> by_cases h' : other.NamedByTexts
  · rw [cls_unknownField h, cls_unknownField h']
    exact iff_of_true rfl (iff_of_true h h')
  · rw [cls_unknownField h, cls_unknownField_of_not h']
    exact iff_of_false (fun h => nomatch h) fun hiff => h' (hiff.1 h)
  · rw [cls_unknownField_of_not h, cls_unknownField h']
    exact iff_of_false (fun h => nomatch h) fun hiff => h (hiff.2 h')
  · rw [cls_unknownField_of_not h, cls_unknownField_of_not h']
    exact iff_of_true rfl (iff_of_false h h')

end Filter

namespace Compile

variable {settings : Settings} {catalog other : Catalog} {now : Int} {d : Directive}
  {warnings : List Warning} {field : String}

/-! ### Names that a directive mentions -/

/-- The names that a directive mentions, with the fields that are always asked for. -/
def mentioned (settings : Settings) (d : Directive) : List String :=
  d.properties.getD [] ++ (d.values.getD []).keys ++ d.document.fieldKeys
    ++ settings.defaultFields

/-- What is left of the filter of a directive mentions no more than the directive. -/
theorem fieldKeys_remaining_subset {bound : DeltaBound}
    (h : (remaining settings now d).result = .ok bound) :
    (Value.object bound.filter).fieldKeys ⊆ d.document.fieldKeys := by
  have hgiven : Value.entryKeys ((givenFilter? d).getD []) ⊆ d.document.fieldKeys := by
    rw [getD_givenFilter?, Directive.document]
    cases d.filter <;> exact List.Subset.refl _
  cases bounds_of_deltaBound h with
  | absent | kept => exact hgiven
  | dropped => exact List.Subset.trans (Value.entryKeys_erase_subset _ _) hgiven

/-! ### What is gated and written through two catalogs -/

theorem gateProperties_congr
    (h : catalog.AgreesOn other (d.properties.getD [] ++ settings.defaultFields)) :
    gateProperties settings catalog d = gateProperties settings other d := by
  rw [gateProperties, gateProperties]
  cases hproperties : d.properties with
  | none => rfl
  | some requested =>
    rw [hproperties, Option.getD_some] at h
    dsimp only
    rw [Catalog.Gate.projection_congr h,
      Catalog.Gate.projectionWarnings_congr (h.mono (List.subset_append_left _ _))]

theorem remoteValues_congr {values : Object} (h : catalog.AgreesOn other values.keys) :
    remoteValues catalog values = remoteValues other values := by
  induction values with
  | nil => rfl
  | cons e values ih =>
    rw [remoteValues, remoteValues, h e.1 List.mem_cons_self,
      ih (h.mono (List.subset_cons_self _ _))]

/-- A write comes to the same through catalogs that agree on the keys of its values. -/
theorem compileWrite_congr {properties : Option (List String)} {capability : Catalog.Capability}
    {method : Method} {resource : String} {status : Int}
    (h : catalog.AgreesOn other (d.values.getD []).keys) :
    (compileWrite catalog d properties warnings capability method resource status).result =
      (compileWrite other d properties warnings capability method resource status).result := by
  have hadmitted : catalog.AgreesOn other
      (Entries.keys (Catalog.Gate.admitted other (d.values.getD []) capability)) :=
    h.mono (List.map_subset _ List.filter_sublist.subset)
  rw [result_compileWrite, result_compileWrite, Catalog.Gate.admitted_congr h,
    Catalog.Gate.admissionWarnings_congr h, remoteValues_congr hadmitted]

/-! ### Selections through two catalogs -/

/-- A selection that asks for its first page, and whose filter stops there at a field that
the catalog lacks. -/
structure AsksUnknown (settings : Settings) (catalog : Catalog) (now : Int) (d : Directive)
    (field : String) : Prop where
  asks : AsksQuery settings catalog d
  stops : ∃ bound t, (remaining settings now d).result = .ok bound ∧
    Filter.parse (.object bound.filter) = .ok (some t) ∧ Filter.StopsAtUnknown catalog t field

/-- A selection that asks for its first page is compiled to a query. -/
theorem AsksQuery.result_eq (h : AsksQuery settings catalog d) :
    (compile settings catalog now d).result =
      (compileQuery settings catalog now d ((gateProperties settings catalog d).1.getD [])
        (gateProperties settings catalog d).2).result := by
  obtain ⟨ho, hcursor, hne⟩ := asksQuery_iff.1 h
  rw [result_select ho, compileSelect_of_properties hcursor hne]

/-- A selection that asks no query does not look at conditions. -/
theorem compileSelect_eq_of_not_asksQuery (ho : operationOf d = .ok .select)
    (hasks : ¬ AsksQuery settings catalog d) :
    compileSelect settings catalog now d (gateProperties settings catalog d).1 warnings =
      compileSelect settings other now d (gateProperties settings catalog d).1 warnings := by
  rw [asksQuery_iff, and_iff_right ho] at hasks
  cases hcursor : d.cursor?.filter (!·.isEmpty) with
  | some cursor => rw [compileSelect_of_cursor hcursor, compileSelect_of_cursor hcursor]
  | none =>
    have hps : (gateProperties settings catalog d).1.getD [] = [] := by
      by_contra hne
      exact hasks ⟨hcursor, hne⟩
    rw [compileSelect_of_no_properties hcursor hps, compileSelect_of_no_properties hcursor hps]

theorem AsksUnknown.result_eq (h : AsksUnknown settings catalog now d field) :
    (compile settings catalog now d).result = .error (Filter.unknownField field catalog) := by
  obtain ⟨bound, t, hbound, hparse, hstops⟩ := h.stops
  rw [h.asks.result_eq, result_compileQuery, hbound]
  show Filter.renderDocument catalog (.object bound.filter) >>= _ = _
  rw [Filter.renderDocument_of_parse hparse, hstops.render_eq]
  rfl

section Agreement

variable (h : catalog.AgreesOn other (mentioned settings d))
include h

theorem gateProperties_eq :
    gateProperties settings catalog d = gateProperties settings other d := by
  refine gateProperties_congr (h.mono (List.append_subset.2 ⟨?_, List.subset_append_right _ _⟩))
  intro name hname
  simp only [mentioned, List.mem_append, hname, true_or]

theorem agreesOn_values : catalog.AgreesOn other (d.values.getD []).keys := by
  refine h.mono fun name hname => ?_
  simp only [mentioned, List.mem_append, hname, or_true, true_or]

theorem agreesOn_filter {bound : DeltaBound}
    (hbound : (remaining settings now d).result = .ok bound) :
    catalog.AgreesOn other (Value.object bound.filter).fieldKeys := by
  refine h.mono fun name hname => ?_
  simp only [mentioned, List.mem_append, fieldKeys_remaining_subset hbound hname, or_true, true_or]

theorem AsksQuery.congr (hasks : AsksQuery settings catalog d) : AsksQuery settings other d := by
  rw [asksQuery_iff, ← gateProperties_eq h, ← asksQuery_iff]
  exact hasks

theorem AsksUnknown.congr (hasks : AsksUnknown settings catalog now d field) :
    AsksUnknown settings other now d field := by
  obtain ⟨bound, t, hbound, hparse, hstops⟩ := hasks.stops
  have hleaves : ∀ c ∈ t.leaves, catalog.get? c.field = other.get? c.field :=
    fun c hc => agreesOn_filter h hbound _ (Filter.leaf_mem_fieldKeys hparse hc)
  exact ⟨hasks.asks.congr h, bound, t, hbound, hparse, hstops.congr hleaves⟩

/-- A query comes to the same, unless its filter stops at a field that is unknown. -/
theorem compileQuery_eq_or_unknown (hasks : AsksQuery settings catalog d) {ps : List String} :
    (compileQuery settings catalog now d ps warnings).result =
        (compileQuery settings other now d ps warnings).result ∨
      ∃ field, AsksUnknown settings catalog now d field := by
  rw [result_compileQuery, result_compileQuery]
  cases hbound : (remaining settings now d).result with
  | error e => exact .inl rfl
  | ok bound =>
    rcases Filter.renderDocument_eq_or_unknown (agreesOn_filter h hbound) with
      hrender | ⟨t, field, hparse, hstops⟩
    · refine .inl ?_
      show Filter.renderDocument catalog (.object bound.filter) >>= _ = _
      rw [hrender]
      rfl
    · exact .inr ⟨field, hasks, bound, t, hbound, hparse, hstops⟩

/-- **Through catalogs that agree on what it mentions, a directive comes to the same**,
unless its filter stops at a field that they lack. -/
theorem result_eq_or_unknown :
    (compile settings catalog now d).result = (compile settings other now d).result ∨
      ∃ field, AsksUnknown settings catalog now d field := by
  have hgate := gateProperties_eq h
  cases ho : operationOf d with
  | error e => exact .inl ((result_unknown ho).trans (result_unknown ho).symm)
  | ok o =>
    cases o with
    | select =>
      by_cases hasks : AsksQuery settings catalog d
      · rw [hasks.result_eq, (hasks.congr h).result_eq, ← hgate]
        exact compileQuery_eq_or_unknown h hasks
      · rw [result_select ho, result_select ho, ← hgate,
          compileSelect_eq_of_not_asksQuery ho hasks]
        exact .inl rfl
    | insert =>
      rw [result_insert ho, result_insert ho, ← hgate, compileWrite_congr (agreesOn_values h)]
      exact .inl rfl
    | update =>
      rw [result_update ho, result_update ho, ← hgate]
      exact .inl (by simp only [compileWrite_congr (agreesOn_values h)])
    | delete =>
      rw [result_delete ho, result_delete ho, ← hgate]
      exact .inl rfl
    | invoke => exact .inl ((result_invoke ho).trans (result_invoke ho).symm)

end Agreement

/-! ### Compilation through two catalogs -/

/-- Whether a directive comes to the same through two catalogs, at a point in time. -/
structure Alike (settings : Settings) (catalog other : Catalog) (now : Int) (d : Directive) :
    Prop where
  /-- It is compiled through one exactly if it is through the other, and to the same. -/
  compiled : ∀ c, (compile settings catalog now d).result = .ok c ↔
    (compile settings other now d).result = .ok c
  /-- It fails with the same failure, unless it stops at a field that both lack. -/
  failed : ∀ e e', (compile settings catalog now d).result = .error e →
    (compile settings other now d).result = .error e' →
      e = e' ∨ ∃ field, AsksUnknown settings catalog now d field ∧
        e = Filter.unknownField field catalog ∧ e' = Filter.unknownField field other
  /-- The two failures are of one class exactly if it does not stop at such a field, or
  both catalogs have texts for names, or neither has. -/
  class_eq_iff : ∀ e e', (compile settings catalog now d).result = .error e →
    (compile settings other now d).result = .error e' →
      (e.cls = e'.cls ↔ ((∃ field, AsksUnknown settings catalog now d field) →
        (catalog.NamedByTexts ↔ other.NamedByTexts)))

theorem Alike.of_result_eq
    (heq : (compile settings catalog now d).result = (compile settings other now d).result)
    (hknown : ¬ ∃ field, AsksUnknown settings catalog now d field) :
    Alike settings catalog other now d where
  compiled c := by rw [heq]
  failed e e' he he' := .inl (Except.error.inj (he.symm.trans (heq.trans he')))
  class_eq_iff e e' he he' := by
    obtain rfl := Except.error.inj (he.symm.trans (heq.trans he'))
    exact iff_of_true rfl fun h => absurd h hknown

theorem Alike.of_asksUnknown (hasks : AsksUnknown settings catalog now d field)
    (hasks' : AsksUnknown settings other now d field) : Alike settings catalog other now d where
  compiled c := by
    rw [hasks.result_eq, hasks'.result_eq]
    exact iff_of_false (fun h => Outcome.ok_ne_error h.symm) fun h => Outcome.ok_ne_error h.symm
  failed e e' he he' := by
    obtain rfl := Except.error.inj (hasks.result_eq.symm.trans he)
    obtain rfl := Except.error.inj (hasks'.result_eq.symm.trans he')
    exact .inr ⟨field, hasks, rfl, rfl⟩
  class_eq_iff e e' he he' := by
    obtain rfl := Except.error.inj (hasks.result_eq.symm.trans he)
    obtain rfl := Except.error.inj (hasks'.result_eq.symm.trans he')
    exact Filter.cls_unknownField_eq_iff.trans ⟨fun h _ => h, fun h => h ⟨field, hasks⟩⟩

/-- **A directive sees of a catalog what it mentions.**  Take two catalogs that agree on
the names in its properties, on the keys of its values and of its filter at any depth,
and on the fields that are always asked for.  Then it comes to the same through both,
up to the names that are proposed for one that is unknown. -/
theorem compile_sees_mentioned (h : catalog.AgreesOn other (mentioned settings d)) (now : Int) :
    Alike settings catalog other now d := by
  by_cases hasks : ∃ field, AsksUnknown settings catalog now d field
  · obtain ⟨field, hasks⟩ := hasks
    exact .of_asksUnknown hasks (hasks.congr h)
  · exact .of_result_eq ((result_eq_or_unknown h).resolve_right hasks) hasks

/-- What a catalog of accounts may look like to one caller. -/
def salesCatalog : Catalog :=
  .ofFields (.text "Account")
    [{ name := .text "Name", creatable := true }, { name := .text "Rating" },
      { name := .text "SystemModstamp", type := "datetime" }]

/-- What it may look like to another one, with other fields in another order, one of them
numbered. -/
def auditCatalog : Catalog :=
  .ofFields (.text "Konto")
    [{ name := .text "SystemModstamp", type := "datetime" }, { name := .int 5 },
      { name := .text "Rating" }, { name := .text "Margin", type := "double" },
      { name := .text "Name", creatable := true }]

/-- A selection with names at several depths of its filter, and one that neither has. -/
def hotDirective : Directive :=
  { op := "SELECT"
    targetType := "Account"
    properties := some ["Name", "Secret"]
    filter := some
      [("$or", .list
        [.object [("Rating", .object [("$in", .list [.text "Hot", .text "Warm"])])],
          .object [("$and", .list [.object [("Name", .text "Acme")]])]])] }

/-- What both callers get. -/
def hotPage : Compiled :=
  { directive := { hotDirective with properties := some ["Name", "SystemModstamp"] }
    action := .request
      { method := .get
        resource := "query/?q=SELECT%20Name%2CSystemModstamp%20FROM%20Account%20WHERE%20"
          ++ "(Rating%20IN%20('Hot'%2C'Warm')%20OR%20(Name%3D'Acme'))"
        expectedStatus := 200 }
    warnings := [Catalog.Gate.unknownRequest "Secret"] }

set_option maxRecDepth 4000 in
/-- `compile_sees_mentioned` for that selection: what it is compiled to through one catalog
it is compiled to through the other. -/
theorem compile_sees_mentioned_hot :
    salesCatalog.AgreesOn auditCatalog (mentioned {} hotDirective) ∧
      (compile {} salesCatalog 0 hotDirective).result = .ok hotPage ∧
      (compile {} auditCatalog 0 hotDirective).result = .ok hotPage := by
  have hnames : mentioned {} hotDirective =
      ["Name", "Secret", "Rating", "Name", "Id", "SystemModstamp", "CreatedDate"] := rfl
  have hagree : salesCatalog.AgreesOn auditCatalog (mentioned {} hotDirective) := by
    rw [Catalog.AgreesOn, hnames]
    simp only [List.forall_mem_cons]
    exact ⟨rfl, rfl, rfl, rfl, rfl, rfl, rfl, List.forall_mem_nil _⟩
  have hpage : (compile {} salesCatalog 0 hotDirective).result = .ok hotPage := rfl
  exact ⟨hagree, hpage, ((compile_sees_mentioned hagree 0).compiled hotPage).1 hpage⟩

/-- The description of a type with fields of some names. -/
def describing (names : List Value) : Value :=
  .object [("name", .text "Account"), ("fields", .list (names.map fun n => .object [("name", n)]))]

/-- Accounts with a field. -/
def plainAccounts : Catalog := .ofFields (.text "Account") [{ name := .text "Name" }]

/-- Accounts with a field that has a number for a name besides. -/
def numberedAccounts : Catalog :=
  .ofFields (.text "Account") [{ name := .text "Name" }, { name := .int 5 }]

/-- A selection with a condition on a field that is unknown. -/
def regionDirective : Directive :=
  { op := "SELECT"
    targetType := "Account"
    properties := some ["Name"]
    filter := some [("Region", .text "EMEA")] }

/-- A field that is numbered tells two catalogs apart that agree on all names: a selection
is refused through the one and a fault through the other. -/
theorem numbered_field_tells_apart :
    Catalog.ofDescription (describing [.text "Name"]) = .ok plainAccounts ∧
      Catalog.ofDescription (describing [.text "Name", .int 5]) = .ok numberedAccounts ∧
      (∀ names, plainAccounts.AgreesOn numberedAccounts names) ∧
      ∃ e e', (compile {} plainAccounts 0 regionDirective).result = .error e ∧
        (compile {} numberedAccounts 0 regionDirective).result = .error e' ∧
        e.cls = .error .unknownField ∧ e'.cls = .fault "TypeError" := by
  exact ⟨rfl, rfl, fun _ _ _ => rfl, _, _, rfl, rfl, rfl, rfl⟩

end Compile
end RecordBridge
