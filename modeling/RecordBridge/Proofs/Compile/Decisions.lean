/-
# What the compilation of a directive decides

| operation | method   | status | body |
| --------- | -------- | ------ | ---- |
| SELECT    | `GET`    | 200    | none |
| INSERT    | `POST`   | 201    | some |
| UPDATE    | `PATCH`  | 204    | some |
| DELETE    | `DELETE` | 204    | none |
| INVOKE    | no request, but an operation on a document |

Besides the request the compilation decides whether a selection is a delta.  It
is one exactly if its filter has a lower bound that is not older than the
retention, and then the filter keeps that bound.  A bound that is older is the
only thing for which the filter of a directive is ever changed
(`compile_decides`).
-/

import RecordBridge.Proofs.Compile.Query
import RecordBridge.Proofs.Value.Times

namespace RecordBridge

/-- The method, the expected status and the presence of a body. -/
def Request.form (r : Request) : Method × Int × Bool :=
  (r.method, r.expectedStatus, r.body.isSome)

namespace Compile

/-- The form of the requests of an operation; an invocation has none. -/
def formOf? : Operation → Option (Method × Int × Bool)
  | .select => some (.get, 200, false)
  | .insert => some (.post, 201, true)
  | .update => some (.patch, 204, true)
  | .delete => some (.delete, 204, false)
  | .invoke => none

variable {settings : Settings} {catalog : Catalog} {now since : Int} {d : Directive} {c : Compiled}
  {properties : Option (List String)} {warnings : List Warning} {filter condition : Object}

/-! ### The lower bound of a filter -/

/-- A selection from its beginning on, with a condition on the time of the last
change that has a lower bound. -/
structure HasBound (settings : Settings) (d : Directive) (condition : Object) (since : Int) :
    Prop where
  operation : operationOf d = .ok .select
  cursor : ∀ cursor, d.options.cursorId = some cursor → cursor = ""
  condition_eq : d.filter.bind (·.get? settings.deltaField) = some (.object condition)
  bound : ∃ bound, Entries.get? condition "$gt" = some bound ∧ bound ≠ .null ∧
    bound.epochMillis = .ok (some since)

theorem boundOf?_eq_some_iff {field : String} {bound : Value} :
    boundOf? field filter = some bound ↔ ∃ condition,
      Entries.get? filter field = some (.object condition) ∧
        Entries.get? condition "$gt" = some bound ∧ bound ≠ .null := by
  unfold boundOf?
  constructor
  · intro h
    split at h
    · next condition hcondition =>
      split at h
      · exact nomatch h
      · exact nomatch h
      · next hnull hbound =>
        obtain rfl := Option.some.inj h
        refine ⟨condition, hcondition, hbound, ?_⟩
        rintro rfl
        exact hnull rfl
    · exact nomatch h
  · rintro ⟨condition, hcondition, hbound, hnull⟩
    rw [hcondition]
    dsimp only
    rw [hbound]
    split
    · next h => exact nomatch h
    · next h => exact absurd (Option.some.inj h) hnull
    · next h => exact h.symm

theorem boundMillis_eq_ok_iff {field : String} {bound : Value} {found : Option Int} :
    boundMillis field bound = .ok found ↔ bound.epochMillis = .ok found := by
  unfold boundMillis
  split
  · next h => rw [h, Except.ok.injEq, Except.ok.injEq]
  · next h =>
    rw [h]
    constructor
    · intro h
      split at h <;> exact nomatch h
    · exact fun h => nomatch h

/-- What can become of the lower bound of a filter. -/
inductive Bounds (settings : Settings) (now : Int) (filter : Object) : DeltaBound → Prop
  | absent (h : boundOf? settings.deltaField filter = none) :
    Bounds settings now filter ⟨filter, none⟩
  | kept {bound : Value} {since : Int} (h : boundOf? settings.deltaField filter = some bound)
    (ht : bound.epochMillis = .ok (some since)) (hk : now - since ≤ settings.retentionMillis) :
    Bounds settings now filter ⟨filter, some since⟩
  | dropped {bound : Value} {since : Int} (h : boundOf? settings.deltaField filter = some bound)
    (ht : bound.epochMillis = .ok (some since)) (hk : settings.retentionMillis < now - since) :
    Bounds settings now filter ⟨filter.erase settings.deltaField, none⟩

theorem bounds_of_deltaBound {bound : DeltaBound}
    (h : (deltaBound settings now filter).result = .ok bound) :
    Bounds settings now filter bound := by
  unfold deltaBound at h
  dsimp only at h
  split at h
  · next habsent =>
    obtain rfl := Except.ok.inj h
    exact .absent habsent
  · next value hvalue =>
    obtain ⟨found, hfound, h⟩ := Traced.bind_result_eq_ok_iff.1 h
    have htime := boundMillis_eq_ok_iff.1 hfound
    obtain ⟨-, -, -, hnull⟩ := boundOf?_eq_some_iff.1 hvalue
    split at h
    · exact absurd (Value.epochMillis_eq_ok_none_iff.1 htime) hnull
    · next since =>
      split at h
      · next hold =>
        obtain ⟨-, -, h⟩ := Traced.bind_result_eq_ok_iff.1 h
        obtain rfl := Except.ok.inj h
        exact .dropped hvalue htime hold
      · next hold =>
        obtain rfl := Except.ok.inj h
        exact .kept hvalue htime (Int.not_lt.1 hold)

namespace HasBound

theorem exists_filter (h : HasBound settings d condition since) :
    ∃ filter bound, d.filter = some filter ∧ givenFilter? d = some filter ∧
      boundOf? settings.deltaField filter = some bound ∧
      bound.epochMillis = .ok (some since) := by
  obtain ⟨filter, hfilter, hcondition⟩ := Option.bind_eq_some_iff.1 h.condition_eq
  obtain ⟨bound, hbound, hnull, htime⟩ := h.bound
  refine ⟨filter, bound, hfilter, ?_,
    boundOf?_eq_some_iff.2 ⟨condition, hcondition, hbound, hnull⟩, htime⟩
  rw [givenFilter?, hfilter]
  cases filter with
  | nil => exact nomatch hcondition
  | cons e es => rfl

/-- The bound of a filter is a bound of its selection. -/
theorem of_boundOf? {bound : Value} (ho : operationOf d = .ok .select)
    (hcursor : ∀ cursor, d.options.cursorId = some cursor → cursor = "")
    (hfilter : d.filter = some filter) (h : boundOf? settings.deltaField filter = some bound)
    (ht : bound.epochMillis = .ok (some since)) :
    ∃ condition, HasBound settings d condition since := by
  obtain ⟨condition, hcondition, hbound, hnull⟩ := boundOf?_eq_some_iff.1 h
  refine ⟨condition, ho, hcursor, ?_, bound, hbound, hnull, ht⟩
  rw [hfilter]
  exact hcondition

/-- A selection has one lower bound at most. -/
theorem unique {other : Object} {earlier : Int} (h : HasBound settings d condition since)
    (h' : HasBound settings d other earlier) : condition = other ∧ since = earlier := by
  obtain rfl := Value.object.inj (Option.some.inj (h.condition_eq.symm.trans h'.condition_eq))
  obtain ⟨bound, hbound, -, ht⟩ := h.bound
  obtain ⟨bound', hbound', -, ht'⟩ := h'.bound
  obtain rfl := Option.some.inj (hbound.symm.trans hbound')
  exact ⟨rfl, Option.some.inj (Except.ok.inj (ht.symm.trans ht'))⟩

end HasBound

/-! ### What is decided -/

/-- What the compilation of a directive decides at a time. -/
structure Decides (settings : Settings) (now : Int) (d : Directive) (o : Operation)
    (c : Compiled) : Prop where
  /-- The request has the form of the operation, and there is one for each operation
  but an invocation. -/
  form_eq : c.request?.map Request.form = formOf? o
  /-- There is an operation on a document exactly for an invocation. -/
  invokes : c.invoke?.isSome = true ↔ o = .invoke
  /-- The directive is a delta exactly if it has a lower bound within the retention. -/
  since_iff : ∀ since, c.deltaSince = some since ↔
    ∃ condition, HasBound settings d condition since ∧ now - since ≤ settings.retentionMillis
  /-- The filter of a delta keeps the condition with its bound. -/
  kept : ∀ condition since, HasBound settings d condition since → c.deltaSince = some since →
    c.directive.filter.bind (·.get? settings.deltaField) = some (.object condition)
  /-- Apart from properties, values and filter the directive is the given one. -/
  rest_eq : c.directive =
    { d with
      properties := c.directive.properties
      values := c.directive.values
      filter := c.directive.filter }
  /-- The filter is changed only if its bound is older than the retention. -/
  changed : c.directive.filter ≠ d.filter →
    ∃ condition since, HasBound settings d condition since ∧
      settings.retentionMillis < now - since

/-- A directive without a lower bound in it, whose filter was left alone. -/
theorem Decides.ofFull {o : Operation} (hform : c.request?.map Request.form = formOf? o)
    (hinvokes : c.invoke?.isSome = true ↔ o = .invoke)
    (hbound : ∀ condition since, ¬ HasBound settings d condition since)
    (hsince : c.deltaSince = none) (hfilter : c.directive.filter = d.filter)
    (hrest : c.directive =
      { d with
        properties := c.directive.properties
        values := c.directive.values
        filter := c.directive.filter }) : Decides settings now d o c where
  form_eq := hform
  invokes := hinvokes
  since_iff since := by
    constructor
    · exact fun h => nomatch hsince.symm.trans h
    · rintro ⟨condition, h, -⟩
      exact absurd h (hbound condition since)
  kept condition since h := absurd h (hbound condition since)
  rest_eq := hrest
  changed h := absurd hfilter h

/-- A delta: a directive with a lower bound within the retention, whose filter was
left alone. -/
theorem Decides.ofKept {o : Operation} (hform : c.request?.map Request.form = formOf? o)
    (hinvokes : c.invoke?.isSome = true ↔ o = .invoke)
    (hbound : HasBound settings d condition since)
    (hkept : now - since ≤ settings.retentionMillis)
    (hsince : c.deltaSince = some since) (hfilter : c.directive.filter = d.filter)
    (hrest : c.directive =
      { d with
        properties := c.directive.properties
        values := c.directive.values
        filter := c.directive.filter }) : Decides settings now d o c where
  form_eq := hform
  invokes := hinvokes
  since_iff earlier := by
    constructor
    · intro h
      obtain rfl := Option.some.inj (hsince.symm.trans h)
      exact ⟨condition, hbound, hkept⟩
    · rintro ⟨_, h, -⟩
      obtain ⟨-, rfl⟩ := hbound.unique h
      exact hsince
  kept _ _ h _ := by rw [hfilter, h.condition_eq]
  rest_eq := hrest
  changed h := absurd hfilter h

/-- A directive with a lower bound that is older than the retention. -/
theorem Decides.ofDropped {o : Operation} (hform : c.request?.map Request.form = formOf? o)
    (hinvokes : c.invoke?.isSome = true ↔ o = .invoke)
    (hbound : HasBound settings d condition since)
    (hold : settings.retentionMillis < now - since) (hsince : c.deltaSince = none)
    (hrest : c.directive =
      { d with
        properties := c.directive.properties
        values := c.directive.values
        filter := c.directive.filter }) : Decides settings now d o c where
  form_eq := hform
  invokes := hinvokes
  since_iff earlier := by
    constructor
    · exact fun h => nomatch hsince.symm.trans h
    · rintro ⟨_, h, hkept⟩
      obtain ⟨-, rfl⟩ := hbound.unique h
      omega
  kept _ _ _ h := nomatch hsince.symm.trans h
  rest_eq := hrest
  changed _ := ⟨condition, since, hbound, hold⟩

/-- Only selections have lower bounds. -/
theorem not_hasBound_of_ne {o : Operation} (ho : operationOf d = .ok o) (hne : o ≠ .select)
    (condition : Object) (since : Int) : ¬ HasBound settings d condition since := by
  intro h
  exact hne (Except.ok.inj (ho.symm.trans h.operation))

theorem decides_compileCursor {cursor : String}
    (hcursor : d.cursor?.filter (!·.isEmpty) = some cursor)
    (h : (compileCursor d properties warnings cursor).result = .ok c) :
    Decides settings now d .select c := by
  obtain rfl := Except.ok.inj h
  refine .ofFull rfl ⟨fun h => (nomatch h), fun h => nomatch h⟩ ?_ rfl rfl rfl
  intro condition since h
  obtain ⟨hsome, hne⟩ := Option.filter_eq_some_iff.1 hcursor
  rw [h.cursor cursor hsome] at hne
  exact nomatch hne

/-- A first page decides by what is left of its filter. -/
theorem decides_firstPage {ps : List String} {bound : DeltaBound} {text : String}
    (ho : operationOf d = .ok .select)
    (hcursor : ∀ cursor, d.options.cursorId = some cursor → cursor = "")
    (h : (remaining settings now d).result = .ok bound) :
    Decides settings now d .select (firstPage d ps warnings bound text) := by
  have hinvokes : (firstPage d ps warnings bound text).invoke?.isSome = true ↔
      Operation.select = .invoke := ⟨fun h => (nomatch h), fun h => nomatch h⟩
  have hbounds := bounds_of_deltaBound h
  cases hgiven : givenFilter? d with
  | none =>
    -- no filter and the empty one have no bound alike
    have hsince : bound.since = none := by
      rw [hgiven] at hbounds
      cases hbounds with
      | kept hvalue => exact nomatch (show (none : Option Value) = some _ from hvalue)
      | _ => rfl
    refine .ofFull rfl hinvokes (fun condition since hbound => ?_) hsince ?_ rfl
    · obtain ⟨_, _, -, hsome, -⟩ := hbound.exists_filter
      exact nomatch hgiven.symm.trans hsome
    · simp only [firstPage, hgiven, Option.isSome_none, Bool.false_eq_true, if_false]
  | some filter =>
    have hfilter : d.filter = some filter := (Option.filter_eq_some_iff.1 hgiven).1
    have hremains : (firstPage d ps warnings bound text).directive.filter = some bound.filter := by
      simp only [firstPage, hgiven, Option.isSome_some, if_true]
    rw [hgiven, Option.getD_some] at hbounds
    cases hbounds with
    | absent habsent =>
      refine .ofFull rfl hinvokes (fun condition since hbound => ?_) rfl
        (hremains.trans hfilter.symm) rfl
      obtain ⟨_, value, -, hsome, hvalue, -⟩ := hbound.exists_filter
      obtain rfl := Option.some.inj (hgiven.symm.trans hsome)
      exact nomatch habsent.symm.trans hvalue
    | kept hvalue htime hkept =>
      obtain ⟨condition, hbound⟩ := HasBound.of_boundOf? ho hcursor hfilter hvalue htime
      exact .ofKept rfl hinvokes hbound hkept rfl (hremains.trans hfilter.symm) rfl
    | dropped hvalue htime hold =>
      obtain ⟨condition, hbound⟩ := HasBound.of_boundOf? ho hcursor hfilter hvalue htime
      exact .ofDropped rfl hinvokes hbound hold rfl rfl

theorem decides_compileSelect (ho : operationOf d = .ok .select)
    (h : (compileSelect settings catalog now d properties warnings).result = .ok c) :
    Decides settings now d .select c := by
  obtain ⟨cursor, hcursor, h⟩ | ⟨hcursor, ps, -, -, h⟩ := compileSelect_eq_ok_iff.1 h
  · exact decides_compileCursor hcursor h
  · obtain ⟨bound, text, hbound, -, rfl⟩ := eq_firstPage_of_compileQuery h
    refine decides_firstPage ho (fun cursor hsome => ?_) hbound
    have hempty := Option.filter_eq_none_iff.1 hcursor cursor hsome
    rwa [Bool.not_eq_true', Bool.not_eq_false, String.isEmpty_iff] at hempty

theorem decides_compileWrite {o : Operation} {capability : Catalog.Capability} {method : Method}
    {resource : String} {status : Int} (ho : operationOf d = .ok o) (hne : o ≠ .select)
    (hform : formOf? o = some (method, status, true))
    (h : (compileWrite catalog d properties warnings capability method resource status).result
      = .ok c) : Decides settings now d o c := by
  obtain ⟨values, -, rfl⟩ := compileWrite_eq_ok_iff.1 h
  refine .ofFull hform.symm ⟨fun h => (nomatch h), ?_⟩ (not_hasBound_of_ne ho hne) rfl rfl rfl
  rintro rfl
  exact nomatch hform

/-- **What a compilation decides.**  A directive that is compiled has one of the
five operations.  Its request has the form of that operation, it is a delta
exactly if it has a lower bound within the retention, and it is the given
directive up to properties, values, and a filter without a bound beyond the
retention. -/
theorem compile_decides (h : (compile settings catalog now d).result = .ok c) :
    ∃ o, operationOf d = .ok o ∧ Decides settings now d o c := by
  unfold compile at h
  obtain ⟨o, ho, h⟩ := Traced.bind_result_eq_ok_iff.1 h
  have hop : operationOf d = .ok o := Outcome.mapError_eq_ok_iff.1 ho
  refine ⟨o, hop, ?_⟩
  cases o with
  | select =>
    obtain ⟨_, -, h⟩ := Traced.bind_result_eq_ok_iff.1 h
    exact decides_compileSelect hop h
  | insert =>
    obtain ⟨_, -, h⟩ := Traced.bind_result_eq_ok_iff.1 h
    exact decides_compileWrite hop (fun h => nomatch h) rfl h
  | update =>
    obtain ⟨_, -, h⟩ := Traced.bind_result_eq_ok_iff.1 h
    obtain ⟨id, -, h⟩ := Traced.bind_result_eq_ok_iff.1 h
    exact decides_compileWrite hop (fun h => nomatch h) rfl h
  | delete =>
    obtain ⟨_, -, h⟩ := Traced.bind_result_eq_ok_iff.1 h
    obtain ⟨id, -, h⟩ := Traced.bind_result_eq_ok_iff.1 h
    obtain rfl := Except.ok.inj h
    exact .ofFull rfl ⟨fun h => (nomatch h), fun h => nomatch h⟩
      (not_hasBound_of_ne hop fun h => nomatch h) rfl rfl rfl
  | invoke =>
    obtain ⟨i, -, h⟩ := Traced.bind_result_eq_ok_iff.1 h
    obtain rfl := Except.ok.inj h
    exact .ofFull rfl ⟨fun _ => rfl, fun _ => rfl⟩ (not_hasBound_of_ne hop fun h => nomatch h)
      rfl rfl rfl

/-- A catalog with the time of the last change. -/
def datedCatalog : Catalog :=
  .ofFields (.text "Account")
    [{ name := .text "Name" }, { name := .text "SystemModstamp", type := "datetime" }]

/-- A selection of what has changed since 1970. -/
def since1970 : Directive :=
  { op := "SELECT"
    targetType := "Account"
    properties := some ["Name"]
    filter := some [("SystemModstamp", .object [("$gt", .int 1500)])] }

/-- What it is compiled to while the remote side remembers that time. -/
def deltaPage : Compiled :=
  { directive := { since1970 with properties := some ["Name", "SystemModstamp"] }
    action := .request
      { method := .get
        resource := "query/?q=SELECT%20Name%2CSystemModstamp%20FROM%20Account%20WHERE%20"
          ++ "SystemModstamp%3E1970-01-01T00%3A00%3A01Z"
        expectedStatus := 200 }
    deltaSince := some 1500 }

/-- What it is compiled to later. -/
def fullPage : Compiled :=
  { directive := { since1970 with properties := some ["Name", "SystemModstamp"], filter := some [] }
    action := .request
      { method := .get
        resource := "query/?q=SELECT%20Name%2CSystemModstamp%20FROM%20Account"
        expectedStatus := 200 } }

set_option maxRecDepth 4000 in
/-- `compile_decides` for that selection when the bound is as old as the retention,
and one millisecond later. -/
theorem compile_decides_since1970 :
    (compile {} datedCatalog 2592001500 since1970).result = .ok deltaPage ∧
      (∃ o, operationOf since1970 = .ok o ∧ Decides {} 2592001500 since1970 o deltaPage) ∧
      (compile {} datedCatalog 2592001501 since1970).result = .ok fullPage ∧
      ∃ o, operationOf since1970 = .ok o ∧ Decides {} 2592001501 since1970 o fullPage := by
  have hdelta : (compile {} datedCatalog 2592001500 since1970).result = .ok deltaPage := rfl
  have hfull : (compile {} datedCatalog 2592001501 since1970).result = .ok fullPage := rfl
  exact ⟨hdelta, compile_decides hdelta, hfull, compile_decides hfull⟩

end Compile
end RecordBridge
