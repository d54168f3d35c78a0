/-
# What directives are compiled to

The operation of a directive decides what its compilation comes to, and the gate
adds nothing to that but warnings (`result_select`, `result_insert` and so on).
A selection is its next page or a query for what is left of its filter
(`compileSelect_eq_ok_iff`, `eq_firstPage_of_compileQuery`), and a write sends the
values that are granted (`compileWrite_eq_ok_iff`).

A directive that is compiled through a catalog and is no invocation becomes a
request for its own type, with the method of its operation
(`compile_isRequest`).  A selection that goes on from a cursor is no delta
(`deltaSince_of_cursor`), so only the first page of a selection can be one.
-/

import RecordBridge.Compile.Basic
import RecordBridge.Proofs.Outcome

namespace RecordBridge

namespace Compile

variable {settings : Settings} {catalog : Catalog} {now : Int} {d : Directive} {c : Compiled}
  {properties : Option (List String)} {warnings : List Warning}

/-! ### What each operation comes to -/

theorem result_select (ho : operationOf d = .ok .select) :
    (compile settings catalog now d).result =
      (compileSelect settings catalog now d (gateProperties settings catalog d).1
        (gateProperties settings catalog d).2).result := by
  rw [compile, ho]
  rfl

theorem result_insert (ho : operationOf d = .ok .insert) :
    (compile settings catalog now d).result =
      (compileWrite catalog d (gateProperties settings catalog d).1
        (gateProperties settings catalog d).2 .creatable .post
        ("sobjects/" ++ d.targetType ++ "/") 201).result := by
  rw [compile, ho]
  rfl

theorem result_update (ho : operationOf d = .ok .update) :
    (compile settings catalog now d).result =
      (recordId .update d).mapError Failure.directive >>= fun id =>
        (compileWrite catalog d (gateProperties settings catalog d).1
          (gateProperties settings catalog d).2 .updatable .patch
          (recordResource d.targetType id) 204).result := by
  rw [compile, ho]
  exact Traced.result_bind (Traced.ofExcept ((recordId .update d).mapError Failure.directive))
    fun id => compileWrite catalog d _ _ .updatable .patch (recordResource d.targetType id) 204

theorem result_delete (ho : operationOf d = .ok .delete) :
    (compile settings catalog now d).result =
      (recordId .delete d).mapError Failure.directive >>= fun id => .ok
        { directive := { d with properties := (gateProperties settings catalog d).1 }
          action := .request
            { method := .delete, resource := recordResource d.targetType id, expectedStatus := 204 }
          warnings := (gateProperties settings catalog d).2 } := by
  rw [compile, ho]
  exact Traced.result_bind (Traced.ofExcept ((recordId .delete d).mapError Failure.directive))
    fun id => pure _

theorem result_invoke (ho : operationOf d = .ok .invoke) :
    (compile settings catalog now d).result = (compileInvoke settings d).result := by
  rw [compile, ho]
  rfl

theorem result_unknown {e : Directive.Error} (ho : operationOf d = .error e) :
    (compile settings catalog now d).result = .error (.directive e) := by
  rw [compile, ho]
  rfl

/-- What is left of the filter of a directive when a lower bound beyond the
retention was dropped. -/
def remaining (settings : Settings) (now : Int) (d : Directive) : Traced DeltaBound :=
  deltaBound settings now ((givenFilter? d).getD [])

/-- The compiled directive for the first page of a selection. -/
def firstPage (d : Directive) (properties : List String) (warnings : List Warning)
    (bound : DeltaBound) (condition : String) : Compiled :=
  { directive :=
      { d with
        properties := some properties
        filter := if (givenFilter? d).isSome then some bound.filter else d.filter }
    action := .request
      { method := .get
        resource := queryResource (queryText properties d.targetType condition)
        expectedStatus := 200 }
    deltaSince := bound.since
    warnings }

/-- A query is for what is left of the filter of its directive. -/
theorem result_compileQuery {properties : List String} {warnings : List Warning} :
    (compileQuery settings catalog now d properties warnings).result =
      (remaining settings now d).result >>= fun bound =>
        Filter.renderDocument catalog (.object bound.filter) >>= fun condition =>
          .ok (firstPage d properties warnings bound condition) := by
  rw [compileQuery, Traced.result_bind]
  refine congrArg _ (funext fun bound => ?_)
  rw [Traced.result_bind]
  exact congrArg _ (funext fun condition => Traced.result_bind _ _)

theorem eq_firstPage_of_compileQuery {properties : List String} {warnings : List Warning}
    (h : (compileQuery settings catalog now d properties warnings).result = .ok c) :
    ∃ bound condition, (remaining settings now d).result = .ok bound ∧
      Filter.renderDocument catalog (.object bound.filter) = .ok condition ∧
      c = firstPage d properties warnings bound condition := by
  rw [result_compileQuery] at h
  obtain ⟨bound, hbound, h⟩ := Outcome.bind_eq_ok_iff.1 h
  obtain ⟨condition, hcondition, h⟩ := Outcome.bind_eq_ok_iff.1 h
  exact ⟨bound, condition, hbound, hcondition, (Except.ok.inj h).symm⟩

/-- An invocation is compiled to its operation on a document, and to nothing else. -/
theorem compileInvoke_eq_ok_iff : (compileInvoke settings d).result = .ok c ↔
    ∃ i, invocation settings d = .ok i ∧ c = { directive := d, action := .invoke i } := by
  have hresult : (compileInvoke settings d).result =
      (invocation settings d).mapError Failure.directive >>= fun i =>
        .ok { directive := d, action := .invoke i } := Traced.result_bind _ _
  rw [hresult, Outcome.bind_eq_ok_iff]
  refine exists_congr fun i => ?_
  rw [Outcome.mapError_eq_ok_iff, Except.ok.injEq, @eq_comm _ _ c]

/-! ### Selections -/

theorem compileSelect_of_cursor {cursor : String}
    (hcursor : d.cursor?.filter (!·.isEmpty) = some cursor) :
    compileSelect settings catalog now d properties warnings =
      compileCursor d properties warnings cursor := by
  unfold compileSelect
  rw [hcursor]

theorem compileSelect_of_properties (hcursor : d.cursor?.filter (!·.isEmpty) = none)
    (h : properties.getD [] ≠ []) :
    compileSelect settings catalog now d properties warnings =
      compileQuery settings catalog now d (properties.getD []) warnings := by
  unfold compileSelect
  rw [hcursor]
  match properties with
  | none | some [] => exact absurd rfl h
  | some (p :: ps) => rfl

theorem compileSelect_of_no_properties (hcursor : d.cursor?.filter (!·.isEmpty) = none)
    (h : properties.getD [] = []) :
    compileSelect settings catalog now d properties warnings =
      Traced.fail (.directive (.missingParameter "properties"
        (some "SELECT request must contain a property list"))) := by
  unfold compileSelect
  rw [hcursor]
  match properties with
  | none | some [] => rfl
  | some (p :: ps) => exact absurd h (List.cons_ne_nil p ps)

/-- A selection is compiled to its next page if it has a cursor, and to the query for its
properties otherwise, of which there is one at least. -/
theorem compileSelect_eq_ok_iff :
    (compileSelect settings catalog now d properties warnings).result = .ok c ↔
      (∃ cursor, d.cursor?.filter (!·.isEmpty) = some cursor ∧
        (compileCursor d properties warnings cursor).result = .ok c) ∨
      d.cursor?.filter (!·.isEmpty) = none ∧ ∃ ps, properties = some ps ∧ ps ≠ [] ∧
        (compileQuery settings catalog now d ps warnings).result = .ok c := by
  cases hcursor : d.cursor?.filter (!·.isEmpty) with
  | some cursor => simp [compileSelect_of_cursor hcursor]
  | none =>
    match properties with
    | none => simp [compileSelect_of_no_properties hcursor, Traced.fail]
    | some [] => simp [compileSelect_of_no_properties hcursor, Traced.fail]
    | some (p :: ps) => simp [compileSelect_of_properties hcursor]

/-! ### Writes and records -/

/-- What is written are the values that are granted, in the form in which they are sent. -/
theorem result_compileWrite {capability : Catalog.Capability} {method : Method}
    {resource : String} {status : Int} :
    (compileWrite catalog d properties warnings capability method resource status).result =
      remoteValues catalog (Catalog.Gate.admitted catalog (d.values.getD []) capability) >>=
        fun values => .ok
          { directive := { d with properties, values := some values }
            action := .request { method, resource, expectedStatus := status, body := some values }
            warnings := warnings ++
              Catalog.Gate.admissionWarnings catalog (d.values.getD []) capability } := by
  rw [compileWrite, Traced.result_bind]
  exact Traced.result_bind _ _

/-- A write that is compiled sends values in the form in which they are sent. -/
theorem compileWrite_eq_ok_iff {capability : Catalog.Capability} {method : Method}
    {resource : String} {status : Int} :
    (compileWrite catalog d properties warnings capability method resource status).result = .ok c ↔
      ∃ values,
        remoteValues catalog (Catalog.Gate.admitted catalog (d.values.getD []) capability)
          = .ok values ∧
        c =
          { directive := { d with properties, values := some values }
            action := .request { method, resource, expectedStatus := status, body := some values }
            warnings := warnings ++
              Catalog.Gate.admissionWarnings catalog (d.values.getD []) capability } := by
  rw [result_compileWrite, Outcome.bind_eq_ok_iff]
  refine exists_congr fun values => and_congr_right fun _ => ?_
  rw [Except.ok.injEq]
  exact eq_comm

theorem resource_of_compileWrite {capability : Catalog.Capability} {method : Method}
    {resource : String} {status : Int} {r : Request}
    (h : (compileWrite catalog d properties warnings capability method resource status).result
      = .ok c) (hr : c.action = .request r) : r.resource = resource := by
  obtain ⟨values, -, rfl⟩ := compileWrite_eq_ok_iff.1 h
  rw [← Action.request.inj hr]

/-- An operation on a record is about the one with the identifier that is given, if that is
not empty. -/
theorem recordId_eq_ok_iff {o : Operation} {id : String} :
    recordId o d = .ok id ↔ d.externalId? = some id ∧ id ≠ "" := by
  have hfilter : d.externalId?.filter (!·.isEmpty) = some id ↔
      d.externalId? = some id ∧ id ≠ "" := by
    rw [Option.filter_eq_some_iff]
    simp
  rw [← hfilter, recordId]
  split
  · next h => rw [h, Except.ok.injEq, Option.some.injEq]
  · next h =>
    rw [h]
    exact iff_of_false (fun h => Outcome.ok_ne_error h.symm) fun h => Option.some_ne_none _ h.symm

/-! ### Requests -/

/-- The method of the requests of an operation; an invocation has none. -/
def methodOf? : Operation → Option Method
  | .select => some .get
  | .insert => some .post
  | .update => some .patch
  | .delete => some .delete
  | .invoke => none

/-- A compiled directive that is a request for a type with a method, and a delta
only if it reads records. -/
structure IsRequest (typeName : String) (method : Option Method) (c : Compiled) : Prop where
  target_eq : c.directive.targetType = typeName
  action_eq : ∃ r, c.action = .request r ∧ some r.method = method
  full : method ≠ some .get → c.deltaSince = none

theorem compileQuery_isRequest {ps : List String}
    (h : (compileQuery settings catalog now d ps warnings).result = .ok c) :
    IsRequest d.targetType (some .get) c := by
  obtain ⟨bound, condition, -, -, rfl⟩ := eq_firstPage_of_compileQuery h
  exact ⟨rfl, ⟨_, rfl, rfl⟩, fun h => absurd rfl h⟩

theorem compileSelect_isRequest
    (h : (compileSelect settings catalog now d properties warnings).result = .ok c) :
    IsRequest d.targetType (some .get) c := by
  obtain ⟨cursor, -, h⟩ | ⟨-, ps, -, -, h⟩ := compileSelect_eq_ok_iff.1 h
  · obtain rfl := Except.ok.inj h
    exact ⟨rfl, ⟨_, rfl, rfl⟩, fun h => absurd rfl h⟩
  · exact compileQuery_isRequest h

theorem compileWrite_isRequest {capability : Catalog.Capability} {method : Method}
    {resource : String} {status : Int}
    (h : (compileWrite catalog d properties warnings capability method resource status).result
      = .ok c) : IsRequest d.targetType (some method) c := by
  obtain ⟨values, -, rfl⟩ := compileWrite_eq_ok_iff.1 h
  exact ⟨rfl, ⟨_, rfl, rfl⟩, fun _ => rfl⟩

/-- A selection is compiled by `compileSelect`. -/
theorem compileSelect_of_compile (ho : operationOf d = .ok .select)
    (h : (compile settings catalog now d).result = .ok c) :
    (compileSelect settings catalog now d (gateProperties settings catalog d).1
      (gateProperties settings catalog d).2).result = .ok c :=
  (result_select ho).symm.trans h

/-- **An operation other than an invocation becomes a request** for the type of
the directive, with the method of the operation. -/
theorem compile_isRequest {o : Operation} (ho : operationOf d = .ok o) (hne : o ≠ .invoke)
    (h : (compile settings catalog now d).result = .ok c) :
    IsRequest d.targetType (methodOf? o) c := by
  cases o with
  | select =>
    rw [result_select ho] at h
    exact compileSelect_isRequest h
  | insert =>
    rw [result_insert ho] at h
    exact compileWrite_isRequest h
  | update =>
    rw [result_update ho] at h
    obtain ⟨id, -, h⟩ := Outcome.bind_eq_ok_iff.1 h
    exact compileWrite_isRequest h
  | delete =>
    rw [result_delete ho] at h
    obtain ⟨id, -, h⟩ := Outcome.bind_eq_ok_iff.1 h
    obtain rfl := Except.ok.inj h
    exact ⟨rfl, ⟨_, rfl, rfl⟩, fun _ => rfl⟩
  | invoke => exact absurd rfl hne

/-- A compiled directive is about the type of the directive. -/
theorem targetType_of_compile (h : (compile settings catalog now d).result = .ok c) :
    c.directive.targetType = d.targetType := by
  cases ho : operationOf d with
  | error e =>
    rw [result_unknown ho] at h
    cases h
  | ok o =>
    by_cases hinvoke : o = .invoke
    · subst hinvoke
      rw [result_invoke ho] at h
      obtain ⟨_, -, rfl⟩ := compileInvoke_eq_ok_iff.1 h
      rfl
    · exact (compile_isRequest ho hinvoke h).target_eq

/-- What is compiled to an operation on a document is no delta. -/
theorem deltaSince_of_invoke {i : DocumentInvoke} (hi : c.action = .invoke i)
    (h : (compile settings catalog now d).result = .ok c) : c.deltaSince = none := by
  cases ho : operationOf d with
  | error e =>
    rw [result_unknown ho] at h
    cases h
  | ok o =>
    by_cases hinvoke : o = .invoke
    · subst hinvoke
      rw [result_invoke ho] at h
      obtain ⟨_, -, rfl⟩ := compileInvoke_eq_ok_iff.1 h
      rfl
    · obtain ⟨r, hr, -⟩ := (compile_isRequest ho hinvoke h).action_eq
      rw [hi] at hr
      cases hr

/-- A selection that goes on from a cursor is no delta. -/
theorem deltaSince_of_cursor {cursor : String} (ho : operationOf d = .ok .select)
    (hcursor : d.options.cursorId = some cursor) (hne : cursor ≠ "")
    (h : (compile settings catalog now d).result = .ok c) : c.deltaSince = none := by
  have hsome : d.cursor?.filter (!·.isEmpty) = some cursor := by
    rw [Directive.cursor?, hcursor, Option.filter_some, if_pos]
    rw [Bool.not_eq_true', Bool.eq_false_iff, Ne, String.isEmpty_iff]
    exact hne
  obtain ⟨_, -, h⟩ | ⟨hnone, -⟩ := compileSelect_eq_ok_iff.1 (compileSelect_of_compile ho h)
  · obtain rfl := Except.ok.inj h
    rfl
  · exact absurd (hsome.symm.trans hnone) (Option.some_ne_none _)

end Compile
end RecordBridge
