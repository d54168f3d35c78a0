/-
# Where compilation goes astray

Whatever is wrong with a directive is an error of the directive, with one
exception.  A number or a time that the machinery cannot convert is a fault.

| operation      | goes astray with                                             |
| -------------- | ------------------------------------------------------------ |
| SELECT         | a lower bound that overflows on its way to milliseconds      |
|                | the first comparison that cannot be written, if it is astray |
| INSERT, UPDATE | a number out of range in a field of times that is written    |
| DELETE, INVOKE | nothing                                                      |

These are all the faults there are (`isFault_compile_iff`).
-/

import RecordBridge.Proofs.Compile.Decisions
import RecordBridge.Proofs.Compile.Writes
import RecordBridge.Proofs.Condition.Refusals

namespace RecordBridge
namespace Compile

open Outcome (IsFault)

variable {settings : Settings} {catalog : Catalog} {now : Int} {d : Directive}
  {capability : Catalog.Capability} {f : Catalog.Field} {v : Value} {filter : Object}
  {properties : Option (List String)} {warnings : List Warning}

/-! ### Values -/

/-- Whether a value of a field is a number that the calendar does not have as a time. -/
structure StrayValue (catalog : Catalog) (key : String) (v : Value) : Prop where
  field : ∃ f, catalog.get? key = some f ∧ (f.isDateTime || f.isDate) = true
  number : v.isNumber = true
  range : v.OutOfRange

/-- A value fails exactly if it is a number out of range in a field of times. -/
theorem remoteValue_eq_error_iff {e : Failure} : remoteValue (some f) v = .error e ↔
    v.isNumber = true ∧ (f.isDateTime || f.isDate) = true ∧
      ∃ fault, v.timestamp? = some (.error fault) ∧ e = .time fault := by
  have hform : ∀ {r : Except Time.Fault String},
      (r.mapError Failure.time).map Value.text = .error e ↔
        ∃ fault, r = .error fault ∧ e = .time fault := by
    intro r
    simp only [Outcome.map_eq_error_iff, Outcome.mapError_eq_error_iff, @eq_comm _ e]
  unfold remoteValue
  dsimp only
  cases v.isNumber with
  | false => simp
  | true =>
    cases f.isDateTime with
    | true =>
      simp only [← Value.literalDateTime?_eq_error_iff]
      cases v.literalDateTime? with
      | none => simp
      | some r => simp [hform]
    | false =>
      simp only [← Value.literalDate?_eq_error_iff]
      cases f.isDate with
      | true =>
        cases v.literalDate? with
        | none => simp
        | some r => simp [hform]
      | false => simp

/-- A value that is not sent is a fault. -/
theorem isFault_of_remoteValue {key : String} {e : Failure}
    (h : remoteValue (catalog.get? key) v = .error e) :
    IsFault (remoteValue (catalog.get? key) v) := by
  rw [h]
  cases hf : catalog.get? key with
  | none => exact nomatch hf ▸ h
  | some f =>
    obtain ⟨-, -, fault, -, rfl⟩ := remoteValue_eq_error_iff.1 (hf ▸ h)
    exact ⟨_, rfl⟩

theorem isFault_remoteValue_iff {key : String} :
    IsFault (remoteValue (catalog.get? key) v) ↔ StrayValue catalog key v := by
  cases hf : catalog.get? key with
  | none =>
    refine iff_of_false Outcome.not_isFault_ok fun h => ?_
    obtain ⟨f, hf', -⟩ := h.field
    exact nomatch hf.symm.trans hf'
  | some f =>
    constructor
    · rintro ⟨_, h⟩
      obtain ⟨hnumber, htime, fault, hfault, -⟩ := remoteValue_eq_error_iff.1 h
      exact ⟨⟨f, hf, htime⟩, hnumber, Value.timestamp?_eq_error_iff.1 ⟨fault, hfault⟩⟩
    · rintro ⟨⟨f', hf', htime⟩, hnumber, hrange⟩
      obtain rfl := Option.some.inj (hf.symm.trans hf')
      obtain ⟨fault, hfault⟩ := Value.timestamp?_eq_error_iff.2 hrange
      exact ⟨_, remoteValue_eq_error_iff.2 ⟨hnumber, htime, fault, hfault, rfl⟩⟩

/-- **Values are a fault exactly if one of them strays.** -/
theorem isFault_remoteValues_iff {values : Object} : IsFault (remoteValues catalog values) ↔
    ∃ key v, (key, v) ∈ values ∧ StrayValue catalog key v := by
  induction values with
  | nil => exact iff_of_false Outcome.not_isFault_ok fun ⟨_, _, h, _⟩ => nomatch h
  | cons e values ih =>
    obtain ⟨key, v⟩ := e
    rw [remoteValues, Outcome.isFault_bind_iff, isFault_remoteValue_iff]
    constructor
    · rintro (hstray | ⟨_, -, hrest⟩)
      · exact ⟨key, v, List.mem_cons_self, hstray⟩
      · obtain ⟨key, v, hmem, hstray⟩ := ih.1 (Outcome.isFault_bind_ok_iff.1 hrest)
        exact ⟨key, v, List.mem_cons_of_mem _ hmem, hstray⟩
    · rintro ⟨key', v', hmem, hstray⟩
      rcases List.mem_cons.1 hmem with heq | hmem
      · obtain ⟨rfl, rfl⟩ := Prod.mk.inj heq
        exact .inl hstray
      · cases hfirst : remoteValue (catalog.get? key) v with
        | error e => exact .inl (isFault_remoteValue_iff.1 (isFault_of_remoteValue hfirst))
        | ok w => exact .inr ⟨w, rfl, Outcome.isFault_bind_ok_iff.2 (ih.2 ⟨key', v', hmem, hstray⟩)⟩

/-! ### Bounds and conditions -/

theorem isFault_boundMillis_iff {field : String} :
    IsFault (boundMillis field v) ↔ v.Overflows := by
  rw [← Value.epochMillis_eq_error_iff, boundMillis]
  split
  · next h => simp [IsFault, h]
  · next fault h =>
    cases hin : fault.isInValue with
    | true => simp [IsFault, h, hin]
    | false => simp [IsFault, h, hin]

/-- The bound of a filter is a fault exactly if it overflows. -/
theorem isFault_deltaBound_iff : IsFault (deltaBound settings now filter).result ↔
    ∃ v, boundOf? settings.deltaField filter = some v ∧ v.Overflows := by
  unfold deltaBound
  dsimp only
  split
  · next hnone => exact iff_of_false Outcome.not_isFault_ok (by simp [hnone])
  · next v hv =>
    have hbound := @isFault_boundMillis_iff v settings.deltaField
    rw [Traced.result_bind, Outcome.isFault_bind_iff, or_iff_left, hv]
    · simpa [Traced.ofExcept] using hbound
    · rintro ⟨since, -, h⟩
      split at h
      · exact Outcome.not_isFault_ok h
      · split at h <;> exact Outcome.not_isFault_ok h

/-- **A condition is a fault exactly if its first comparison that cannot be written is
astray.** -/
theorem isFault_renderDocument_iff : IsFault (Filter.renderDocument catalog (.object filter)) ↔
    ∃ t before c, Filter.parse (.object filter) = .ok (some t) ∧
      Filter.FirstUnwritten catalog t before c ∧ Filter.Astray catalog c := by
  have hparse : ¬ IsFault (Filter.conditionOf (.object filter)) := Outcome.not_isFault_mapError
  rw [Filter.renderDocument, Outcome.isFault_bind_iff, or_iff_right hparse]
  simp only [Filter.conditionOf_eq_ok_iff]
  constructor
  · rintro ⟨found, hparse, h⟩
    cases found with
    | none => exact absurd h Outcome.not_isFault_ok
    | some t =>
      obtain ⟨fault, h⟩ := h
      obtain ⟨before, c, hfirst, hc⟩ := Filter.render_eq_error_iff.1 h
      exact ⟨t, before, c, hparse, hfirst, Filter.exists_fault_iff.1 ⟨fault, hc⟩⟩
  · rintro ⟨t, before, c, hparse, hfirst, hastray⟩
    obtain ⟨fault, hc⟩ := Filter.exists_fault_iff.2 hastray
    exact ⟨some t, hparse, fault, Filter.render_eq_error_iff.2 ⟨before, c, hfirst, hc⟩⟩

/-! ### Directives -/

/-- A selection from its beginning on, for properties of which the catalog grants one. -/
structure AsksQuery (settings : Settings) (catalog : Catalog) (d : Directive) : Prop where
  operation : operationOf d = .ok .select
  cursor : ∀ cursor, d.options.cursorId = some cursor → cursor = ""
  properties : ∃ requested, d.properties = some requested ∧
    Catalog.Gate.projection catalog requested settings.defaultFields ≠ []

/-- A selection asks a query if it has no cursor and the gate leaves it a property. -/
theorem asksQuery_iff : AsksQuery settings catalog d ↔
    operationOf d = .ok .select ∧ d.cursor?.filter (!·.isEmpty) = none ∧
      (gateProperties settings catalog d).1.getD [] ≠ [] := by
  rw [gateProperties]
  constructor
  · rintro ⟨ho, hcursor, requested, hrequested, hne⟩
    rw [hrequested]
    exact ⟨ho, cursor_eq_none hcursor, hne⟩
  · rintro ⟨ho, hcursor, hne⟩
    refine ⟨ho, fun cursor hc => ?_, ?_⟩
    · by_contra hnonempty
      exact Option.filter_eq_none_iff.1 hcursor cursor hc (by simpa using hnonempty)
    · cases hproperties : d.properties with
      | none =>
        rw [hproperties] at hne
        exact absurd rfl hne
      | some requested =>
        rw [hproperties] at hne
        exact ⟨requested, rfl, hne⟩

/-- A directive that writes values: an insertion, or an update of a record that it
names. -/
def Writes (d : Directive) (capability : Catalog.Capability) : Prop :=
  ∃ o, operationOf d = .ok o ∧ capabilityOf? o = some capability ∧
    (o = .update → ∃ id, d.externalId? = some id ∧ id ≠ "")

/-- Why the compilation of a directive goes astray. -/
inductive Strays (settings : Settings) (catalog : Catalog) (now : Int) (d : Directive) : Prop
  /-- A value is written as a time that the calendar does not have. -/
  | value {capability : Catalog.Capability} {key : String} {v : Value}
    (hwrites : Writes d capability) (hv : (key, v) ∈ d.values.getD [])
    (hgranted : catalog.grants capability key = true) (hstray : StrayValue catalog key v)
  /-- The lower bound of the filter overflows. -/
  | bound {v : Value} (hasks : AsksQuery settings catalog d)
    (hv : boundOf? settings.deltaField (d.filter.getD []) = some v) (hover : v.Overflows)
  /-- The first comparison that cannot be written is astray. -/
  | comparison {bound : DeltaBound} {t : Filter.Tree} {before : List Filter.Comparison}
    {c : Filter.Comparison} (hasks : AsksQuery settings catalog d)
    (hbound : (remaining settings now d).result = .ok bound)
    (hparse : Filter.parse (.object bound.filter) = .ok (some t))
    (hfirst : Filter.FirstUnwritten catalog t before c) (hastray : Filter.Astray catalog c)

theorem getD_givenFilter? (d : Directive) : (givenFilter? d).getD [] = d.filter.getD [] := by
  rw [givenFilter?]
  cases d.filter with
  | none => rfl
  | some filter => cases filter <;> rfl

/-- Writing is a fault exactly if a value that is granted strays. -/
theorem isFault_compileWrite_iff {method : Method} {resource : String} {status : Int} :
    IsFault (compileWrite catalog d properties warnings capability method resource status).result ↔
      ∃ key v, (key, v) ∈ d.values.getD [] ∧ catalog.grants capability key = true ∧
        StrayValue catalog key v := by
  rw [result_compileWrite, Outcome.isFault_bind_ok_iff, isFault_remoteValues_iff]
  refine exists₂_congr fun key v => ?_
  rw [Catalog.Gate.admitted, List.mem_filter, and_assoc]
  exact Iff.rfl

/-- A query is a fault exactly if its bound or its condition is. -/
theorem isFault_compileQuery_iff {properties : List String} :
    IsFault (compileQuery settings catalog now d properties warnings).result ↔
      IsFault (remaining settings now d).result ∨
        ∃ bound, (remaining settings now d).result = .ok bound ∧
          IsFault (Filter.renderDocument catalog (.object bound.filter)) := by
  rw [result_compileQuery, Outcome.isFault_bind_iff]
  simp only [Outcome.isFault_bind_ok_iff]

/-- A selection is a fault exactly if it asks a query that is one. -/
theorem isFault_compileSelect_iff (ho : operationOf d = .ok .select) :
    IsFault (compileSelect settings catalog now d (gateProperties settings catalog d).1
        warnings).result ↔
      AsksQuery settings catalog d ∧ (IsFault (remaining settings now d).result ∨
        ∃ bound, (remaining settings now d).result = .ok bound ∧
          IsFault (Filter.renderDocument catalog (.object bound.filter))) := by
  rw [asksQuery_iff, and_iff_right ho]
  cases hcursor : d.cursor?.filter (!·.isEmpty) with
  | some cursor =>
    rw [compileSelect_of_cursor hcursor]
    exact iff_of_false Outcome.not_isFault_ok fun h => nomatch h.1.1
  | none =>
    by_cases hps : (gateProperties settings catalog d).1.getD [] = []
    · rw [compileSelect_of_no_properties hcursor hps]
      exact iff_of_false Outcome.not_isFault_error fun h => h.1.2 hps
    · rw [compileSelect_of_properties hcursor hps, isFault_compileQuery_iff]
      exact (and_iff_right ⟨rfl, hps⟩).symm

/-! ### Operations -/

/-- A directive that strays is a fault. -/
theorem Strays.isFault (h : Strays settings catalog now d) :
    IsFault (compile settings catalog now d).result := by
  cases h with
  | @value capability key v hwrites hv hgranted hstray =>
    obtain ⟨o, ho, hcapability, hid⟩ := hwrites
    have hwrite : ∃ key v, (key, v) ∈ d.values.getD [] ∧ catalog.grants capability key = true ∧
        StrayValue catalog key v := ⟨key, v, hv, hgranted, hstray⟩
    cases o with
    | insert =>
      obtain rfl := Option.some.inj hcapability
      rw [result_insert ho]
      exact isFault_compileWrite_iff.2 hwrite
    | update =>
      obtain rfl := Option.some.inj hcapability
      obtain ⟨id, hid⟩ := hid rfl
      rw [result_update ho, Outcome.isFault_bind_iff]
      exact .inr ⟨id, Outcome.mapError_eq_ok_iff.2 (recordId_eq_ok_iff.2 hid),
        isFault_compileWrite_iff.2 hwrite⟩
    | select => exact nomatch hcapability
    | delete => exact nomatch hcapability
    | invoke => exact nomatch hcapability
  | bound hasks hv hover =>
    rw [result_select hasks.operation, isFault_compileSelect_iff hasks.operation, remaining,
      getD_givenFilter?]
    exact ⟨hasks, .inl (isFault_deltaBound_iff.2 ⟨_, hv, hover⟩)⟩
  | comparison hasks hbound hparse hfirst hastray =>
    rw [result_select hasks.operation, isFault_compileSelect_iff hasks.operation]
    exact ⟨hasks, .inr ⟨_, hbound, isFault_renderDocument_iff.2 ⟨_, _, _, hparse, hfirst, hastray⟩⟩⟩

/-- **The compilation of a directive is a fault exactly if the directive strays.** -/
theorem isFault_compile_iff :
    IsFault (compile settings catalog now d).result ↔ Strays settings catalog now d := by
  refine ⟨fun h => ?_, Strays.isFault⟩
  cases ho : operationOf d with
  | error e =>
    rw [result_unknown ho] at h
    exact absurd h Outcome.not_isFault_error
  | ok o =>
    cases o with
    | select =>
      rw [result_select ho, isFault_compileSelect_iff ho] at h
      obtain ⟨hasks, hbound | ⟨bound, hbound, hcondition⟩⟩ := h
      · rw [remaining, getD_givenFilter?, isFault_deltaBound_iff] at hbound
        obtain ⟨v, hv, hover⟩ := hbound
        exact .bound hasks hv hover
      · obtain ⟨t, before, c, hparse, hfirst, hastray⟩ := isFault_renderDocument_iff.1 hcondition
        exact .comparison hasks hbound hparse hfirst hastray
    | insert =>
      rw [result_insert ho, isFault_compileWrite_iff] at h
      obtain ⟨key, v, hv, hgranted, hstray⟩ := h
      exact .value ⟨_, ho, rfl, Operation.noConfusion⟩ hv hgranted hstray
    | update =>
      rw [result_update ho, Outcome.isFault_bind_iff,
        or_iff_right Outcome.not_isFault_mapError] at h
      obtain ⟨id, hid, h⟩ := h
      obtain ⟨key, v, hv, hgranted, hstray⟩ := isFault_compileWrite_iff.1 h
      have hid := recordId_eq_ok_iff.1 (Outcome.mapError_eq_ok_iff.1 hid)
      exact .value ⟨_, ho, rfl, fun _ => ⟨id, hid⟩⟩ hv hgranted hstray
    | delete =>
      rw [result_delete ho, Outcome.isFault_bind_ok_iff] at h
      exact absurd h Outcome.not_isFault_mapError
    | invoke =>
      rw [result_invoke ho, compileInvoke, Traced.result_bind] at h
      exact absurd (Outcome.isFault_bind_ok_iff.1 h) Outcome.not_isFault_mapError

end Compile
end RecordBridge
