/-
# Writes send what the catalog grants

An insertion or an update submits values, and each of them comes to one of two
ends.  If its field allows the write it is sent, a number of a field of times as
the time that it denotes and anything else as it is (`Sends`).  Otherwise there
is a warning that names it and says why.

Both the entries that are sent and the warnings keep the order in which the
values were submitted, and the warnings stand behind those for the properties
(`compile_partitions_values`).
-/

import Mathlib.Data.List.Count
import Mathlib.Data.List.Forall2
import Mathlib.Data.List.Nodup
import RecordBridge.Proofs.Compile.Requests

namespace RecordBridge

namespace Catalog

/-- Whether the type has a field of a name that allows a write. -/
def grants (catalog : Catalog) (capability : Capability) (name : String) : Bool :=
  (catalog.get? name).any (·.allows capability)

end Catalog

namespace Compile

variable {settings : Settings} {catalog : Catalog} {capability : Catalog.Capability} {now : Int}
  {d : Directive} {c : Compiled}

/-- The capability that the values of an operation need; operations that submit no
values need none. -/
def capabilityOf? : Operation → Option Catalog.Capability
  | .insert => some .creatable
  | .update => some .updatable
  | _ => none

/-- What is sent for a value of a field. -/
inductive Sends (f : Catalog.Field) : Value → Value → Prop
  | time {v : Value} {text : String} (hv : v.isNumber = true) (hf : f.isDateTime = true)
    (h : v.literalDateTime? = some (.ok text)) : Sends f v (.text text)
  | day {v : Value} {text : String} (hv : v.isNumber = true) (hf : f.isDate = true)
    (h : v.literalDate? = some (.ok text)) : Sends f v (.text text)
  | same {v : Value} (h : v.isNumber = true → f.isDateTime = false ∧ f.isDate = false) :
    Sends f v v

/-- The field and the code of the warning for a key that is not sent: the type lacks
its field, or the field does not allow the write. -/
def refusal (catalog : Catalog) (key : String) : Option String × String :=
  (some key, if catalog.has key then "integration.field.notPermitted"
    else "integration.field.unknown")

/-- What becomes of submitted values: some are sent, and for the others there are
warnings. -/
structure Partitions (catalog : Catalog) (capability : Catalog.Capability)
    (submitted sent : Object) (refused : List Warning) : Prop where
  /-- The keys of fields that allow the write are sent, in order. -/
  keys_eq : sent.keys = submitted.keys.filter (catalog.grants capability)
  /-- Each of them has the value that was submitted, in the form of its field. -/
  values : List.Forall₂
    (fun e e' => e'.1 = e.1 ∧ ∃ f, catalog.get? e.1 = some f ∧ Sends f e.2 e'.2)
    (submitted.filter fun e => catalog.grants capability e.1) sent
  /-- For the other keys there are warnings, in order. -/
  refused_eq : refused.map (fun w => (w.field, w.code))
    = (submitted.keys.filter fun key => !catalog.grants capability key).map (refusal catalog)
  /-- A key is sent exactly if no warning names it. -/
  mem_keys_iff : ∀ key ∈ submitted.keys, key ∈ sent.keys ↔ ∀ w ∈ refused, w.field ≠ some key
  /-- A key that was submitted once and is not sent has one warning. -/
  once : submitted.keys.Nodup → ∀ key ∈ submitted.keys, key ∉ sent.keys →
    refused.countP (·.field = some key) = 1

/-! ### Keys and warnings -/

theorem keys_admitted (catalog : Catalog) (values : Object) (capability : Catalog.Capability) :
    (Catalog.Gate.admitted catalog values capability).keys
      = values.keys.filter (catalog.grants capability) := by
  rw [Entries.keys, Entries.keys, List.filter_map]
  rfl

theorem field_code_valueWarning? (catalog : Catalog) (capability : Catalog.Capability)
    (key : String) :
    (Catalog.Gate.valueWarning? catalog capability key).map (fun w => (w.field, w.code))
      = if catalog.grants capability key then none else some (refusal catalog key) := by
  unfold Catalog.Gate.valueWarning? Catalog.grants refusal Catalog.has
  cases catalog.get? key with
  | none => rfl
  | some f =>
    dsimp only [Option.any_some, Option.isSome_some]
    split <;> rfl

/-- There is a warning for each key whose field does not allow the write. -/
theorem field_code_admissionWarnings (catalog : Catalog) (values : Object)
    (capability : Catalog.Capability) :
    (Catalog.Gate.admissionWarnings catalog values capability).map (fun w => (w.field, w.code))
      = (values.keys.filter fun key => !catalog.grants capability key).map (refusal catalog) := by
  rw [Catalog.Gate.admissionWarnings, List.map_filterMap]
  simp only [field_code_valueWarning?]
  induction values with
  | nil => rfl
  | cons e values ih =>
    have hkeys : Entries.keys (e :: values) = e.1 :: Entries.keys values := rfl
    rw [hkeys, List.filterMap_cons, List.filter_cons, ih]
    cases catalog.grants capability e.1 <;> rfl

/-- The warnings name their keys. -/
theorem map_field_of_refusals {refused : List Warning} {keys : List String}
    (h : refused.map (fun w => (w.field, w.code)) = keys.map (refusal catalog)) :
    refused.map (·.field) = keys.map some := by
  have hfields := congrArg (List.map Prod.fst) h
  rwa [List.map_map, List.map_map] at hfields

theorem forall_field_ne_iff {refused : List Warning} {keys : List String}
    (h : refused.map (·.field) = keys.map some) (key : String) :
    (∀ w ∈ refused, w.field ≠ some key) ↔ key ∉ keys := by
  have hmem : some key ∈ refused.map (·.field) ↔ key ∈ keys := by rw [h]; simp
  rw [← hmem, List.mem_map]
  simp

theorem countP_field_eq {refused : List Warning} {keys : List String}
    (h : refused.map (·.field) = keys.map some) (key : String) :
    refused.countP (·.field = some key) = keys.count key := by
  have hcount : (refused.map (·.field)).count (some key) = (keys.map some).count (some key) := by
    rw [h]
  rw [List.count_map_of_injective _ _ (fun _ _ => Option.some.inj), List.count, List.countP_map]
    at hcount
  rw [← hcount]
  exact List.countP_congr fun w _ => by simp

/-! ### Values -/

/-- Numbers have a form as a point in time, and one as a day. -/
theorem literal_ne_none {v : Value} (hv : v.isNumber = true) :
    v.literalDateTime? ≠ none ∧ v.literalDate? ≠ none := by
  cases v with
  | int _ | float _ => exact ⟨Option.some_ne_none _, Option.some_ne_none _⟩
  | _ => exact absurd hv Bool.false_ne_true

theorem exists_text_of_map_mapError {r : Except Time.Fault String} {w : Value}
    (h : (r.mapError Failure.time).map Value.text = .ok w) :
    ∃ text, r = .ok text ∧ w = .text text := by
  obtain ⟨text, htext, rfl⟩ := Outcome.map_eq_ok_iff.1 h
  exact ⟨text, Outcome.mapError_eq_ok_iff.1 htext, rfl⟩

/-- **A value is sent in the form of its field.** -/
theorem sends_of_remoteValue {f : Catalog.Field} {v w : Value}
    (h : remoteValue (some f) v = .ok w) : Sends f v w := by
  unfold remoteValue at h
  dsimp only at h
  split at h
  · next htime =>
    obtain ⟨hv, hf⟩ := Bool.and_eq_true_iff.1 htime
    split at h
    · next r hr =>
      obtain ⟨text, rfl, rfl⟩ := exists_text_of_map_mapError h
      exact .time hv hf hr
    · next hr => exact absurd hr (literal_ne_none hv).1
  · next htime =>
    split at h
    · next hday =>
      obtain ⟨hv, hf⟩ := Bool.and_eq_true_iff.1 hday
      split at h
      · next r hr =>
        obtain ⟨text, rfl, rfl⟩ := exists_text_of_map_mapError h
        exact .day hv hf hr
      · next hr => exact absurd hr (literal_ne_none hv).2
    · next hday =>
      obtain rfl := Except.ok.inj h
      refine .same fun hv => ?_
      rw [hv, Bool.true_and, Bool.not_eq_true] at htime hday
      exact ⟨htime, hday⟩

theorem forall₂_of_remoteValues {values sent : Object} (h : remoteValues catalog values = .ok sent) :
    List.Forall₂ (fun e e' => e'.1 = e.1 ∧ remoteValue (catalog.get? e.1) e.2 = .ok e'.2)
      values sent := by
  have hall := Outcome.forall₂_of_steps (remoteValues catalog)
    (f := fun e => (remoteValue (catalog.get? e.1) e.2).map (e.1, ·)) rfl
    (fun e _ => by rw [remoteValues]; cases remoteValue (catalog.get? e.1) e.2 <;> rfl) h
  refine hall.imp fun e e' he => ?_
  obtain ⟨w, hw, rfl⟩ := Outcome.map_eq_ok_iff.1 he
  exact ⟨rfl, hw⟩

/-- What is sent has the keys of what was admitted. -/
theorem keys_of_remoteValues {values sent : Object} (h : remoteValues catalog values = .ok sent) :
    sent.keys = values.keys := by
  have hall := forall₂_of_remoteValues h
  clear h
  induction hall with
  | nil => rfl
  | cons he _ ih => exact congrArg₂ List.cons he.1 ih

/-! ### The partition -/

theorem partitions_of_remoteValues {submitted sent : Object}
    (h : remoteValues catalog (Catalog.Gate.admitted catalog submitted capability) = .ok sent) :
    Partitions catalog capability submitted sent
      (Catalog.Gate.admissionWarnings catalog submitted capability) := by
  have hkeys : sent.keys = submitted.keys.filter (catalog.grants capability) := by
    rw [keys_of_remoteValues h, keys_admitted]
  have hrefused := field_code_admissionWarnings catalog submitted capability
  have hfields := map_field_of_refusals hrefused
  refine ⟨hkeys, ?_, hrefused, fun key hkey => ?_, fun honce key hkey hsent => ?_⟩
  · have hgranted : ∀ e ∈ Catalog.Gate.admitted catalog submitted capability,
        ∃ f, catalog.get? e.1 = some f := by
      intro e he
      obtain ⟨f, hf, -⟩ := (Option.any_eq_true _ _).1 (List.mem_filter.1 he).2
      exact ⟨f, hf⟩
    have hall := (List.forall₂_and_left _ _).2 ⟨hgranted, forall₂_of_remoteValues h⟩
    refine hall.imp ?_
    rintro e e' ⟨⟨f, hf⟩, hkey, hvalue⟩
    rw [hf] at hvalue
    exact ⟨hkey, f, hf, sends_of_remoteValue hvalue⟩
  · rw [forall_field_ne_iff hfields, hkeys, List.mem_filter, List.mem_filter]
    simp [hkey]
  · rw [hkeys, List.mem_filter, not_and] at hsent
    rw [countP_field_eq hfields]
    refine List.count_eq_one_of_mem (honce.filter _) (List.mem_filter.2 ⟨hkey, ?_⟩)
    simpa using hsent hkey

/-- Writing sends the values that are granted, and warns of the others behind the
warnings that there are. -/
theorem partitions_of_compileWrite {properties : Option (List String)} {warnings : List Warning}
    {method : Method} {resource : String} {status : Int}
    (h : (compileWrite catalog d properties warnings capability method resource status).result
      = .ok c) :
    ∃ r sent refused, c.action = .request r ∧ r.body = some sent ∧
      c.warnings = warnings ++ refused ∧
        Partitions catalog capability (d.values.getD []) sent refused := by
  obtain ⟨sent, hsent, rfl⟩ := compileWrite_eq_ok_iff.1 h
  exact ⟨_, sent, _, rfl, rfl, rfl, partitions_of_remoteValues hsent⟩

/-- **A write partitions what is submitted.**  The request of an insertion or an
update that is compiled sends the values whose field allows the write, and for each
of the others there is a warning behind those for the properties. -/
theorem compile_partitions_values {o : Operation} (ho : operationOf d = .ok o)
    (hcapability : capabilityOf? o = some capability)
    (h : (compile settings catalog now d).result = .ok c) :
    ∃ r sent refused, c.action = .request r ∧ r.body = some sent ∧
      c.warnings = (gateProperties settings catalog d).2 ++ refused ∧
        Partitions catalog capability (d.values.getD []) sent refused := by
  unfold compile at h
  rw [ho] at h
  obtain ⟨_, hop, h⟩ := Traced.bind_result_eq_ok_iff.1 h
  obtain rfl := Except.ok.inj hop
  cases o with
  | insert =>
    obtain rfl := Option.some.inj hcapability
    obtain ⟨_, -, h⟩ := Traced.bind_result_eq_ok_iff.1 h
    exact partitions_of_compileWrite h
  | update =>
    obtain rfl := Option.some.inj hcapability
    obtain ⟨_, -, h⟩ := Traced.bind_result_eq_ok_iff.1 h
    obtain ⟨id, -, h⟩ := Traced.bind_result_eq_ok_iff.1 h
    exact partitions_of_compileWrite h
  | select => exact nomatch hcapability
  | delete => exact nomatch hcapability
  | invoke => exact nomatch hcapability

/-- A catalog with fields that allow a write and fields that do not. -/
def writableCatalog : Catalog :=
  .ofFields (.text "Account")
    [{ name := .text "Name", updatable := true }, { name := .text "Id" },
      { name := .text "ReviewedAt", type := "datetime", updatable := true },
      { name := .text "ClosedAt", type := "datetime", updatable := true },
      { name := .text "Founded", type := "date", updatable := true }]

/-- An update that submits numbers and a truth value for times, a value of a field that
does not allow it, and one of a field that the type lacks and that is asked for too. -/
def mixedUpdate : Directive :=
  { op := "UPDATE"
    targetType := "Account"
    properties := some ["Name", "Secret"]
    filter := some [("externalId", .text "001")]
    values := some
      [("Secret", .int 1), ("ReviewedAt", .int 1500), ("Id", .text "002"), ("ClosedAt", .bool true),
        ("Founded", .int 86401500), ("Name", .int 7)] }

/-- What it is compiled to. -/
def mixedWrite : Compiled :=
  { directive :=
      { mixedUpdate with
        properties := some ["Name", "Id"]
        values := some
          [("ReviewedAt", .text "1970-01-01T00:00:01Z"), ("ClosedAt", .bool true),
            ("Founded", .text "1970-01-02"), ("Name", .int 7)] }
    action := .request
      { method := .patch
        resource := "sobjects/Account/001"
        expectedStatus := 204
        body := some
          [("ReviewedAt", .text "1970-01-01T00:00:01Z"), ("ClosedAt", .bool true),
            ("Founded", .text "1970-01-02"), ("Name", .int 7)] }
    warnings :=
      [Catalog.Gate.unknownRequest "Secret", Catalog.Gate.unknownValue "Secret",
        Catalog.Gate.notPermitted .updatable "Id"] }

set_option maxRecDepth 4000 in
/-- `compile_partitions_values` for that update. -/
theorem compile_partitions_values_mixed :
    (compile {} writableCatalog 0 mixedUpdate).result = .ok mixedWrite ∧
      ∃ r sent refused, mixedWrite.action = .request r ∧ r.body = some sent ∧
        mixedWrite.warnings = (gateProperties {} writableCatalog mixedUpdate).2 ++ refused ∧
          Partitions writableCatalog .updatable (mixedUpdate.values.getD []) sent refused := by
  have hcompile : (compile {} writableCatalog 0 mixedUpdate).result = .ok mixedWrite := rfl
  exact ⟨hcompile, compile_partitions_values (o := .update) rfl rfl hcompile⟩

end Compile
end RecordBridge
