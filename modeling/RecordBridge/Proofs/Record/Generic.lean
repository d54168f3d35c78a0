/-
# Records in their generic shape

Three rules write into one generic record.  Keys of the envelope are left out,
the keys of identity and time change their names, and points in time become
milliseconds.  After them the time of the last change is filled in from another
field if it is not there.  A mapping may name one field for several of these:
an envelope key as the time of change or as the fallback, or a point in time as
the fallback.

What comes out is `Generic`, for every mapping that keeps identity and time of
change apart and for every record that has none of the generic keys
(`materialize_generic`).  A payload is refused exactly if it holds no records or
if a point in time that has to be read cannot be (`exists_materialize_iff`).
-/

import RecordBridge.Proofs.Record.Fields

namespace RecordBridge
namespace Record

/-! ### What is to come out -/

/-- The members of a payload: a single value is a list of one, null is a list of none. -/
def members : Value → List Value
  | .null => []
  | .list vs | .tuple vs => vs
  | v => [v]

/-- The objects in a payload, in order. -/
def recordsIn (payload : Value) : List Object := (members payload).filterMap Value.object?

/-- Whether a record has a key that is none of the envelope. -/
def Keeps (mapping : RecordMapping) (record : Object) (key : String) : Prop :=
  key ∈ record.keys ∧ key ∉ mapping.envelopeKeys

/-- The time of change that a record brings along; null if there is none. -/
def ownTime (mapping : RecordMapping) (record : Object) : Value :=
  if mapping.timestampField ∈ mapping.envelopeKeys then .null
  else .ofOption (record.get? mapping.timestampField)

/-- The time of the last change: the one that the record brings along, or else what
stands in the fallback field, be it of the envelope or not. -/
def changeTime (mapping : RecordMapping) (record : Object) : Value :=
  if ownTime mapping record = .null then .ofOption (record.get? mapping.fallbackTimestampField)
  else ownTime mapping record

/-- What a record is in its generic shape. -/
structure Generic (mapping : RecordMapping) (catalog : Catalog) (record result : Object) :
    Prop where
  /-- No key is given twice. -/
  nodup : result.keys.Nodup
  /-- The keys are the time of change, the identity if the record has one, and the other
  keys that are kept. -/
  mem_keys_iff : ∀ key, key ∈ result.keys ↔
    key = externalTimestamp ∨
    (key = externalId ∧ Keeps mapping record mapping.identityField) ∨
    (Keeps mapping record key ∧ key ≠ mapping.identityField ∧ key ≠ mapping.timestampField)
  /-- The identity is what it was. -/
  identity : Keeps mapping record mapping.identityField →
    result.get? externalId = record.get? mapping.identityField
  /-- The time of the last change, in milliseconds. -/
  timestamp : ∃ w, InMillis (changeTime mapping record) w ∧ result.get? externalTimestamp = some w
  /-- Other points in time, in milliseconds. -/
  time : ∀ key v, record.get? key = some v → key ∉ mapping.envelopeKeys →
    key ≠ mapping.identityField → key ≠ mapping.timestampField → isTime catalog key = true →
      ∃ w, InMillis v w ∧ result.get? key = some w
  /-- Everything else is what it was. -/
  other : ∀ key v, record.get? key = some v → key ∉ mapping.envelopeKeys →
    key ≠ mapping.identityField → key ≠ mapping.timestampField → isTime catalog key = false →
      result.get? key = some v

/-- Whether all points in time can be read that a record needs for its generic shape. -/
def Readable (mapping : RecordMapping) (catalog : Catalog) (record : Object) : Prop :=
  (∀ key v, (key, v) ∈ record → FieldReadable mapping catalog key v) ∧
    ∃ w, InMillis (changeTime mapping record) w

/-- Whether a payload is a record, a list of values, or null for none. -/
def HoldsRecords : Value → Prop
  | .null | .object _ | .list _ | .tuple _ => True
  | _ => False

variable {mapping : RecordMapping} {catalog : Catalog} {record result done : Object}
  {name : String}

/-- The names that the keys of a record get. -/
theorem exists_genericKey?_iff (hdistinct : mapping.identityField ≠ mapping.timestampField) :
    (∃ key ∈ record.keys, genericKey? mapping key = some name) ↔
      (name = externalId ∧ Keeps mapping record mapping.identityField) ∨
      (name = externalTimestamp ∧ Keeps mapping record mapping.timestampField) ∨
      (Keeps mapping record name ∧ name ≠ mapping.identityField ∧
        name ≠ mapping.timestampField) := by
  constructor
  · rintro ⟨key, hkey, hname⟩
    obtain ⟨hkept, hname⟩ := genericKey?_eq_some_iff.1 hname
    rcases hname with ⟨rfl, rfl⟩ | ⟨-, rfl, rfl⟩ | ⟨hid, htime, rfl⟩
    · exact .inl ⟨rfl, hkey, hkept⟩
    · exact .inr (.inl ⟨rfl, hkey, hkept⟩)
    · exact .inr (.inr ⟨⟨hkey, hkept⟩, hid, htime⟩)
  · rintro (⟨rfl, hkey, hkept⟩ | ⟨rfl, hkey, hkept⟩ | ⟨⟨hkey, hkept⟩, hid, htime⟩)
    · exact ⟨_, hkey, genericKey?_eq_some_iff.2 ⟨hkept, .inl ⟨rfl, rfl⟩⟩⟩
    · exact ⟨_, hkey, genericKey?_eq_some_iff.2 ⟨hkept, .inr (.inl ⟨hdistinct.symm, rfl, rfl⟩)⟩⟩
    · exact ⟨_, hkey, genericKey?_eq_some_iff.2 ⟨hkept, .inr (.inr ⟨hid, htime, rfl⟩)⟩⟩

/-! ### One record -/

theorem hasTimestamp_iff : hasTimestamp done = true ↔
    ∃ w, done.get? externalTimestamp = some w ∧ w ≠ .null := by
  unfold hasTimestamp
  split
  · next hget => simp [hget]
  · next hget => simp [hget]
  · next hnone hnull =>
    refine iff_of_true rfl ?_
    obtain ⟨w, hw⟩ := Option.ne_none_iff_exists'.1 fun hget => hnone hget
    exact ⟨w, hw, fun heq => hnull (heq ▸ hw)⟩

/-- A record is its fields, with the fallback for the time of change if there is none. -/
theorem materializeOne_eq_ok_iff : materializeOne mapping catalog record = .ok result ↔
    ∃ fields, materializeFields mapping catalog [] record = .ok fields ∧
      (hasTimestamp fields = true ∧ result = fields ∨
        hasTimestamp fields = false ∧
          ∃ w, InMillis (.ofOption (record.get? mapping.fallbackTimestampField)) w ∧
            result = fields.set externalTimestamp w) := by
  rw [materializeOne, Outcome.bind_eq_ok_iff]
  refine exists_congr fun fields => and_congr_right fun _ => ?_
  cases hasTimestamp fields with
  | true => simp [eq_comm]
  | false => simp [Outcome.bind_eq_ok_iff, epochField_eq_ok_iff, @eq_comm _ result]

section

variable (hdistinct : mapping.identityField ≠ mapping.timestampField) (hnodup : record.keys.Nodup)
  (hfree : ∀ key ∈ record.keys, key ≠ externalId ∧ key ≠ externalTimestamp)

include hdistinct hnodup hfree

/-- The fields hold the time of change that the record brings along. -/
theorem get?_ownTime (h : materializeFields mapping catalog [] record = .ok done) :
    (done.get? externalTimestamp = none ∧ ownTime mapping record = .null) ∨
      ∃ w, InMillis (ownTime mapping record) w ∧ done.get? externalTimestamp = some w := by
  by_cases hkeeps : Keeps mapping record mapping.timestampField
  · obtain ⟨hkey, hkept⟩ := hkeeps
    obtain ⟨v, hv⟩ := Entries.mem_keys_iff_exists.1 hkey
    have hname : genericKey? mapping mapping.timestampField = some externalTimestamp :=
      genericKey?_eq_some_iff.2 ⟨hkept, .inr (.inl ⟨hdistinct.symm, rfl, rfl⟩)⟩
    obtain ⟨w, hw, hget⟩ := get?_materializeFields hnodup hfree
      ((Entries.get?_eq_some_iff hnodup).1 hv) hname h
    rw [Becomes, if_pos ⟨hdistinct.symm, .inl rfl⟩] at hw
    rw [ownTime, if_neg hkept, hv]
    exact .inr ⟨w, hw, hget⟩
  · refine .inl ⟨?_, ?_⟩
    · rw [get?_of_unnamed _ h, Entries.get?_nil]
      intro key hkey hname
      rcases (exists_genericKey?_iff hdistinct).1 ⟨key, hkey, hname⟩ with
        ⟨hname, -⟩ | ⟨-, hkeeps'⟩ | ⟨⟨hkey, -⟩, -⟩
      · exact absurd hname (by decide)
      · exact hkeeps hkeeps'
      · exact (hfree _ hkey).2 rfl
    · unfold ownTime
      split
      · rfl
      · next hkept =>
        have hnone : record.get? mapping.timestampField = none := by
          by_contra hget
          exact hkeeps ⟨Entries.get?_ne_none_iff.1 hget, hkept⟩
        rw [hnone]
        rfl

/-- Without a time of change in the fields the record brings none along. -/
theorem ownTime_eq_null (h : materializeFields mapping catalog [] record = .ok done)
    (htime : hasTimestamp done = false) : ownTime mapping record = .null := by
  rcases get?_ownTime hdistinct hnodup hfree h with ⟨-, hnull⟩ | ⟨w, hw, hget⟩
  · exact hnull
  · by_contra hne
    rw [hasTimestamp_iff.2 ⟨w, hget, fun hnull => hne (hw.eq_null_iff.1 hnull)⟩] at htime
    cases htime

/-- The time of change is filled in, and all else stays as the fields made it. -/
theorem exists_fields (h : materializeOne mapping catalog record = .ok result) :
    ∃ fields, materializeFields mapping catalog [] record = .ok fields ∧
      (∀ name, name ≠ externalTimestamp → result.get? name = fields.get? name) ∧
      result.keys.Nodup ∧
      ∃ w, InMillis (changeTime mapping record) w ∧ result.get? externalTimestamp = some w := by
  obtain ⟨fields, hfields, hresult⟩ := materializeOne_eq_ok_iff.1 h
  have hempty : (Entries.keys ([] : Object)).Nodup := List.nodup_nil
  have hkeys := nodup_materializeFields hempty hfields
  have hown := get?_ownTime hdistinct hnodup hfree hfields
  refine ⟨fields, hfields, ?_⟩
  rcases hresult with ⟨htime, rfl⟩ | ⟨htime, w, hw, rfl⟩
  · obtain ⟨w, hget, hw⟩ := hasTimestamp_iff.1 htime
    refine ⟨fun _ _ => rfl, hkeys, w, ?_, hget⟩
    rcases hown with ⟨hnone, -⟩ | ⟨w', hw', hget'⟩
    · rw [hget] at hnone
      cases hnone
    · obtain rfl := Option.some.inj (hget'.symm.trans hget)
      rwa [changeTime, if_neg fun hnull => hw (hw'.eq_null_iff.2 hnull)]
  · refine ⟨fun name hname => Entries.get?_set_of_ne _ _ hname,
      Entries.nodup_keys_set hkeys _ _, w, ?_, Entries.get?_set_self _ _ _⟩
    have hnull := ownTime_eq_null hdistinct hnodup hfree hfields htime
    rwa [changeTime, if_pos hnull]

/-- **A record is made generic.** -/
theorem generic_of_materializeOne (h : materializeOne mapping catalog record = .ok result) :
    Generic mapping catalog record result := by
  obtain ⟨fields, hfields, hothers, hkeys, htime⟩ := exists_fields hdistinct hnodup hfree h
  have hput : ∀ {key name v}, record.get? key = some v → genericKey? mapping key = some name →
      ∃ w, Becomes mapping catalog key v w ∧ fields.get? name = some w := fun hget hname =>
    get?_materializeFields hnodup hfree ((Entries.get?_eq_some_iff hnodup).1 hget) hname hfields
  have hunchanged : ∀ {key v}, record.get? key = some v → result.get? key = fields.get? key := by
    intro key v hget
    exact hothers key (hfree key (Entries.mem_keys_iff_exists.2 ⟨v, hget⟩)).2
  refine ⟨hkeys, fun name => ?_, ?_, htime, ?_, ?_⟩
  · by_cases hname : name = externalTimestamp
    · obtain ⟨w, -, hget⟩ := htime
      exact iff_of_true (Entries.mem_keys_iff_exists.2 ⟨w, hname ▸ hget⟩) (.inl hname)
    · rw [← Entries.get?_ne_none_iff, hothers name hname, Entries.get?_ne_none_iff,
        mem_keys_materializeFields hnodup hfree hfields, exists_genericKey?_iff hdistinct]
      simp only [hname, false_and, false_or]
  · rintro ⟨hmem, hkept⟩
    obtain ⟨v, hv⟩ := Entries.mem_keys_iff_exists.1 hmem
    obtain ⟨w, hw, hget⟩ := hput hv (genericKey?_eq_some_iff.2 ⟨hkept, .inl ⟨rfl, rfl⟩⟩)
    rw [Becomes, if_neg fun h => h.1 rfl] at hw
    rw [hothers externalId (by decide), hget, hv, hw]
  · intro key v hv hkept hid htime hmoment
    obtain ⟨w, hw, hget⟩ := hput hv
      (genericKey?_eq_some_iff.2 ⟨hkept, .inr (.inr ⟨hid, htime, rfl⟩)⟩)
    rw [Becomes, if_pos ⟨hid, .inr hmoment⟩] at hw
    exact ⟨w, hw, by rw [hunchanged hv, hget]⟩
  · intro key v hv hkept hid htime hmoment
    obtain ⟨w, hw, hget⟩ := hput hv
      (genericKey?_eq_some_iff.2 ⟨hkept, .inr (.inr ⟨hid, htime, rfl⟩)⟩)
    rw [Becomes, if_neg (by simp [htime, hmoment])] at hw
    rw [hunchanged hv, hget, hw]

/-- **Which records can be made generic**: those whose points in time can be read. -/
theorem exists_materializeOne_iff :
    (∃ result, materializeOne mapping catalog record = .ok result) ↔
      Readable mapping catalog record := by
  constructor
  · rintro ⟨result, h⟩
    obtain ⟨fields, hfields, -, -, w, hw, -⟩ := exists_fields hdistinct hnodup hfree h
    exact ⟨(exists_materializeFields_iff []).1 ⟨fields, hfields⟩, w, hw⟩
  · rintro ⟨htimes, w, hw⟩
    obtain ⟨fields, hfields⟩ := (exists_materializeFields_iff []).2 htimes
    cases htime : hasTimestamp fields with
    | true => exact ⟨_, materializeOne_eq_ok_iff.2 ⟨fields, hfields, .inl ⟨htime, rfl⟩⟩⟩
    | false =>
      have hnull := ownTime_eq_null hdistinct hnodup hfree hfields htime
      rw [changeTime, if_pos hnull] at hw
      exact ⟨_, materializeOne_eq_ok_iff.2 ⟨fields, hfields, .inr ⟨htime, w, hw, rfl⟩⟩⟩

end

/-! ### A payload -/

/-- A payload holds its records, in order, if it is one or a list of values. -/
theorem normalize_eq_ok_iff {payload : Value} {records : List Object} :
    normalize payload = .ok records ↔ HoldsRecords payload ∧ records = recordsIn payload := by
  cases payload with
  | null | object _ | list _ | tuple _ =>
    refine ⟨fun h => ⟨trivial, (Except.ok.inj h).symm⟩, ?_⟩
    rintro ⟨-, rfl⟩
    rfl
  | _ =>
    refine ⟨fun h => ?_, fun h => h.1.elim⟩
    cases h

theorem materialize_eq_ok_iff {payload : Value} {results : List Object} :
    materialize mapping catalog payload = .ok results ↔
      HoldsRecords payload ∧ materializeAll mapping catalog (recordsIn payload) = .ok results := by
  rw [materialize, Outcome.bind_eq_ok_iff]
  simp only [Outcome.mapError_eq_ok_iff, normalize_eq_ok_iff]
  constructor
  · rintro ⟨_, ⟨hholds, rfl⟩, hall⟩
    exact ⟨hholds, hall⟩
  · rintro ⟨hholds, hall⟩
    exact ⟨_, ⟨hholds, rfl⟩, hall⟩

/-- Records are made generic one by one. -/
theorem forall₂_of_materializeAll {raw records : List Object}
    (h : materializeAll mapping catalog raw = .ok records) :
    List.Forall₂ (fun x y => materializeOne mapping catalog x = .ok y) raw records :=
  Outcome.forall₂_of_steps (materializeAll mapping catalog) rfl (fun _ _ => rfl) h

theorem materializeAll_eq_mapM (records : List Object) :
    materializeAll mapping catalog records = records.mapM (materializeOne mapping catalog) := by
  induction records with
  | nil => rfl
  | cons record records ih => rw [materializeAll, ih, List.mapM_cons]; rfl

/-- **Which payloads can be materialized**: those that hold records all of which can be
made generic. -/
theorem exists_materialize_iff {payload : Value}
    (hdistinct : mapping.identityField ≠ mapping.timestampField)
    (hnodup : ∀ record ∈ recordsIn payload, record.keys.Nodup)
    (hfree : ∀ record ∈ recordsIn payload, ∀ key ∈ record.keys,
      key ≠ externalId ∧ key ≠ externalTimestamp) :
    (∃ results, materialize mapping catalog payload = .ok results) ↔
      HoldsRecords payload ∧ ∀ record ∈ recordsIn payload, Readable mapping catalog record := by
  simp only [materialize_eq_ok_iff, exists_and_left, materializeAll_eq_mapM,
    Outcome.exists_mapM_eq_ok_iff]
  refine and_congr_right fun _ => forall₂_congr fun record hmem => ?_
  exact exists_materializeOne_iff hdistinct (hnodup record hmem) (hfree record hmem)

/-- **Materializing loses no field and makes up none.**  What comes out is one generic
record for each object in the payload, in order. -/
theorem materialize_generic {payload : Value} {results : List Object}
    (hdistinct : mapping.identityField ≠ mapping.timestampField)
    (hnodup : ∀ record ∈ recordsIn payload, record.keys.Nodup)
    (hfree : ∀ record ∈ recordsIn payload, ∀ key ∈ record.keys,
      key ≠ externalId ∧ key ≠ externalTimestamp)
    (h : materialize mapping catalog payload = .ok results) :
    List.Forall₂ (Generic mapping catalog) (recordsIn payload) results := by
  obtain ⟨-, hall⟩ := materialize_eq_ok_iff.1 h
  have hpairs := (List.forall₂_and_left _ _).2 ⟨fun _ => id, forall₂_of_materializeAll hall⟩
  refine hpairs.imp fun record result hpair => ?_
  exact generic_of_materializeOne hdistinct (hnodup record hpair.1) (hfree record hpair.1) hpair.2

/-- A mapping that counts the time of change to the envelope. -/
def auditMapping : RecordMapping := { envelopeKeys := ["attributes", "SystemModstamp"] }

/-- Cases, with two fields of points in time. -/
def auditCatalog : Catalog where
  name := .text "Case"
  fields := [(.text "CreatedDate", { name := .text "CreatedDate", type := "datetime" }),
    (.text "ClosedDate", { name := .text "ClosedDate", type := "datetime" })]

/-- A case that is not closed yet. -/
def auditRecord : Object :=
  [("attributes", .object []), ("CreatedDate", .text "2024-02-29"), ("Id", .text "500"),
    ("SystemModstamp", .text "2024-03-01"), ("ClosedDate", .null), ("Subject", .text "Leap")]

/-- The case in its generic shape. -/
def auditGeneric : Object :=
  [("CreatedDate", .int 1709164800000), ("externalId", .text "500"), ("ClosedDate", .null),
    ("Subject", .text "Leap"), ("externalTimestamp", .int 1709164800000)]

/-- `materialize_generic` for one record, whose fallback is a point in time like others. -/
theorem materialize_generic_fallback :
    auditMapping.identityField ≠ auditMapping.timestampField ∧
    materialize auditMapping auditCatalog (.object auditRecord) = .ok [auditGeneric] ∧
    recordsIn (.object auditRecord) = [auditRecord] ∧
    List.Forall₂ (Generic auditMapping auditCatalog) [auditRecord] [auditGeneric] := by
  have hdistinct : auditMapping.identityField ≠ auditMapping.timestampField := by decide
  have hrun : materialize auditMapping auditCatalog (.object auditRecord) = .ok [auditGeneric] :=
    rfl
  have hrecords : recordsIn (.object auditRecord) = [auditRecord] := rfl
  have hnodup : ∀ record ∈ recordsIn (.object auditRecord), record.keys.Nodup := by
    rw [hrecords, List.forall_mem_singleton]
    decide
  have hfree : ∀ record ∈ recordsIn (.object auditRecord), ∀ key ∈ record.keys,
      key ≠ externalId ∧ key ≠ externalTimestamp := by
    rw [hrecords, List.forall_mem_singleton]
    decide
  exact ⟨hdistinct, hrun, hrecords, materialize_generic hdistinct hnodup hfree hrun⟩

end Record
end RecordBridge
