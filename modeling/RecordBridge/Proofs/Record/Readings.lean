/-
# What records are read for

To make a record generic its points in time are read, field by field: the time
of the last change and every field of times, and behind them the fallback if no
time of change came out (`readings`).  Nothing else in a record can fail.  So
records fail as the first of their readings does that fails
(`materialize_eq_error_iff`), and the error names the field that was read.

A value that is no point in time is an error of the record.  A value that is
one, but overflows on its way to milliseconds, is not: it is a fault, and stops
everything (`materialize_ends`).

Keys are general here.  A record may have the generic keys already, and then a
field that is named `externalTimestamp` counts as a time of change that was
read: it is the last one of them that decides (`lastTime`).
-/

import RecordBridge.Proofs.Record.Generic
import RecordBridge.Proofs.Value.Range

namespace RecordBridge
namespace Record

variable {mapping : RecordMapping} {catalog : Catalog} {record done result : Object}
  {field key : String} {payload v : Value} {e : Failure}

/-! ### One reading -/

/-- A field with its value, read as milliseconds. -/
def read (reading : String × Value) : Except Failure Value := epochField reading.1 reading.2

/-- Why a reading fails: with an error of the record that names the field, or with a
fault if the value overflows. -/
inductive ReadFails (field : String) (v : Value) : Failure → Prop
  | invalid (hno : ∀ w, ¬ InMillis v w) (hfits : ¬ v.Overflows) :
    ReadFails field v (.error (.record (.invalidTimestamp field v)))
  | overflow {fault : Time.Fault} (h : v.epochMillis = .error fault) (hover : v.Overflows) :
    ReadFails field v (.time fault)

theorem forall_not_inMillis_iff :
    (∀ w, ¬ InMillis v w) ↔ ∃ fault, v.epochMillis = .error fault := by
  constructor
  · intro hno
    cases hread : v.epochMillis with
    | error fault => exact ⟨fault, rfl⟩
    | ok millis =>
      cases millis with
      | none =>
        obtain rfl := Value.epochMillis_eq_ok_none_iff.1 hread
        exact absurd .null (hno .null)
      | some n => exact absurd (.time hread) (hno (.int n))
  · rintro ⟨fault, hfault⟩ w hw
    cases hw with
    | null => exact nomatch hfault
    | time hread => exact nomatch hread.symm.trans hfault

/-- Only a value that comes to nothing fails. -/
theorem ReadFails.unread (h : ReadFails field v e) : ∀ w, ¬ InMillis v w := by
  cases h with
  | invalid hno _ => exact hno
  | overflow h _ => exact forall_not_inMillis_iff.2 ⟨_, h⟩

theorem exists_readFails_fault_iff : (∃ fault, ReadFails field v (.fault fault)) ↔
    v.Overflows := by
  constructor
  · rintro ⟨_, h⟩
    cases h with
    | overflow _ hover => exact hover
  · intro hover
    obtain ⟨fault, hfault, -⟩ := Value.epochMillis_eq_error_iff.2 hover
    exact ⟨.time fault, .overflow hfault hover⟩

theorem readFails_record_iff {r : Error} : ReadFails field v (.error (.record r)) ↔
    (∀ w, ¬ InMillis v w) ∧ ¬ v.Overflows ∧ r = .invalidTimestamp field v := by
  constructor
  · intro h
    cases h with
    | invalid hno hfits => exact ⟨hno, hfits, rfl⟩
  · rintro ⟨hno, hfits, rfl⟩
    exact .invalid hno hfits

/-- A value that comes to nothing fails. -/
theorem exists_readFails (hno : ∀ w, ¬ InMillis v w) : ∃ e, ReadFails field v e := by
  by_cases hover : v.Overflows
  · obtain ⟨fault, hfault⟩ := exists_readFails_fault_iff.2 hover
    exact ⟨_, hfault⟩
  · exact ⟨_, .invalid hno hover⟩

/-- **A reading fails as its value makes it.** -/
theorem read_eq_error_iff : read (field, v) = .error e ↔ ReadFails field v e := by
  unfold read epochField
  constructor
  · intro h
    split at h
    · exact nomatch h
    · next fault hfault =>
      split at h
      · next hin =>
        obtain rfl := Except.error.inj h
        refine .invalid (forall_not_inMillis_iff.2 ⟨fault, hfault⟩) fun hover => ?_
        obtain ⟨other, hother, hout⟩ := Value.epochMillis_eq_error_iff.2 hover
        obtain rfl := Except.error.inj (hother.symm.trans hfault)
        exact nomatch hin.symm.trans hout
      · next hin =>
        obtain rfl := Except.error.inj h
        exact .overflow hfault
          (Value.epochMillis_eq_error_iff.1 ⟨fault, hfault, eq_false_of_ne_true hin⟩)
  · intro h
    cases h with
    | invalid hno hfits =>
      obtain ⟨fault, hfault⟩ := forall_not_inMillis_iff.1 hno
      have hin : fault.isInValue = true := by
        by_contra hout
        exact hfits (Value.epochMillis_eq_error_iff.1 ⟨fault, hfault, eq_false_of_ne_true hout⟩)
      simp only [hfault, hin, if_true]
    | overflow hfault hover =>
      obtain ⟨other, hother, hout⟩ := Value.epochMillis_eq_error_iff.2 hover
      obtain rfl := Except.error.inj (hother.symm.trans hfault)
      simp only [hfault, hout, Bool.false_eq_true, if_false]

/-! ### The readings of a record -/

/-- Whether a field has to be read as a point in time. -/
def isReading (mapping : RecordMapping) (catalog : Catalog) (entry : String × Value) : Bool :=
  !mapping.envelopeKeys.contains entry.1 && entry.1 ≠ mapping.identityField &&
    (entry.1 = mapping.timestampField || isTime catalog entry.1)

/-- The time of the last change, after one more field. -/
def timeAfter (mapping : RecordMapping) (last : Value) (entry : String × Value) : Value :=
  if genericKey? mapping entry.1 = some externalTimestamp then entry.2 else last

/-- The time of the last change that the fields of a record leave: the last one of them
that gets its name. -/
def lastTime (mapping : RecordMapping) (record : Object) : Value :=
  record.foldl (timeAfter mapping) .null

/-- What is read if the fields leave no time of change. -/
def fallbackReadings (mapping : RecordMapping) (record : Object) : List (String × Value) :=
  if lastTime mapping record = .null then
    [(mapping.fallbackTimestampField, .ofOption (record.get? mapping.fallbackTimestampField))]
  else []

/-- What a record is read for, in order. -/
def readings (mapping : RecordMapping) (catalog : Catalog) (record : Object) :
    List (String × Value) :=
  record.filter (isReading mapping catalog) ++ fallbackReadings mapping record

/-- A field that has to be read is what it is read as. -/
theorem materializeField_of_isReading (h : isReading mapping catalog (key, v) = true) :
    ∃ name, materializeField mapping catalog key v
      = (read (key, v)).map fun w => some (name, w) := by
  simp only [isReading, Bool.and_eq_true, Bool.not_eq_true', decide_eq_true_eq, Bool.or_eq_true]
    at h
  obtain ⟨⟨henvelope, hid⟩, htime⟩ := h
  unfold materializeField
  rw [henvelope, if_neg Bool.false_ne_true, if_neg hid]
  split
  · exact ⟨externalTimestamp, rfl⟩
  · next hne =>
    have hmoment : (catalog.get? key).any (·.isDateTime) = true := htime.resolve_left hne
    exact ⟨key, if_pos hmoment⟩

/-- Any other field cannot fail. -/
theorem materializeField_of_not_isReading (h : isReading mapping catalog (key, v) = false) :
    ∃ out, materializeField mapping catalog key v = .ok out := by
  rw [exists_materializeField_iff]
  intro hkept hid htime
  have hreads : isReading mapping catalog (key, v) = true := by
    simp only [isReading, Bool.and_eq_true, Bool.not_eq_true', decide_eq_true_eq, Bool.or_eq_true]
    exact ⟨⟨by simpa using hkept, hid⟩, htime⟩
  exact nomatch h.symm.trans hreads

/-- The fields of a record fail as their readings do, whatever there is already. -/
theorem materializeFields_eq_error_iff :
    materializeFields mapping catalog done record = .error e ↔
      (record.filter (isReading mapping catalog)).mapM read = .error e := by
  induction record generalizing done with
  | nil =>
    rw [materializeFields, List.filter_nil, List.mapM_nil]
    exact iff_of_false Outcome.ok_ne_error Outcome.ok_ne_error
  | cons entry record ih =>
    obtain ⟨key, v⟩ := entry
    rw [materializeFields, Outcome.bind_eq_error_iff]
    cases hreading : isReading mapping catalog (key, v) with
    | true =>
      obtain ⟨name, hfield⟩ := materializeField_of_isReading hreading
      rw [List.filter_cons_of_pos hreading, List.mapM_cons, Outcome.bind_eq_error_iff, hfield,
        Outcome.map_eq_error_iff]
      refine or_congr_right ?_
      simp only [Outcome.map_eq_ok_iff]
      constructor
      · rintro ⟨_, ⟨w, hw, rfl⟩, hrest⟩
        exact ⟨w, hw, Outcome.bind_ok_eq_error_iff.2 (ih.1 hrest)⟩
      · rintro ⟨w, hw, hrest⟩
        exact ⟨_, ⟨w, hw, rfl⟩, ih.2 (Outcome.bind_ok_eq_error_iff.1 hrest)⟩
    | false =>
      obtain ⟨out, hout⟩ := materializeField_of_not_isReading hreading
      rw [List.filter_cons_of_neg (by rw [hreading]; exact Bool.false_ne_true), hout]
      constructor
      · rintro (h | ⟨_, h, hrest⟩)
        · exact absurd h Outcome.ok_ne_error
        · obtain rfl := Except.ok.inj h
          cases out <;> exact ih.1 hrest
      · intro hrest
        refine .inr ⟨out, rfl, ?_⟩
        cases out <;> exact ih.2 hrest

/-- A field keeps null, and nothing else becomes null. -/
theorem Becomes.eq_null_iff {w : Value} (h : Becomes mapping catalog key v w) :
    w = .null ↔ v = .null := by
  unfold Becomes at h
  split at h
  · exact h.eq_null_iff
  · rw [h]

theorem hasTimestamp_eq_false_iff : hasTimestamp done = false ↔
    ∀ w, done.get? externalTimestamp = some w → w = .null := by
  rw [← Bool.not_eq_true, hasTimestamp_iff]
  simp only [not_exists, not_and, not_not]

/-- A field that is put is the new time of change, if it is one. -/
theorem hasTimestamp_of_puts {last : Value} (hlast : hasTimestamp done = false ↔ last = .null)
    (h : Puts mapping catalog done key v result) :
    hasTimestamp result = false ↔ timeAfter mapping last (key, v) = .null := by
  unfold timeAfter
  cases h with
  | dropped hname => simpa only [hname, reduceCtorEq, if_false] using hlast
  | put hname hvalue =>
    rename_i name w
    rw [hname, hasTimestamp_eq_false_iff]
    by_cases htime : name = externalTimestamp
    · subst htime
      simp only [Entries.get?_set_self, Option.some.injEq, forall_eq', if_true]
      exact hvalue.eq_null_iff
    · rw [if_neg fun heq => htime (Option.some.inj heq), ← hlast, hasTimestamp_eq_false_iff,
        Entries.get?_set_of_ne _ _ (Ne.symm htime)]

/-- The fields have a time of change exactly if the last one of them is not null. -/
theorem hasTimestamp_materializeFields {last : Value}
    (hlast : hasTimestamp done = false ↔ last = .null)
    (h : materializeFields mapping catalog done record = .ok result) :
    hasTimestamp result = false ↔ record.foldl (timeAfter mapping) last = .null := by
  induction record generalizing done last with
  | nil =>
    obtain rfl := Except.ok.inj h
    exact hlast
  | cons entry record ih =>
    obtain ⟨next, hnext, h⟩ := materializeFields_cons h
    exact ih (hasTimestamp_of_puts hlast hnext) h

/-- The fallback is read exactly if the fields leave no time of change. -/
theorem fill_eq_error_iff (h : materializeFields mapping catalog [] record = .ok done) :
    (if hasTimestamp done then Except.ok done
      else do
        let time ← epochField mapping.fallbackTimestampField
          (.ofOption (record.get? mapping.fallbackTimestampField))
        .ok (done.set externalTimestamp time)) = .error e ↔
      (fallbackReadings mapping record).mapM read = .error e := by
  have hempty : hasTimestamp [] = false ↔ Value.null = .null := iff_of_true rfl rfl
  have hlast := hasTimestamp_materializeFields hempty h
  unfold fallbackReadings lastTime
  by_cases hnull : record.foldl (timeAfter mapping) .null = .null
  · rw [if_neg (by rw [hlast.2 hnull]; exact Bool.false_ne_true), if_pos hnull, List.mapM_cons,
      Outcome.bind_ok_eq_error_iff]
    exact Outcome.bind_ok_eq_error_iff.symm
  · rw [if_pos (eq_true_of_ne_false (mt hlast.1 hnull)), if_neg hnull]
    exact iff_of_false nofun nofun

/-- **A record fails as its readings do.** -/
theorem materializeOne_eq_error_iff : materializeOne mapping catalog record = .error e ↔
    (readings mapping catalog record).mapM read = .error e := by
  have hok := Outcome.exists_ok_iff_of_error_iff fun e =>
    @materializeFields_eq_error_iff mapping catalog record [] e
  rw [materializeOne, readings, List.mapM_append, Outcome.bind_eq_error_iff,
    Outcome.bind_eq_error_iff, materializeFields_eq_error_iff]
  refine or_congr_right ?_
  calc (∃ done, materializeFields mapping catalog [] record = .ok done ∧ _)
      ↔ ∃ done, materializeFields mapping catalog [] record = .ok done ∧
          (fallbackReadings mapping record).mapM read = .error e :=
        exists_congr fun _ => and_congr_right fill_eq_error_iff
    _ ↔ ∃ ws, (record.filter (isReading mapping catalog)).mapM read = .ok ws ∧
          (fallbackReadings mapping record).mapM read = .error e := by
        rw [exists_and_right, exists_and_right, hok]
    _ ↔ _ := exists_congr fun _ => and_congr_right fun _ => Outcome.bind_ok_eq_error_iff.symm

/-! ### The readings of a payload -/

/-- What the records of a payload are read for, in order. -/
def readingsIn (mapping : RecordMapping) (catalog : Catalog) (payload : Value) :
    List (String × Value) :=
  (recordsIn payload).flatMap (readings mapping catalog)

/-- Whether a field with a value is the first reading of a payload that comes to nothing. -/
def FirstUnread (mapping : RecordMapping) (catalog : Catalog) (payload : Value) (field : String)
    (v : Value) : Prop :=
  ∃ before after, readingsIn mapping catalog payload = before ++ (field, v) :: after ∧
    (∀ r ∈ before, ∃ w, InMillis r.2 w) ∧ ∀ w, ¬ InMillis v w

theorem FirstUnread.unread (h : FirstUnread mapping catalog payload field v) :
    ∀ w, ¬ InMillis v w := by
  obtain ⟨_, _, -, -, hno⟩ := h
  exact hno

theorem normalize_eq_error_iff {r : Error} : normalize payload = .error r ↔
    ¬ HoldsRecords payload ∧ r = .notRecords payload.kindName := by
  cases payload with
  | null | object _ | list _ | tuple _ => exact iff_of_false nofun fun h => h.1 trivial
  | _ => exact ⟨fun h => ⟨id, (Except.error.inj h).symm⟩, fun h => congrArg _ h.2.symm⟩

theorem recordsIn_eq_nil (h : ¬ HoldsRecords payload) : recordsIn payload = [] := by
  cases payload with
  | null | object _ | list _ | tuple _ => exact absurd trivial h
  | _ => rfl

/-- The readings fail as the first of them does that comes to nothing. -/
theorem readingsIn_eq_error_iff : (readingsIn mapping catalog payload).mapM read = .error e ↔
    ∃ field v, FirstUnread mapping catalog payload field v ∧ ReadFails field v e := by
  simp only [Outcome.mapM_eq_error_iff, FirstUnread, Prod.exists, read_eq_error_iff]
  have hbefore : ∀ {before : List (String × Value)},
      (∀ r ∈ before, ∃ w, read r = .ok w) ↔ ∀ r ∈ before, ∃ w, InMillis r.2 w := by
    intro before
    simp only [read, epochField_eq_ok_iff]
  constructor
  · rintro ⟨before, field, v, after, hsplit, hread, hfails⟩
    exact ⟨field, v, ⟨before, after, hsplit, hbefore.1 hread, hfails.unread⟩, hfails⟩
  · rintro ⟨field, v, ⟨before, after, hsplit, hread, -⟩, hfails⟩
    exact ⟨before, field, v, after, hsplit, hbefore.2 hread, hfails⟩

/-- **A payload fails if it holds no records, or as the first of its readings does that
comes to nothing.** -/
theorem materialize_eq_error_iff : materialize mapping catalog payload = .error e ↔
    (¬ HoldsRecords payload ∧ e = .error (.record (.notRecords payload.kindName))) ∨
      ∃ field v, FirstUnread mapping catalog payload field v ∧ ReadFails field v e := by
  have hall : ∀ records, materializeAll mapping catalog records = .error e ↔
      (records.flatMap (readings mapping catalog)).mapM read = .error e := by
    intro records
    rw [materializeAll_eq_mapM]
    exact Outcome.mapM_flatMap_eq_error_iff fun _ _ _ => materializeOne_eq_error_iff
  rw [← readingsIn_eq_error_iff, materialize, Outcome.bind_eq_error_iff]
  simp only [Outcome.mapError_eq_error_iff, Outcome.mapError_eq_ok_iff, normalize_eq_error_iff,
    normalize_eq_ok_iff, hall]
  constructor
  · rintro (⟨r, ⟨hno, rfl⟩, rfl⟩ | ⟨records, ⟨-, rfl⟩, hfails⟩)
    · exact .inl ⟨hno, rfl⟩
    · exact .inr hfails
  · rintro (⟨hno, rfl⟩ | hfails)
    · exact .inl ⟨_, ⟨hno, rfl⟩, rfl⟩
    · by_cases hholds : HoldsRecords payload
      · exact .inr ⟨_, ⟨hholds, rfl⟩, hfails⟩
      · -- without records there is nothing to read
        rw [readingsIn, recordsIn_eq_nil hholds, List.flatMap_nil, List.mapM_nil] at hfails
        cases hfails

/-! ### How materializing ends -/

/-- What is read stands in one of the records, at a place for points in time. -/
theorem FirstUnread.located (h : FirstUnread mapping catalog payload field v) :
    (∃ record ∈ recordsIn payload, (field, v) ∈ record) ∧
      (field = mapping.timestampField ∨ field = mapping.fallbackTimestampField ∨
        isTime catalog field = true) := by
  obtain ⟨before, after, hsplit, -, hno⟩ := h
  have hmem : (field, v) ∈ readingsIn mapping catalog payload := by
    rw [hsplit]
    exact List.mem_append_right _ List.mem_cons_self
  obtain ⟨record, hrecord, hmem⟩ := List.mem_flatMap.1 hmem
  rcases List.mem_append.1 hmem with hmem | hmem
  · obtain ⟨hmem, hreading⟩ := List.mem_filter.1 hmem
    simp only [isReading, Bool.and_eq_true, Bool.or_eq_true, decide_eq_true_eq] at hreading
    exact ⟨⟨record, hrecord, hmem⟩, hreading.2.imp id .inr⟩
  · unfold fallbackReadings at hmem
    split at hmem
    · obtain ⟨rfl, rfl⟩ := Prod.mk.inj (List.mem_singleton.1 hmem)
      refine ⟨⟨record, hrecord, ?_⟩, .inr (.inl rfl)⟩
      cases hget : record.get? mapping.fallbackTimestampField with
      | none =>
        -- what is not there is null, and null is read
        rw [hget] at hno
        exact absurd .null (hno .null)
      | some v => exact Entries.mem_of_get? hget
    · exact nomatch hmem

theorem exists_materialize_iff_unread :
    (∃ results, materialize mapping catalog payload = .ok results) ↔
      HoldsRecords payload ∧ ∀ field v, ¬ FirstUnread mapping catalog payload field v := by
  constructor
  · rintro ⟨results, h⟩
    have hnever : ∀ e, materialize mapping catalog payload ≠ .error e :=
      fun e he => nomatch h.symm.trans he
    constructor
    · by_contra hno
      exact hnever _ (materialize_eq_error_iff.2 (.inl ⟨hno, rfl⟩))
    · intro field v hfirst
      obtain ⟨e, he⟩ := exists_readFails hfirst.unread
      exact hnever e (materialize_eq_error_iff.2 (.inr ⟨field, v, hfirst, he⟩))
  · rintro ⟨hholds, hread⟩
    cases h : materialize mapping catalog payload with
    | ok results => exact ⟨results, rfl⟩
    | error e =>
      rcases materialize_eq_error_iff.1 h with ⟨hno, -⟩ | ⟨field, v, hfirst, -⟩
      · exact absurd hholds hno
      · exact absurd hfirst (hread field v)

theorem materialize_eq_record_iff {r : Error} :
    materialize mapping catalog payload = .error (.error (.record r)) ↔
      (¬ HoldsRecords payload ∧ r = .notRecords payload.kindName) ∨
        ∃ field v, FirstUnread mapping catalog payload field v ∧ ¬ v.Overflows ∧
          r = .invalidTimestamp field v := by
  rw [materialize_eq_error_iff]
  refine or_congr (by simp) (exists₂_congr fun field v => and_congr_right fun hfirst => ?_)
  rw [readFails_record_iff]
  exact and_iff_right (FirstUnread.unread hfirst)

theorem exists_materialize_fault_iff :
    (∃ fault, materialize mapping catalog payload = .error (.fault fault)) ↔
      ∃ field v, FirstUnread mapping catalog payload field v ∧ v.Overflows := by
  simp only [materialize_eq_error_iff, reduceCtorEq, and_false, false_or]
  constructor
  · rintro ⟨fault, field, v, hfirst, hfails⟩
    exact ⟨field, v, hfirst, exists_readFails_fault_iff.1 ⟨fault, hfails⟩⟩
  · rintro ⟨field, v, hfirst, hover⟩
    obtain ⟨fault, hfails⟩ := exists_readFails_fault_iff.2 hover
    exact ⟨fault, field, v, hfirst, hfails⟩

/-- How materializing a payload ends, told from the first of its readings that comes to
nothing. -/
structure Ends (mapping : RecordMapping) (catalog : Catalog) (payload : Value) : Prop where
  /-- It ends with records, or with an error of a record, exactly if that reading does not
  overflow. -/
  answered : ((∃ results, materialize mapping catalog payload = .ok results) ∨
      ∃ r, materialize mapping catalog payload = .error (.error (.record r))) ↔
    ∀ field v, FirstUnread mapping catalog payload field v → ¬ v.Overflows
  /-- It ends with records exactly if there are any and there is no such reading. -/
  returned : (∃ results, materialize mapping catalog payload = .ok results) ↔
    HoldsRecords payload ∧ ∀ field v, ¬ FirstUnread mapping catalog payload field v
  /-- An error is about a payload without records, or about that reading. -/
  refused : ∀ r, materialize mapping catalog payload = .error (.error (.record r)) ↔
    (¬ HoldsRecords payload ∧ r = .notRecords payload.kindName) ∨
      ∃ field v, FirstUnread mapping catalog payload field v ∧ ¬ v.Overflows ∧
        r = .invalidTimestamp field v
  /-- It ends with a fault exactly if that reading overflows. -/
  stopped : (∃ fault, materialize mapping catalog payload = .error (.fault fault)) ↔
    ∃ field v, FirstUnread mapping catalog payload field v ∧ v.Overflows
  /-- Where there are records, an error names the field of that reading: a place for points
  in time, with the value that stands there in one of the records. -/
  named : ∀ r, materialize mapping catalog payload = .error (.error (.record r)) →
    HoldsRecords payload → ∃ field v, r.field? = some field ∧
      FirstUnread mapping catalog payload field v ∧
      (∃ record ∈ recordsIn payload, (field, v) ∈ record) ∧
      (field = mapping.timestampField ∨ field = mapping.fallbackTimestampField ∨
        isTime catalog field = true)

/-- **Materializing ends with records or with an error of a record, unless a time
overflows.** -/
theorem materialize_ends (mapping : RecordMapping) (catalog : Catalog) (payload : Value) :
    Ends mapping catalog payload where
  answered := by
    have hstopped := @exists_materialize_fault_iff mapping catalog payload
    constructor
    · intro hends field v hfirst hover
      obtain ⟨fault, h⟩ := hstopped.2 ⟨field, v, hfirst, hover⟩
      rcases hends with ⟨results, h'⟩ | ⟨r, h'⟩
      · exact nomatch h.symm.trans h'
      · exact nomatch h.symm.trans h'
    · intro hfits
      cases h : materialize mapping catalog payload with
      | ok results => exact .inl ⟨results, rfl⟩
      | error e =>
        rcases materialize_eq_error_iff.1 h with ⟨-, rfl⟩ | ⟨field, v, hfirst, hfails⟩
        · exact .inr ⟨_, rfl⟩
        · cases hfails with
          | invalid => exact .inr ⟨_, rfl⟩
          | overflow _ hover => exact absurd hover (hfits field v hfirst)
  returned := exists_materialize_iff_unread
  refused _ := materialize_eq_record_iff
  stopped := exists_materialize_fault_iff
  named r h hholds := by
    rcases materialize_eq_record_iff.1 h with ⟨hno, -⟩ | ⟨field, v, hfirst, -, rfl⟩
    · exact absurd hholds hno
    · exact ⟨field, v, rfl, hfirst, hfirst.located⟩

/-- A record that was changed at the first midnight of the calendar, almost a day ahead
of UTC. -/
def earliestRecord : Object :=
  [("Id", .text "1"), ("SystemModstamp", .text "0001-01-01T00:00:00+23:59")]

/-- **A time of the year 1 is a fault if its offset moves it out of the calendar.**  So a
time that cannot be read is not always an error of the record. -/
theorem materialize_earliestRecord :
    materialize {} auditCatalog (.object earliestRecord) = .error (.time .leavesCalendar) ∧
      ¬ ∀ (mapping : RecordMapping) (catalog : Catalog) (payload : Value),
        (∃ results, materialize mapping catalog payload = .ok results) ∨
          ∃ r, materialize mapping catalog payload = .error (.error (.record r)) := by
  obtain ⟨hover, hread⟩ := Value.overflows_firstMidnight
  have hfirst : FirstUnread {} auditCatalog (.object earliestRecord) "SystemModstamp"
      (.text "0001-01-01T00:00:00+23:59") :=
    ⟨[], [], rfl, List.forall_mem_nil _, forall_not_inMillis_iff.2 ⟨_, hread⟩⟩
  have hfault := materialize_eq_error_iff.2 (.inr ⟨_, _, hfirst, .overflow hread hover⟩)
  refine ⟨hfault, fun hall => ?_⟩
  rcases hall {} auditCatalog (.object earliestRecord) with ⟨results, h⟩ | ⟨r, h⟩
  · exact nomatch hfault.symm.trans h
  · exact nomatch hfault.symm.trans h

end Record
end RecordBridge
