/-
# Fields made generic

A field of a remote record is left out if its key is of the envelope.  Otherwise
it gets a name, the keys of identity and time one of their own, and points in
time become milliseconds.

Two keys of a record never get the same name (`genericKey?_injective`).  So no
field overwrites another, and each of them stands under its name as what it
becomes, whatever the order (`get?_materializeFields`).
-/

import RecordBridge.Proofs.Value.Entries
import RecordBridge.Proofs.Value.Times

namespace RecordBridge
namespace Record

/-- A value as it stands in milliseconds: null as null, a point in time as its number. -/
inductive InMillis : Value → Value → Prop
  | null : InMillis .null .null
  | time {v : Value} {n : Int} (h : v.epochMillis = .ok (some n)) : InMillis v (.int n)

/-- Whether the field of a key holds points in time. -/
def isTime (catalog : Catalog) (key : String) : Bool := (catalog.get? key).any (·.isDateTime)

variable {mapping : RecordMapping} {catalog : Catalog} {record result done : Object}
  {key name : String} {v w : Value}

/-! ### Points in time -/

/-- A field is read as milliseconds exactly if its value stands in milliseconds. -/
theorem epochField_eq_ok_iff {field : String} : epochField field v = .ok w ↔ InMillis v w := by
  unfold epochField
  constructor
  · intro h
    split at h
    · next millis hread =>
      obtain rfl := Except.ok.inj h
      cases millis with
      | none =>
        obtain rfl := Value.epochMillis_eq_ok_none_iff.1 hread
        exact .null
      | some n => exact .time hread
    · split at h <;> cases h
  · intro h
    cases h with
    | null => rfl
    | time h => rw [h]; rfl

theorem InMillis.eq_null_iff (h : InMillis v w) : w = .null ↔ v = .null := by
  cases h with
  | null => exact Iff.rfl
  | time h =>
    refine iff_of_false Value.noConfusion ?_
    rintro rfl
    cases h

/-! ### One field -/

/-- The name that a key gets, if it is kept. -/
def genericKey? (mapping : RecordMapping) (key : String) : Option String :=
  if key ∈ mapping.envelopeKeys then none
  else if key = mapping.identityField then some externalId
  else if key = mapping.timestampField then some externalTimestamp
  else some key

/-- The value of a field in the generic shape. -/
def Becomes (mapping : RecordMapping) (catalog : Catalog) (key : String) (v w : Value) : Prop :=
  if key ≠ mapping.identityField ∧ (key = mapping.timestampField ∨ isTime catalog key = true)
  then InMillis v w else w = v

theorem genericKey?_eq_some_iff : genericKey? mapping key = some name ↔
    key ∉ mapping.envelopeKeys ∧
      (key = mapping.identityField ∧ name = externalId ∨
        key ≠ mapping.identityField ∧ key = mapping.timestampField ∧ name = externalTimestamp ∨
        key ≠ mapping.identityField ∧ key ≠ mapping.timestampField ∧ name = key) := by
  unfold genericKey?
  split
  · next henvelope => simp [henvelope]
  · next henvelope =>
    split
    · next hid =>
      subst hid
      simp [henvelope, eq_comm]
    · next hid =>
      split
      · next htime => simp_all [eq_comm]
      · next htime => simp_all [eq_comm]

/-- **Two keys of a record get different names**, as long as it has none of the names
already. -/
theorem genericKey?_injective {other : String}
    (hkey : key ≠ externalId ∧ key ≠ externalTimestamp)
    (hother : other ≠ externalId ∧ other ≠ externalTimestamp)
    (h : genericKey? mapping key = some name) (h' : genericKey? mapping other = some name) :
    key = other := by
  have hnames : externalId ≠ externalTimestamp := by decide
  obtain ⟨-, h⟩ := genericKey?_eq_some_iff.1 h
  obtain ⟨-, h'⟩ := genericKey?_eq_some_iff.1 h'
  rcases h with ⟨hid, rfl⟩ | ⟨-, htime, rfl⟩ | ⟨-, -, rfl⟩
  · rcases h' with ⟨hid', -⟩ | ⟨-, -, hname⟩ | ⟨-, -, hname⟩
    · exact hid.trans hid'.symm
    · exact absurd hname hnames
    · exact absurd hname.symm hother.1
  · rcases h' with ⟨-, hname⟩ | ⟨-, htime', -⟩ | ⟨-, -, hname⟩
    · exact absurd hname.symm hnames
    · exact htime.trans htime'.symm
    · exact absurd hname.symm hother.2
  · rcases h' with ⟨-, hname⟩ | ⟨-, -, hname⟩ | ⟨-, -, hname⟩
    · exact absurd hname hkey.1
    · exact absurd hname hkey.2
    · exact hname

/-- **A field is left out, or put under its name as what it becomes.** -/
theorem materializeField_eq_ok_iff {out : Option (String × Value)} :
    materializeField mapping catalog key v = .ok out ↔
      (genericKey? mapping key = none ∧ out = none) ∨
        ∃ name w, genericKey? mapping key = some name ∧ Becomes mapping catalog key v w ∧
          out = some (name, w) := by
  have hread : ∀ name, (epochField key v).map (fun n => some (name, n)) = .ok out ↔
      ∃ w, InMillis v w ∧ out = some (name, w) := by
    intro name
    simp only [Outcome.map_eq_ok_iff, epochField_eq_ok_iff, @eq_comm _ out]
  unfold materializeField genericKey? Becomes isTime
  by_cases henvelope : key ∈ mapping.envelopeKeys
  · simp [henvelope, @eq_comm _ out]
  by_cases hid : key = mapping.identityField
  · subst hid
    simp [henvelope, @eq_comm _ out]
  by_cases htime : key = mapping.timestampField
  · subst htime
    simp [henvelope, hid, hread]
  by_cases hmoment : (catalog.get? key).any (·.isDateTime) = true
  · simp [henvelope, hid, htime, hmoment, hread]
  · simp [henvelope, hid, htime, hmoment, @eq_comm _ out]

/-- Whether a field can be read, where it has to be as a point in time. -/
def FieldReadable (mapping : RecordMapping) (catalog : Catalog) (key : String) (v : Value) :
    Prop :=
  key ∉ mapping.envelopeKeys → key ≠ mapping.identityField →
    (key = mapping.timestampField ∨ isTime catalog key = true) → ∃ w, InMillis v w

/-- A field can be put exactly if it can be read. -/
theorem exists_materializeField_iff : (∃ out, materializeField mapping catalog key v = .ok out) ↔
    FieldReadable mapping catalog key v := by
  simp only [materializeField_eq_ok_iff]
  constructor
  · rintro ⟨out, ⟨hname, -⟩ | ⟨name, w, -, hvalue, -⟩⟩ hkept hid htime
    · rw [genericKey?, if_neg hkept, if_neg hid] at hname
      split at hname <;> cases hname
    · rw [Becomes, if_pos ⟨hid, htime⟩] at hvalue
      exact ⟨w, hvalue⟩
  · intro hread
    have hvalue : key ∉ mapping.envelopeKeys → ∃ w, Becomes mapping catalog key v w := by
      intro hkept
      unfold Becomes
      split
      · next htime => exact hread hkept htime.1 htime.2
      · exact ⟨v, rfl⟩
    cases hname : genericKey? mapping key with
    | none => exact ⟨none, .inl ⟨rfl, rfl⟩⟩
    | some name =>
      obtain ⟨w, hw⟩ := hvalue (genericKey?_eq_some_iff.1 hname).1
      exact ⟨_, .inr ⟨name, w, rfl, hw, rfl⟩⟩

/-! ### All fields -/

/-- What a field does to what there is already. -/
inductive Puts (mapping : RecordMapping) (catalog : Catalog) (done : Object) (key : String)
    (v : Value) : Object → Prop
  | dropped (hname : genericKey? mapping key = none) : Puts mapping catalog done key v done
  | put {name : String} {w : Value} (hname : genericKey? mapping key = some name)
    (hvalue : Becomes mapping catalog key v w) : Puts mapping catalog done key v (done.set name w)

theorem materializeFields_cons
    (h : materializeFields mapping catalog done ((key, v) :: record) = .ok result) :
    ∃ next, Puts mapping catalog done key v next ∧
      materializeFields mapping catalog next record = .ok result := by
  rw [materializeFields] at h
  obtain ⟨out, hout, h⟩ := Outcome.bind_eq_ok_iff.1 h
  rcases materializeField_eq_ok_iff.1 hout with ⟨hname, rfl⟩ | ⟨name, w, hname, hvalue, rfl⟩
  · exact ⟨done, .dropped hname, h⟩
  · exact ⟨done.set name w, .put hname hvalue, h⟩

/-- No key is given twice. -/
theorem nodup_materializeFields (hdone : done.keys.Nodup)
    (h : materializeFields mapping catalog done record = .ok result) : result.keys.Nodup := by
  induction record generalizing done with
  | nil =>
    obtain rfl := Except.ok.inj h
    exact hdone
  | cons e record ih =>
    obtain ⟨key, v⟩ := e
    obtain ⟨next, hnext, h⟩ := materializeFields_cons h
    refine ih ?_ h
    cases hnext with
    | dropped => exact hdone
    | put => exact Entries.nodup_keys_set hdone _ _

/-- A name that no key gets keeps its value. -/
theorem get?_of_unnamed (hname : ∀ key ∈ record.keys, genericKey? mapping key ≠ some name)
    (h : materializeFields mapping catalog done record = .ok result) :
    result.get? name = done.get? name := by
  induction record generalizing done with
  | nil =>
    obtain rfl := Except.ok.inj h
    rfl
  | cons e record ih =>
    obtain ⟨key, v⟩ := e
    obtain ⟨next, hnext, h⟩ := materializeFields_cons h
    obtain ⟨hkey, hrest⟩ := List.forall_mem_cons.1 hname
    rw [ih hrest h]
    cases hnext with
    | dropped => rfl
    | put hput =>
      refine Entries.get?_set_of_ne done _ ?_
      rintro rfl
      exact hkey hput

/-- **Every field that is kept stands under its name as what it becomes**, whatever
comes before it and after it. -/
theorem get?_materializeFields (hnodup : record.keys.Nodup)
    (hfree : ∀ key ∈ record.keys, key ≠ externalId ∧ key ≠ externalTimestamp)
    (hmem : (key, v) ∈ record) (hname : genericKey? mapping key = some name)
    (h : materializeFields mapping catalog done record = .ok result) :
    ∃ w, Becomes mapping catalog key v w ∧ result.get? name = some w := by
  induction record generalizing done with
  | nil => cases hmem
  | cons e record ih =>
    obtain ⟨next, hnext, h⟩ := materializeFields_cons h
    obtain ⟨hnew, hrest⟩ := List.nodup_cons.1 hnodup
    obtain ⟨hfirst, hothers⟩ := List.forall_mem_cons.1 hfree
    rcases List.mem_cons.1 hmem with rfl | hmem
    · cases hnext with
      | dropped hdropped =>
        rw [hname] at hdropped
        cases hdropped
      | put hput hvalue =>
        obtain rfl := Option.some.inj (hname.symm.trans hput)
        have hlast : ∀ other ∈ Entries.keys record, genericKey? mapping other ≠ some name := by
          intro other hother hsame
          rw [genericKey?_injective hfirst (hothers other hother) hname hsame] at hnew
          exact hnew hother
        rw [get?_of_unnamed hlast h]
        exact ⟨_, hvalue, Entries.get?_set_self _ _ _⟩
    · exact ih hrest hothers hmem h

/-- The fields stand under the names that the keys of the record get. -/
theorem mem_keys_materializeFields (hnodup : record.keys.Nodup)
    (hfree : ∀ key ∈ record.keys, key ≠ externalId ∧ key ≠ externalTimestamp)
    (h : materializeFields mapping catalog [] record = .ok result) :
    name ∈ result.keys ↔ ∃ key ∈ record.keys, genericKey? mapping key = some name := by
  rw [← Entries.get?_ne_none_iff]
  constructor
  · intro hget
    by_contra hnone
    have hname : ∀ key ∈ record.keys, genericKey? mapping key ≠ some name :=
      fun key hkey hnamed => hnone ⟨key, hkey, hnamed⟩
    exact hget (get?_of_unnamed hname h)
  · rintro ⟨key, hkey, hnamed⟩
    obtain ⟨v, hv⟩ := Entries.mem_keys_iff_exists.1 hkey
    obtain ⟨w, -, hget⟩ :=
      get?_materializeFields hnodup hfree ((Entries.get?_eq_some_iff hnodup).1 hv) hnamed h
    rw [hget]
    exact Option.some_ne_none w

/-- The fields can be put exactly if each of them can, whatever there is already. -/
theorem exists_materializeFields_iff (done : Object) :
    (∃ result, materializeFields mapping catalog done record = .ok result) ↔
      ∀ key v, (key, v) ∈ record → FieldReadable mapping catalog key v := by
  induction record generalizing done with
  | nil => simp [materializeFields]
  | cons e record ih =>
    obtain ⟨key, v⟩ := e
    constructor
    · rintro ⟨result, h⟩
      rw [materializeFields] at h
      obtain ⟨out, hout, -⟩ := Outcome.bind_eq_ok_iff.1 h
      obtain ⟨next, -, h⟩ := materializeFields_cons h
      intro other u hmem
      rcases List.mem_cons.1 hmem with heq | hmem
      · obtain ⟨rfl, rfl⟩ := Prod.mk.inj heq
        exact exists_materializeField_iff.1 ⟨out, hout⟩
      · exact (ih next).1 ⟨result, h⟩ other u hmem
    · intro hread
      obtain ⟨out, hout⟩ := exists_materializeField_iff.2 (hread key v List.mem_cons_self)
      have hrest := fun next => (ih next).2 fun other u hmem =>
        hread other u (List.mem_cons_of_mem _ hmem)
      simp only [materializeFields, Outcome.bind_eq_ok_iff]
      cases out with
      | none => exact (hrest done).imp fun result h => ⟨none, hout, h⟩
      | some put =>
        exact (hrest (done.set put.1 put.2)).imp fun result h => ⟨some put, hout, h⟩

end Record
end RecordBridge
