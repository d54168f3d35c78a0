/-
# What a description of a type has to be

A remote system may describe a type by any JSON value.  The description is read
from the outside in, and what is wrong with it is the first thing that is not as it
has to be:

| place                       | has to be                                     |
| --------------------------- | --------------------------------------------- |
| the description             | an object with a name                         |
| its fields                  | left out, or a value with members             |
| one of them                 | an object                                     |
| its values to pick from     | none that count, or a value of objects        |
| its name                    | there, and no container                       |

`IsDescription` says that everything is, and `FirstFlaw` what is the first thing that
is not.  A catalog is made of exactly the former (`exists_ofDescription_iff`), and
everything else fails with its first flaw (`ofDescription_eq_error_iff`), so nothing
else can go wrong, whatever stands at these places.
-/

import RecordBridge.Catalog.Describe
import RecordBridge.Proofs.Outcome

namespace RecordBridge
namespace Catalog

/-- Whether a value is an object. -/
def IsObject (v : Value) : Prop := ∃ es, v = .object es

/-- Whether a value has members. -/
def HasMembers (v : Value) : Prop := ∃ members, v.elements = .ok members

/-! ### The shape of a description -/

/-- Whether a value lists values to pick from, if it counts at all. -/
def IsPicklist (v : Value) : Prop :=
  v.isPresent = true → ∃ items, v.elements = .ok items ∧ ∀ item ∈ items, IsObject item

/-- Whether a value describes a field. -/
def IsEntry (v : Value) : Prop :=
  ∃ es name, v = .object es ∧ IsPicklist (.ofOption (Entries.get? es "picklistValues")) ∧
    Entries.get? es "name" = some name ∧ isName name = true

/-- Whether a value describes a type. -/
def IsDescription (v : Value) : Prop :=
  ∃ es name entries, v = .object es ∧ Entries.get? es "name" = some name ∧
    ((Entries.get? es "fields").getD (.list [])).elements = .ok entries ∧
      ∀ entry ∈ entries, IsEntry entry

/-- The first flaw of a value that has to list values to pick from. -/
inductive PicklistFlaw (v : Value) : ShapeFault → Prop
  | noMembers (hv : v.isPresent = true) (h : ¬ HasMembers v) :
    PicklistFlaw v (.noMembers v.kindName)
  | noObject {before after : List Value} {item : Value} (hv : v.isPresent = true)
    (h : v.elements = .ok (before ++ item :: after)) (hbefore : ∀ x ∈ before, IsObject x)
    (hitem : ¬ IsObject item) : PicklistFlaw v (.noOperation item.kindName "get")

/-- The first flaw of a value that has to describe a field. -/
inductive EntryFlaw : Value → ShapeFault → Prop
  | noObject {v : Value} (h : ¬ IsObject v) : EntryFlaw v (.noOperation v.kindName "get")
  | picklist {es : Object} {f : ShapeFault}
    (h : PicklistFlaw (.ofOption (Entries.get? es "picklistValues")) f) : EntryFlaw (.object es) f
  | nameless {es : Object} (hpicklist : IsPicklist (.ofOption (Entries.get? es "picklistValues")))
    (h : Entries.get? es "name" = none) : EntryFlaw (.object es) (.missingKey "name")
  | container {es : Object} {name : Value}
    (hpicklist : IsPicklist (.ofOption (Entries.get? es "picklistValues")))
    (h : Entries.get? es "name" = some name) (hname : isName name = false) :
    EntryFlaw (.object es) (.notAKey name.kindName)

/-- The first flaw of a value that has to describe a type. -/
inductive FirstFlaw : Value → ShapeFault → Prop
  | noObject {v : Value} (h : ¬ IsObject v) : FirstFlaw v (.noParts v.kindName)
  | nameless {es : Object} (h : Entries.get? es "name" = none) :
    FirstFlaw (.object es) (.missingKey "name")
  | noMembers {es : Object} {name : Value} (hname : Entries.get? es "name" = some name)
    (h : ¬ HasMembers ((Entries.get? es "fields").getD (.list []))) :
    FirstFlaw (.object es) (.noMembers ((Entries.get? es "fields").getD (.list [])).kindName)
  | entry {es : Object} {name entry : Value} {before after : List Value} {f : ShapeFault}
    (hname : Entries.get? es "name" = some name)
    (h : ((Entries.get? es "fields").getD (.list [])).elements = .ok (before ++ entry :: after))
    (hbefore : ∀ x ∈ before, IsEntry x) (hentry : EntryFlaw entry f) :
    FirstFlaw (.object es) f

/-! ### Values taken apart -/

variable {v : Value} {f : ShapeFault}

theorem elements_eq_error_iff :
    v.elements = .error f ↔ ¬ HasMembers v ∧ f = .noMembers v.kindName := by
  unfold HasMembers
  cases v <;> simp [Value.elements, eq_comm]

theorem field?_eq_error_iff {key : String} :
    v.field? key = .error f ↔ ¬ IsObject v ∧ f = .noOperation v.kindName "get" := by
  unfold IsObject
  cases v <;> simp [Value.field?, eq_comm]

theorem at?_eq_ok_iff {key : String} {x : Value} :
    v.at? key = .ok x ↔ ∃ es, v = .object es ∧ Entries.get? es key = some x := by
  unfold Value.at?
  split
  · next es =>
    cases h : Entries.get? es key <;> simp [h]
  · next h => exact iff_of_false (fun h => nomatch h) fun ⟨es, hes, _⟩ => h es hes

theorem at?_eq_error_iff {key : String} :
    v.at? key = .error f ↔ ¬ IsObject v ∧ f = .noParts v.kindName ∨
      ∃ es, v = .object es ∧ Entries.get? es key = none ∧ f = .missingKey key := by
  unfold IsObject
  cases v with
  | object es =>
    rw [Value.at?]
    cases h : Entries.get? es key <;> simp [h, eq_comm]
  | _ => simp [Value.at?, eq_comm]

theorem exists_field?_iff {key : String} : (∃ x, v.field? key = .ok x) ↔ IsObject v := by
  unfold IsObject
  cases v <;> simp [Value.field?]

/-! ### Values to pick from -/

theorem exists_pickedValue_iff : (∃ p, pickedValue v = .ok p) ↔ IsObject v := by
  rw [← @exists_field?_iff v "value"]
  constructor
  · rintro ⟨p, h⟩
    obtain ⟨x, hx, -⟩ := Outcome.bind_eq_ok_iff.1 h
    exact ⟨x, hx⟩
  · rintro ⟨x, hx⟩
    unfold pickedValue
    rw [hx]
    dsimp only [bind, Except.bind]
    split
    all_goals exact ⟨_, rfl⟩

theorem pickedValue_eq_error_iff :
    pickedValue v = .error f ↔ ¬ IsObject v ∧ f = .noOperation v.kindName "get" := by
  unfold pickedValue
  rw [Outcome.bind_eq_error_iff, field?_eq_error_iff, or_iff_left]
  rintro ⟨x, -, h⟩
  split at h
  all_goals exact nomatch h

theorem pickedValues_eq (items : List Value) :
    pickedValues items = (items.mapM pickedValue).map fun vs => vs.flatMap Option.toList := by
  induction items with
  | nil => rfl
  | cons item items ih =>
    rw [pickedValues, ih, List.mapM_cons]
    cases pickedValue item with
    | error e => rfl
    | ok p => cases items.mapM pickedValue <;> rfl

theorem exists_pickedValues_iff {items : List Value} :
    (∃ vs, pickedValues items = .ok vs) ↔ ∀ item ∈ items, IsObject item := by
  simp only [← exists_pickedValue_iff, ← Outcome.exists_mapM_eq_ok_iff, pickedValues_eq,
    Outcome.map_eq_ok_iff, exists_comm, exists_and_left, exists_eq', and_true]

theorem enumValues?_of_absent {es : Object}
    (h : (Value.ofOption (Entries.get? es "picklistValues")).isPresent = false) :
    enumValues? es = .ok none := by
  rw [enumValues?, h]
  rfl

theorem enumValues?_of_present {es : Object}
    (h : (Value.ofOption (Entries.get? es "picklistValues")).isPresent = true) :
    enumValues? es =
      (do
        let items ← (Value.ofOption (Entries.get? es "picklistValues")).elements
        let vs ← pickedValues items
        .ok (if vs.isEmpty then none else some vs)) := by
  rw [enumValues?, h]
  rfl

theorem exists_enumValues?_iff {es : Object} :
    (∃ x, enumValues? es = .ok x) ↔
      IsPicklist (.ofOption (Entries.get? es "picklistValues")) := by
  by_cases h : (Value.ofOption (Entries.get? es "picklistValues")).isPresent = true
  · rw [enumValues?_of_present h, IsPicklist, forall_prop_of_true h]
    simp only [Outcome.bind_eq_ok_iff, ← exists_pickedValues_iff]
    constructor
    · rintro ⟨_, items, hitems, vs, hvs, -⟩
      exact ⟨items, hitems, vs, hvs⟩
    · rintro ⟨items, hitems, vs, hvs⟩
      exact ⟨_, items, hitems, vs, hvs, rfl⟩
  · rw [enumValues?_of_absent (Bool.of_not_eq_true h)]
    exact iff_of_true ⟨none, rfl⟩ fun hpresent => absurd hpresent h

theorem enumValues?_eq_error_iff {es : Object} :
    enumValues? es = .error f ↔
      PicklistFlaw (.ofOption (Entries.get? es "picklistValues")) f := by
  by_cases h : (Value.ofOption (Entries.get? es "picklistValues")).isPresent = true
  · rw [enumValues?_of_present h, Outcome.bind_eq_error_iff, elements_eq_error_iff]
    simp only [Outcome.bind_ok_eq_error_iff, pickedValues_eq, Outcome.map_eq_error_iff,
      Outcome.mapM_eq_error_iff, exists_pickedValue_iff, pickedValue_eq_error_iff]
    constructor
    · rintro (⟨hmembers, rfl⟩ | ⟨_, hitems, before, item, after, rfl, hbefore, hitem, rfl⟩)
      · exact .noMembers h hmembers
      · exact .noObject h hitems hbefore hitem
    · rintro (⟨-, hmembers⟩ | ⟨-, hitems, hbefore, hitem⟩)
      · exact .inl ⟨hmembers, rfl⟩
      · exact .inr ⟨_, hitems, _, _, _, rfl, hbefore, hitem, rfl⟩
  · rw [enumValues?_of_absent (Bool.of_not_eq_true h)]
    refine iff_of_false (fun hok => Outcome.ok_ne_error hok) fun hflaw => ?_
    cases hflaw with
    | noMembers hv => exact h hv
    | noObject hv => exact h hv

/-! ### Fields -/

/-- The field that an entry describes, if its name can be one. -/
def namedField (entry : Value) : Except ShapeFault Field := do
  let field ← describedField entry
  if isName field.name then .ok field else .error (.notAKey field.name.kindName)

/-- The fields of entries are put under their names in order. -/
theorem describedFields_eq (done : List (Value × Field)) (entries : List Value) :
    describedFields done entries = (entries.mapM namedField).map (·.foldl place done) := by
  induction entries generalizing done with
  | nil => rfl
  | cons entry entries ih =>
    rw [describedFields, List.mapM_cons, namedField]
    cases describedField entry with
    | error e => rfl
    | ok field =>
      dsimp only [bind, Except.bind]
      split
      · rw [ih]
        cases entries.mapM namedField <;> rfl
      · rfl

theorem exists_describedField_iff {name : Value} :
    (∃ field, describedField v = .ok field ∧ field.name = name) ↔ ∃ es, v = .object es ∧
      IsPicklist (.ofOption (Entries.get? es "picklistValues")) ∧
        Entries.get? es "name" = some name := by
  constructor
  · rintro ⟨field, h, rfl⟩
    unfold describedField at h
    split at h
    · next es =>
      obtain ⟨picked, hpicked, h⟩ := Outcome.bind_eq_ok_iff.1 h
      obtain ⟨name, hname, h⟩ := Outcome.bind_eq_ok_iff.1 h
      obtain ⟨_, hes, hname⟩ := at?_eq_ok_iff.1 hname
      obtain rfl := Value.object.inj hes
      obtain rfl := Except.ok.inj h
      exact ⟨es, rfl, exists_enumValues?_iff.1 ⟨picked, hpicked⟩, hname⟩
    · exact absurd h.symm Outcome.ok_ne_error
  · rintro ⟨es, rfl, hpicklist, hname⟩
    obtain ⟨picked, hpicked⟩ := exists_enumValues?_iff.2 hpicklist
    refine ⟨_, Outcome.bind_eq_ok_iff.2 ⟨picked, hpicked,
      Outcome.bind_eq_ok_iff.2 ⟨name, at?_eq_ok_iff.2 ⟨es, rfl, hname⟩, rfl⟩⟩, rfl⟩

theorem describedField_eq_error_iff :
    describedField v = .error f ↔ ¬ IsObject v ∧ f = .noOperation v.kindName "get" ∨
      ∃ es, v = .object es ∧ (PicklistFlaw (.ofOption (Entries.get? es "picklistValues")) f ∨
        IsPicklist (.ofOption (Entries.get? es "picklistValues")) ∧
          Entries.get? es "name" = none ∧ f = .missingKey "name") := by
  by_cases hobject : IsObject v
  · obtain ⟨es, rfl⟩ := hobject
    have hname : ∀ f, (Value.object es).at? "name" = .error f ↔
        Entries.get? es "name" = none ∧ f = .missingKey "name" := by
      simp [at?_eq_error_iff, IsObject]
    rw [describedField, Outcome.bind_eq_error_iff, enumValues?_eq_error_iff]
    simp only [Outcome.bind_ok_eq_error_iff, hname, exists_and_right, exists_enumValues?_iff]
    simp [IsObject]
  · have hnone : ∀ es, v ≠ .object es := fun es hes => hobject ⟨es, hes⟩
    unfold describedField
    split
    · next es => exact absurd rfl (hnone es)
    · simp [hobject, hnone, eq_comm]

/-- An entry is that of a field exactly if it is as it has to be. -/
theorem exists_namedField_iff : (∃ field, namedField v = .ok field) ↔ IsEntry v := by
  constructor
  · rintro ⟨_, h⟩
    obtain ⟨field, hfield, hnamed⟩ := Outcome.bind_eq_ok_iff.1 h
    obtain ⟨es, rfl, hpicklist, hname⟩ := exists_describedField_iff.1 ⟨field, hfield, rfl⟩
    split at hnamed
    · next hisName => exact ⟨es, field.name, rfl, hpicklist, hname, hisName⟩
    · exact absurd hnamed.symm Outcome.ok_ne_error
  · rintro ⟨es, name, rfl, hpicklist, hname, hisName⟩
    obtain ⟨field, hfield, rfl⟩ := exists_describedField_iff.2 ⟨es, rfl, hpicklist, hname⟩
    exact ⟨field, Outcome.bind_eq_ok_iff.2 ⟨field, hfield, if_pos hisName⟩⟩

/-- An entry that is not fails with its first flaw. -/
theorem namedField_eq_error_iff : namedField v = .error f ↔ EntryFlaw v f := by
  rw [namedField, Outcome.bind_eq_error_iff, describedField_eq_error_iff]
  constructor
  · rintro ((⟨hobject, rfl⟩ | ⟨es, rfl, hflaw | ⟨hpicklist, hname, rfl⟩⟩) | ⟨field, hfield, h⟩)
    · exact .noObject hobject
    · exact .picklist hflaw
    · exact .nameless hpicklist hname
    · obtain ⟨es, rfl, hpicklist, hname⟩ := exists_describedField_iff.1 ⟨field, hfield, rfl⟩
      split at h
      · exact absurd h Outcome.ok_ne_error
      · next hisName =>
        obtain rfl := Except.error.inj h
        exact .container hpicklist hname (Bool.of_not_eq_true hisName)
  · intro h
    cases h with
    | noObject h => exact .inl (.inl ⟨h, rfl⟩)
    | picklist h => exact .inl (.inr ⟨_, rfl, .inl h⟩)
    | nameless hpicklist h => exact .inl (.inr ⟨_, rfl, .inr ⟨hpicklist, h, rfl⟩⟩)
    | container hpicklist h hname =>
      obtain ⟨field, hfield, rfl⟩ := exists_describedField_iff.2 ⟨_, rfl, hpicklist, h⟩
      refine .inr ⟨field, hfield, if_neg ?_⟩
      rw [hname]
      exact Bool.false_ne_true

/-! ### Types -/

/-- What is an object with a name is read entry by entry. -/
theorem ofDescription_named {es : Object} {name : Value}
    (hname : Entries.get? es "name" = some name) :
    ofDescription (.object es) =
      (do
        let entries ← ((Entries.get? es "fields").getD (.list [])).elements
        let described ← entries.mapM namedField
        .ok (ofFields name described)) := by
  rw [ofDescription, at?_eq_ok_iff.2 ⟨es, rfl, hname⟩]
  simp only [describedFields_eq]
  show (((Entries.get? es "fields").getD (.list [])).elements >>= _) = _
  cases ((Entries.get? es "fields").getD (.list [])).elements with
  | error e => rfl
  | ok entries =>
    show ((entries.mapM namedField).map (·.foldl place []) >>= _) = entries.mapM namedField >>= _
    cases entries.mapM namedField <;> rfl

/-- **A catalog is made of exactly what describes a type.** -/
theorem exists_ofDescription_iff : (∃ c, ofDescription v = .ok c) ↔ IsDescription v := by
  constructor
  · rintro ⟨c, h⟩
    obtain ⟨name, hat, -⟩ := Outcome.bind_eq_ok_iff.1 h
    obtain ⟨es, rfl, hname⟩ := at?_eq_ok_iff.1 hat
    rw [ofDescription_named hname] at h
    obtain ⟨entries, hentries, h⟩ := Outcome.bind_eq_ok_iff.1 h
    obtain ⟨described, hdescribed, -⟩ := Outcome.bind_eq_ok_iff.1 h
    have hall := Outcome.exists_mapM_eq_ok_iff.1 ⟨described, hdescribed⟩
    exact ⟨es, name, entries, rfl, hname, hentries,
      fun entry hentry => exists_namedField_iff.1 (hall entry hentry)⟩
  · rintro ⟨es, name, entries, rfl, hname, hentries, hall⟩
    obtain ⟨described, hdescribed⟩ := Outcome.exists_mapM_eq_ok_iff.2 fun entry hentry =>
      exists_namedField_iff.2 (hall entry hentry)
    rw [ofDescription_named hname]
    exact ⟨_, Outcome.bind_eq_ok_iff.2 ⟨entries, hentries,
      Outcome.bind_eq_ok_iff.2 ⟨described, hdescribed, rfl⟩⟩⟩

/-- **Everything else fails with its first flaw.** -/
theorem ofDescription_eq_error_iff : ofDescription v = .error f ↔ FirstFlaw v f := by
  constructor
  · intro h
    obtain hat | ⟨name, hat, -⟩ := Outcome.bind_eq_error_iff.1 h
    · obtain ⟨hobject, rfl⟩ | ⟨es, rfl, hname, rfl⟩ := at?_eq_error_iff.1 hat
      · exact .noObject hobject
      · exact .nameless hname
    · obtain ⟨es, rfl, hname⟩ := at?_eq_ok_iff.1 hat
      rw [ofDescription_named hname] at h
      obtain h | ⟨entries, hentries, h⟩ := Outcome.bind_eq_error_iff.1 h
      · obtain ⟨hmembers, rfl⟩ := elements_eq_error_iff.1 h
        exact .noMembers hname hmembers
      · obtain ⟨before, entry, after, rfl, hbefore, hentry⟩ :=
          Outcome.mapM_eq_error_iff.1 (Outcome.bind_ok_eq_error_iff.1 h)
        exact .entry hname hentries (fun x hx => exists_namedField_iff.1 (hbefore x hx))
          (namedField_eq_error_iff.1 hentry)
  · intro h
    cases h with
    | noObject h => exact Outcome.bind_eq_error_iff.2 (.inl (at?_eq_error_iff.2 (.inl ⟨h, rfl⟩)))
    | @nameless es h =>
      exact Outcome.bind_eq_error_iff.2 (.inl (at?_eq_error_iff.2 (.inr ⟨es, rfl, h, rfl⟩)))
    | noMembers hname h =>
      rw [ofDescription_named hname]
      exact Outcome.bind_eq_error_iff.2 (.inl (elements_eq_error_iff.2 ⟨h, rfl⟩))
    | @entry es name entry before after f hname h hbefore hentry =>
      rw [ofDescription_named hname]
      refine Outcome.bind_eq_error_iff.2 (.inr ⟨_, h, Outcome.bind_ok_eq_error_iff.2 ?_⟩)
      exact Outcome.mapM_eq_error_iff.2 ⟨before, entry, after, rfl,
        fun x hx => exists_namedField_iff.2 (hbefore x hx), namedField_eq_error_iff.2 hentry⟩

end Catalog
end RecordBridge
