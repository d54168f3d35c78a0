/-
# Which values are filter documents

A value is a filter document if it is null or an object whose entries are
conditions (`IsDocument`), and an entry is a condition in one of three ways:

| key          | value                                                  |
| ------------ | ------------------------------------------------------ |
| a connective | a list of filter documents                             |
| a field      | anything but an object                                 |
| a field      | an object of operators, of which there is one at least |

Whatever is no filter document has a first fault, in the order in which a
reader comes to it (`FirstFault`).  Exactly the filter documents are read, and
everything else is refused for its first fault (`exists_parse_iff`,
`parse_eq_error_iff`).  The induction is on the documents in lists, which are
the only ones that stand inside a document (`Value.documentInduction`).
-/

import RecordBridge.Filter.Parse
import RecordBridge.Proofs.Outcome
import Mathlib.Data.List.Forall2

namespace RecordBridge

namespace Value

/-- The members of a list. -/
def members? : Value → Option (List Value)
  | .list vs | .tuple vs => some vs
  | _ => none

theorem sizeOf_members_le {v : Value} {vs : List Value} (h : v.members? = some vs) :
    sizeOf vs ≤ sizeOf v := by
  cases v with
  | list us | tuple us =>
    obtain rfl := Option.some.inj h
    simp
  | _ => exact nomatch h

/-- What holds of an object if it holds of all members of the lists in it, and
of everything else, holds of all values. -/
@[elab_as_elim]
theorem documentInduction {motive : Value → Prop}
    (object : ∀ es, (∀ e ∈ es, ∀ vs, e.2.members? = some vs → ∀ m ∈ vs, motive m) →
      motive (.object es))
    (other : ∀ v, v.object? = none → motive v) (v : Value) : motive v :=
  match v with
  | .object es => by
    refine object es fun e he vs hvs m hm => ?_
    have hes : sizeOf e < sizeOf es := List.sizeOf_lt_of_mem he
    have hm' : sizeOf m < sizeOf vs := List.sizeOf_lt_of_mem hm
    have hvs' := sizeOf_members_le hvs
    have he' : sizeOf e = 1 + sizeOf e.1 + sizeOf e.2 := by cases e; rfl
    exact documentInduction object other m
  | .null | .bool _ | .int _ | .float _ | .text _ | .list _ | .decimal _ | .instant _ | .date _
  | .tuple _ | .set _ | .pattern _ => other _ rfl
termination_by sizeOf v
decreasing_by
  simp only [Value.object.sizeOf_spec]
  omega

end Value

namespace Filter

/-! ### Keys -/

/-- Whether a key is that of a connective, each letter in any case. -/
def Connective.Spells (c : Connective) (key : String) : Prop :=
  List.Forall₂ (fun a b => a = b ∨ a = b.toUpper) key.toList c.key.toList

theorem toNat_toLower (c : Char) : c.toLower.toNat =
    if 65 ≤ c.toNat ∧ c.toNat ≤ 90 then c.toNat + 32 else c.toNat := by
  delta Char.toLower
  by_cases h : c.val ≥ 'A'.val ∧ c.val ≤ 'Z'.val
  · have hrange : 65 ≤ c.toNat ∧ c.toNat ≤ 90 := h
    have hsum : (c.val + ('a'.val - 'A'.val)).toNat = (c.toNat + 32) % 4294967296 :=
      UInt32.toNat_add ..
    rw [dif_pos h, if_pos hrange]
    show (c.val + ('a'.val - 'A'.val)).toNat = c.toNat + 32
    omega
  · have hrange : ¬ (65 ≤ c.toNat ∧ c.toNat ≤ 90) := h
    rw [dif_neg h, if_neg hrange]

theorem toNat_toUpper (c : Char) : c.toUpper.toNat =
    if 97 ≤ c.toNat ∧ c.toNat ≤ 122 then c.toNat - 32 else c.toNat := by
  delta Char.toUpper
  by_cases h : c.val ≥ 'a'.val ∧ c.val ≤ 'z'.val
  · have hrange : 97 ≤ c.toNat ∧ c.toNat ≤ 122 := h
    have hdifference : ('A'.val - 'a'.val).toNat = 4294967264 := by decide
    have hsum := UInt32.toNat_add c.val ('A'.val - 'a'.val)
    rw [hdifference] at hsum
    rw [dif_pos h, if_pos hrange]
    show (c.val + ('A'.val - 'a'.val)).toNat = c.toNat - 32
    have hval : c.val.toNat = c.toNat := rfl
    omega
  · have hrange : ¬ (97 ≤ c.toNat ∧ c.toNat ≤ 122) := h
    rw [dif_neg h, if_neg hrange]

theorem isUpper_iff {c : Char} : c.isUpper = true ↔ 65 ≤ c.toNat ∧ c.toNat ≤ 90 := by
  delta Char.isUpper
  exact decide_eq_true_iff

/-- The characters with a given lower case are that one and its upper case. -/
theorem toLower_eq_iff {a b : Char} (hb : b.isUpper = false) :
    a.toLower = b ↔ a = b ∨ a = b.toUpper := by
  rw [← Bool.not_eq_true, isUpper_iff] at hb
  rw [← Char.toNat_inj, ← Char.toNat_inj, ← Char.toNat_inj, toNat_toLower, toNat_toUpper]
  split <;> split <;> omega

theorem map_toLower_eq_iff {cs ds : List Char} (h : ∀ d ∈ ds, d.isUpper = false) :
    cs.map Char.toLower = ds ↔ List.Forall₂ (fun a b => a = b ∨ a = b.toUpper) cs ds := by
  induction ds generalizing cs with
  | nil => rw [List.map_eq_nil_iff, List.forall₂_nil_right_iff]
  | cons d ds ih =>
    obtain ⟨hd, hds⟩ := List.forall_mem_cons.1 h
    cases cs with
    | nil => exact ⟨fun h => (nomatch h), fun h => nomatch h⟩
    | cons c cs => rw [List.map_cons, List.cons.injEq, List.forall₂_cons, toLower_eq_iff hd, ih hds]

namespace Connective

variable {c : Connective} {key : String}

theorem foldCase_eq_iff : foldCase key = c.key ↔ c.Spells key := by
  have hall : c.key.toList.all (fun d => !d.isUpper) = true := by cases c <;> rfl
  have hlower : ∀ d ∈ c.key.toList, d.isUpper = false :=
    fun d hd => by simpa using List.all_eq_true.1 hall d hd
  rw [Spells, ← map_toLower_eq_iff hlower, foldCase, ← String.toList_inj, String.toList_ofList]

theorem ofKey?_eq_some_iff : ofKey? key = some c ↔ c.Spells key := by
  rw [← foldCase_eq_iff, ofKey?]
  constructor
  · intro h
    split at h
    · next hall => exact Option.some.inj h ▸ hall
    · split at h
      · next hany => exact Option.some.inj h ▸ hany
      · exact nomatch h
  · intro h
    rw [h]
    cases c <;> decide

theorem Spells.isOperatorKey (h : c.Spells key) : isOperatorKey key = true := by
  obtain ⟨rest, hrest⟩ : ∃ rest, c.key.toList = '$' :: rest := by cases c <;> exact ⟨_, rfl⟩
  rw [Spells, hrest, List.forall₂_cons_right_iff] at h
  obtain ⟨a, cs, ha, -, hkey⟩ := h
  have hdollar : a = '$' := ha.elim id id
  rw [Filter.isOperatorKey, hkey, hdollar]
  rfl

/-- The name of a field is the key of no connective. -/
theorem ofKey?_eq_none (hfield : isOperatorKey key = false) : ofKey? key = none := by
  cases hkey : ofKey? key with
  | none => rfl
  | some c =>
    rw [(ofKey?_eq_some_iff.1 hkey).isOperatorKey] at hfield
    exact nomatch hfield

end Connective

theorem Comparator.ofKey?_eq_some_iff {c : Comparator} {key : String} :
    ofKey? key = some c ↔ key = c.key :=
  ⟨fun h => (key_of_ofKey? h).symm, fun h => h ▸ ofKey?_key c⟩

/-! ### Documents and faults -/

mutual
/-- Whether a value is a filter document. -/
inductive IsDocument : Value → Prop
  | null : IsDocument .null
  | object {es : Object} (entries : ∀ e ∈ es, IsEntry e.1 e.2) : IsDocument (.object es)

/-- Whether a key and its value are an entry of a filter document. -/
inductive IsEntry : String → Value → Prop
  /-- A connective with a list of documents. -/
  | group {key : String} {v : Value} {c : Connective} {vs : List Value} (hkey : c.Spells key)
    (hlist : v.members? = some vs) (members : ∀ m ∈ vs, IsDocument m) : IsEntry key v
  /-- A field with a value that is no object. -/
  | bare {field : String} {v : Value} (hfield : isOperatorKey field = false)
    (hv : v.object? = none) : IsEntry field v
  /-- A field with operators. -/
  | operators {field : String} {es : Object} (hfield : isOperatorKey field = false)
    (hne : es ≠ []) (keys : ∀ e ∈ es, ∃ c : Comparator, e.1 = c.key) :
    IsEntry field (.object es)
end

mutual
/-- The first fault in a value that is no filter document. -/
inductive FirstFault : Value → Error → Prop
  | notAnObject {v : Value} (hnull : v ≠ .null) (hv : v.object? = none) :
    FirstFault v (.notAnObject v.kindName)
  /-- The fault is in an entry, and those before it are in order. -/
  | entry {before after : Object} {x : String × Value} {e : Error}
    (hbefore : ∀ y ∈ before, IsEntry y.1 y.2) (h : EntryFault x.1 x.2 e) :
    FirstFault (.object (before ++ x :: after)) e

/-- The first fault in a key and its value. -/
inductive EntryFault : String → Value → Error → Prop
  /-- A key that starts as an operator is that of no connective. -/
  | unknownConnective {key : String} {v : Value} (hkey : isOperatorKey key = true)
    (hunknown : ∀ c : Connective, ¬ c.Spells key) :
    EntryFault key v (.unknownOperator key Connective.sortedKeys (some "query document"))
  | needsList {key : String} {v : Value} {c : Connective} (hkey : c.Spells key)
    (hlist : v.members? = none) : EntryFault key v (.needsList c)
  /-- The fault is in a document in the list, and those before it are in order. -/
  | member {key : String} {v : Value} {c : Connective} {before after : List Value} {m : Value}
    {e : Error} (hkey : c.Spells key) (hlist : v.members? = some (before ++ m :: after))
    (hbefore : ∀ y ∈ before, IsDocument y) (h : FirstFault m e) : EntryFault key v e
  | noOperator {field : String} (hfield : isOperatorKey field = false) :
    EntryFault field (.object []) (.noOperator field)
  /-- A key is that of no comparison, and those before it are. -/
  | unknownComparator {field : String} {before after : Object} {x : String × Value}
    (hfield : isOperatorKey field = false)
    (hbefore : ∀ y ∈ before, ∃ c : Comparator, y.1 = c.key)
    (hunknown : ∀ c : Comparator, x.1 ≠ c.key) :
    EntryFault field (.object (before ++ x :: after))
      (.unknownOperator x.1 Comparator.sortedKeys (some ("condition on '" ++ field ++ "'")))
end

/-! ### Reading, as lists of steps -/

theorem parseOperators_eq (field : String) (es : Object) :
    parseOperators field es = es.mapM (parseOperator field) := by
  induction es with
  | nil => rfl
  | cons e es ih =>
    rw [parseOperators, List.mapM_cons, ih]
    rfl

theorem parseAll_eq (vs : List Value) :
    parseAll vs = (vs.mapM parse).map (·.filterMap id) := by
  induction vs with
  | nil => rfl
  | cons v vs ih =>
    rw [parseAll, List.mapM_cons, ih]
    cases parse v with
    | error e => rfl
    | ok t =>
      cases vs.mapM parse with
      | error e => rfl
      | ok ts => cases t <;> rfl

theorem parseMembers_eq (v : Value) : parseMembers v = v.members?.map parseAll := by
  cases v <;> rfl

/-- The condition of an entry. -/
def parseEntry (e : String × Value) : Except Error (Option Tree) :=
  entryCondition e.1 e.2 (parseMembers e.2)

theorem parseEntries_eq (es : Object) :
    parseEntries es = (es.mapM parseEntry).map (·.filterMap id) := by
  induction es with
  | nil => rfl
  | cons e es ih =>
    rw [parseEntries, List.mapM_cons, ih, ← parseEntry]
    cases parseEntry e with
    | error e => rfl
    | ok t =>
      cases List.mapM parseEntry es with
      | error e => rfl
      | ok ts => cases t <;> rfl

theorem parse_object (es : Object) :
    parse (.object es) = ((es.mapM parseEntry).map (·.filterMap id)).map Tree.conjunction? := by
  rw [parse, parseEntries_eq]

/-! ### Entries -/

section Entries

variable {field key : String} {v : Value} {c : Connective} {e : Error}

theorem exists_parseOperator_iff {o : String × Value} :
    (∃ t, parseOperator field o = .ok t) ↔ ∃ c : Comparator, o.1 = c.key := by
  unfold parseOperator
  constructor
  · rintro ⟨t, h⟩
    split at h
    · next c hc => exact ⟨c, Comparator.ofKey?_eq_some_iff.1 hc⟩
    · exact nomatch h
  · rintro ⟨c, hc⟩
    rw [Comparator.ofKey?_eq_some_iff.2 hc]
    exact ⟨_, rfl⟩

theorem parseOperator_eq_error_iff {o : String × Value} :
    parseOperator field o = .error e ↔ (∀ c : Comparator, o.1 ≠ c.key) ∧
      e = .unknownOperator o.1 Comparator.sortedKeys
        (some ("condition on '" ++ field ++ "'")) := by
  unfold parseOperator
  constructor
  · intro h
    split at h
    · exact nomatch h
    · next hnone =>
      refine ⟨fun c hc => ?_, (Except.error.inj h).symm⟩
      rw [Comparator.ofKey?_eq_some_iff.2 hc] at hnone
      exact nomatch hnone
  · rintro ⟨hunknown, rfl⟩
    cases ho : Comparator.ofKey? o.1 with
    | none => rfl
    | some c => exact absurd (Comparator.ofKey?_eq_some_iff.1 ho) (hunknown c)

theorem exists_parseOperators_iff {es : Object} :
    (∃ ts, parseOperators field es = .ok ts) ↔ ∀ x ∈ es, ∃ c : Comparator, x.1 = c.key := by
  rw [parseOperators_eq, Outcome.exists_mapM_eq_ok_iff]
  exact forall₂_congr fun x _ => exists_parseOperator_iff

theorem parseField_of_not_object (hv : v.object? = none) :
    parseField field v = .ok (some (.leaf ⟨field, .eq, v⟩)) := by
  cases v with
  | object es => exact nomatch hv
  | _ => rfl

theorem parseField_object {es : Object} (hne : es ≠ []) :
    parseField field (.object es) = (parseOperators field es).map Tree.conjunction? := by
  cases es with
  | nil => exact absurd rfl hne
  | cons o es => rfl

theorem parseEntry_of_field (hfield : isOperatorKey key = false) :
    parseEntry (key, v) = parseField key v :=
  entryCondition_of_field hfield v _

theorem parseEntry_of_spells (hkey : c.Spells key) {vs : List Value}
    (hlist : v.members? = some vs) :
    parseEntry (key, v) = ((vs.mapM parse).map (·.filterMap id)).map (group? c) := by
  unfold parseEntry entryCondition
  dsimp only
  rw [hkey.isOperatorKey, if_pos rfl, Connective.ofKey?_eq_some_iff.2 hkey, parseMembers_eq,
    hlist, Option.map_some, parseAll_eq]

theorem parseEntry_of_no_list (hkey : c.Spells key) (hlist : v.members? = none) :
    parseEntry (key, v) = .error (.needsList c) := by
  unfold parseEntry entryCondition
  dsimp only
  rw [hkey.isOperatorKey, if_pos rfl, Connective.ofKey?_eq_some_iff.2 hkey, parseMembers_eq,
    hlist]
  rfl

theorem parseEntry_of_unknown (hkey : isOperatorKey key = true)
    (hunknown : ∀ c : Connective, ¬ c.Spells key) :
    parseEntry (key, v)
      = .error (.unknownOperator key Connective.sortedKeys (some "query document")) := by
  have hnone : Connective.ofKey? key = none := by
    cases h : Connective.ofKey? key with
    | none => rfl
    | some c => exact absurd (Connective.ofKey?_eq_some_iff.1 h) (hunknown c)
  unfold parseEntry entryCondition
  dsimp only
  rw [hkey, if_pos rfl, hnone]

/-- What a key and its value can be: a group, a connective without a list, an operator
that is no connective, or a field. -/
theorem entry_cases (key : String) (v : Value) :
    (∃ (c : Connective) (vs : List Value), c.Spells key ∧ v.members? = some vs) ∨
      (∃ c : Connective, c.Spells key ∧ v.members? = none) ∨
      (isOperatorKey key = true ∧ ∀ c : Connective, ¬ c.Spells key) ∨
      isOperatorKey key = false := by
  by_cases hkey : ∃ c : Connective, c.Spells key
  · obtain ⟨c, hc⟩ := hkey
    cases hlist : v.members? with
    | none => exact .inr (.inl ⟨c, hc, rfl⟩)
    | some vs => exact .inl ⟨c, vs, hc, rfl⟩
  · cases hop : isOperatorKey key with
    | false => exact .inr (.inr (.inr rfl))
    | true => exact .inr (.inr (.inl ⟨rfl, fun c hc => hkey ⟨c, hc⟩⟩))

/-- An entry is read exactly if it is one, provided that this holds of the documents in
its list. -/
theorem exists_parseEntry_iff
    (ih : ∀ vs, v.members? = some vs → ∀ m ∈ vs, ((∃ t, parse m = .ok t) ↔ IsDocument m)) :
    (∃ t, parseEntry (key, v) = .ok t) ↔ IsEntry key v := by
  constructor
  · rintro ⟨t, h⟩
    rcases entry_cases key v with ⟨c, vs, hc, hlist⟩ | ⟨c, hc, hlist⟩ | ⟨hop, hunknown⟩ | hfield
    · rw [parseEntry_of_spells hc hlist] at h
      obtain ⟨_, h, -⟩ := Outcome.map_eq_ok_iff.1 h
      obtain ⟨ts, hts, -⟩ := Outcome.map_eq_ok_iff.1 h
      have hall := Outcome.exists_mapM_eq_ok_iff.1 ⟨ts, hts⟩
      exact .group hc hlist fun m hm => (ih vs hlist m hm).1 (hall m hm)
    · rw [parseEntry_of_no_list hc hlist] at h
      exact nomatch h
    · rw [parseEntry_of_unknown hop hunknown] at h
      exact nomatch h
    · rw [parseEntry_of_field hfield] at h
      cases v with
      | object es =>
        cases es with
        | nil => exact nomatch h
        | cons o es =>
          have hne := List.cons_ne_nil o es
          rw [parseField_object hne] at h
          obtain ⟨ts, hts, -⟩ := Outcome.map_eq_ok_iff.1 h
          exact .operators hfield hne (exists_parseOperators_iff.1 ⟨ts, hts⟩)
      | _ => exact .bare hfield rfl
  · intro h
    cases h with
    | @group _ _ c vs hc hlist members =>
      have hall : ∀ m ∈ vs, ∃ t, parse m = .ok t :=
        fun m hm => (ih vs hlist m hm).2 (members m hm)
      obtain ⟨ts, hts⟩ := Outcome.exists_mapM_eq_ok_iff.2 hall
      rw [parseEntry_of_spells hc hlist, hts]
      exact ⟨_, rfl⟩
    | bare hfield hv =>
      rw [parseEntry_of_field hfield, parseField_of_not_object hv]
      exact ⟨_, rfl⟩
    | operators hfield hne keys =>
      obtain ⟨ts, hts⟩ := exists_parseOperators_iff.2 keys
      rw [parseEntry_of_field hfield, parseField_object hne, hts]
      exact ⟨_, rfl⟩

/-- An entry is refused exactly for its first fault, provided that this holds of the
documents in its list. -/
theorem parseEntry_eq_error_iff
    (hok : ∀ vs, v.members? = some vs → ∀ m ∈ vs, ((∃ t, parse m = .ok t) ↔ IsDocument m))
    (ih : ∀ vs, v.members? = some vs → ∀ m ∈ vs, ∀ e, parse m = .error e ↔ FirstFault m e) :
    parseEntry (key, v) = .error e ↔ EntryFault key v e := by
  constructor
  · intro h
    rcases entry_cases key v with ⟨c, vs, hc, hlist⟩ | ⟨c, hc, hlist⟩ | ⟨hop, hunknown⟩ | hfield
    · rw [parseEntry_of_spells hc hlist, Outcome.map_eq_error_iff, Outcome.map_eq_error_iff] at h
      obtain ⟨before, m, after, rfl, hbefore, hm⟩ := Outcome.mapM_eq_error_iff.1 h
      refine .member hc hlist (fun y hy => ?_) ((ih _ hlist m (by simp) e).1 hm)
      exact (hok _ hlist y (List.mem_append_left _ hy)).1 (hbefore y hy)
    · rw [parseEntry_of_no_list hc hlist] at h
      obtain rfl := Except.error.inj h
      exact .needsList hc hlist
    · rw [parseEntry_of_unknown hop hunknown] at h
      obtain rfl := Except.error.inj h
      exact .unknownConnective hop hunknown
    · rw [parseEntry_of_field hfield] at h
      cases v with
      | object es =>
        cases es with
        | nil =>
          obtain rfl := Except.error.inj h
          exact .noOperator hfield
        | cons o es =>
          rw [parseField_object (List.cons_ne_nil o es), Outcome.map_eq_error_iff,
            parseOperators_eq] at h
          obtain ⟨before, x, after, hes, hbefore, hx⟩ := Outcome.mapM_eq_error_iff.1 h
          obtain ⟨hunknown, rfl⟩ := parseOperator_eq_error_iff.1 hx
          rw [hes]
          exact .unknownComparator hfield (fun y hy => exists_parseOperator_iff.1 (hbefore y hy))
            hunknown
      | _ => exact nomatch h
  · intro h
    cases h with
    | unknownConnective hop hunknown => exact parseEntry_of_unknown hop hunknown
    | needsList hc hlist => exact parseEntry_of_no_list hc hlist
    | @member _ _ c before after m _ hc hlist hbefore hm =>
      rw [parseEntry_of_spells hc hlist, Outcome.map_eq_error_iff, Outcome.map_eq_error_iff]
      refine Outcome.mapM_eq_error_iff.2 ⟨before, m, after, rfl, fun y hy => ?_, ?_⟩
      · exact (hok _ hlist y (List.mem_append_left _ hy)).2 (hbefore y hy)
      · exact (ih _ hlist m (by simp) e).2 hm
    | noOperator hfield =>
      rw [parseEntry_of_field hfield]
      rfl
    | @unknownComparator _ before after x hfield hbefore hunknown =>
      rw [parseEntry_of_field hfield, parseField_object (by simp), Outcome.map_eq_error_iff,
        parseOperators_eq]
      refine Outcome.mapM_eq_error_iff.2 ⟨before, x, after, rfl, fun y hy => ?_, ?_⟩
      · exact exists_parseOperator_iff.2 (hbefore y hy)
      · exact parseOperator_eq_error_iff.2 ⟨hunknown, rfl⟩

end Entries

/-! ### Values -/

theorem isDocument_object_iff {es : Object} :
    IsDocument (.object es) ↔ ∀ e ∈ es, IsEntry e.1 e.2 :=
  ⟨fun h => by cases h with | object entries => exact entries, .object⟩

/-- **Exactly the filter documents are read.** -/
theorem exists_parse_iff (v : Value) : (∃ t, parse v = .ok t) ↔ IsDocument v := by
  induction v using Value.documentInduction with
  | object es ih =>
    have hentries : (∃ ts, es.mapM parseEntry = .ok ts) ↔ ∀ e ∈ es, IsEntry e.1 e.2 := by
      rw [Outcome.exists_mapM_eq_ok_iff]
      exact forall₂_congr fun e he => exists_parseEntry_iff (ih e he)
    rw [isDocument_object_iff, ← hentries, parse_object]
    constructor
    · rintro ⟨t, h⟩
      obtain ⟨_, h, -⟩ := Outcome.map_eq_ok_iff.1 h
      obtain ⟨ts, hts, -⟩ := Outcome.map_eq_ok_iff.1 h
      exact ⟨ts, hts⟩
    · rintro ⟨ts, hts⟩
      rw [hts]
      exact ⟨_, rfl⟩
  | other v hv =>
    cases v with
    | object es => exact nomatch hv
    | null => exact ⟨fun _ => .null, fun _ => ⟨none, rfl⟩⟩
    | _ => exact ⟨fun ⟨_, h⟩ => (nomatch h), fun h => nomatch h⟩

/-- **What is no filter document is refused for its first fault.** -/
theorem parse_eq_error_iff (v : Value) (e : Error) : parse v = .error e ↔ FirstFault v e := by
  induction v using Value.documentInduction generalizing e with
  | object es ih =>
    have hentry : ∀ x ∈ es, ∀ e, parseEntry x = .error e ↔ EntryFault x.1 x.2 e :=
      fun x hx e => parseEntry_eq_error_iff (fun _ _ m _ => exists_parse_iff m) (ih x hx)
    have hok : ∀ x : String × Value, (∃ t, parseEntry x = .ok t) ↔ IsEntry x.1 x.2 :=
      fun x => exists_parseEntry_iff fun _ _ m _ => exists_parse_iff m
    rw [parse_object, Outcome.map_eq_error_iff, Outcome.map_eq_error_iff,
      Outcome.mapM_eq_error_iff]
    constructor
    · rintro ⟨before, x, after, rfl, hbefore, hx⟩
      exact .entry (fun y hy => (hok y).1 (hbefore y hy)) ((hentry x (by simp) e).1 hx)
    · intro h
      cases h with
      | notAnObject _ hv => exact nomatch hv
      | @entry before after x _ hbefore h =>
        exact ⟨before, x, after, rfl, fun y hy => (hok y).2 (hbefore y hy),
          (hentry x (by simp) e).2 h⟩
  | other v hv =>
    constructor
    · intro h
      cases v with
      | object es => exact nomatch hv
      | null => exact nomatch h
      | _ =>
        obtain rfl := Except.error.inj h
        exact .notAnObject (fun h => nomatch h) rfl
    · intro h
      cases h with
      | entry => exact nomatch hv
      | notAnObject hnull _ =>
        cases v with
        | object es => exact nomatch hv
        | null => exact absurd rfl hnull
        | _ => rfl

end Filter
end RecordBridge
