/-
# What reading a document does to its meaning

An empty condition holds of every record, so it can be left out of a
conjunction.  It cannot be left out of a disjunction, which holds of every
record if it is one of the alternatives; but reading a document leaves it out
of both.  The tree of a document never lets a record through that the document
excludes, and it means the same as the document where each disjunction has a
condition in all of its members or in none (`Tree.AllOrNone`).  Where the
conditions of a document are all different, it means the same only there
(`admits_iff_holds_plain`).
-/

import RecordBridge.Proofs.Condition.Plain
import RecordBridge.Proofs.Condition.Shape

namespace RecordBridge
namespace Filter

/-- Whether a filter, if there is one, lets a record through. -/
def admits (v : Comparison → Bool) (found : Option Tree) : Bool := found.all (Tree.holds v)

namespace Tree

variable {v w : Comparison → Bool} {t : Tree} {ts : List Tree} {grouped : Bool}

theorem holds_all (v : Comparison → Bool) (grouped : Bool) (ts : List Tree) :
    (group .all grouped ts).holds v = ts.all (holds v) := by
  rw [holds]
  induction ts with
  | nil => rfl
  | cons t ts ih => rw [holdsAll, ih, List.all_cons]

theorem holds_any (v : Comparison → Bool) (grouped : Bool) (ts : List Tree) :
    (group .any grouped ts).holds v = ts.any (holds v) := by
  rw [holds]
  induction ts with
  | nil => rfl
  | cons t ts ih => rw [holdsAny, ih, List.any_cons]

/-- Whether every disjunction has members. -/
inductive Filled : Tree → Prop
  | leaf (c : Comparison) : Filled (.leaf c)
  | group {connective : Connective} {grouped : Bool} {ts : List Tree}
    (ne : connective = .any → ts ≠ []) (members : ∀ t ∈ ts, Filled t) :
    Filled (.group connective grouped ts)

/-- Whether in each disjunction all members have a condition or none has. -/
inductive AllOrNone : Tree → Prop
  | leaf (c : Comparison) : AllOrNone (.leaf c)
  | group {connective : Connective} {grouped : Bool} {ts : List Tree}
    (even : connective = .any → (∀ t ∈ ts, t.leaves = []) ∨ ∀ t ∈ ts, t.leaves ≠ [])
    (members : ∀ t ∈ ts, AllOrNone t) : AllOrNone (.group connective grouped ts)

theorem filled_group_iff {connective : Connective} :
    (group connective grouped ts).Filled ↔
      (connective = .any → ts ≠ []) ∧ ∀ t ∈ ts, t.Filled :=
  ⟨fun h => by cases h with | group ne members => exact ⟨ne, members⟩, fun h => .group h.1 h.2⟩

theorem allOrNone_group_iff {connective : Connective} :
    (group connective grouped ts).AllOrNone ↔
      (connective = .any → (∀ t ∈ ts, t.leaves = []) ∨ ∀ t ∈ ts, t.leaves ≠ []) ∧
        ∀ t ∈ ts, t.AllOrNone :=
  ⟨fun h => by cases h with | group even members => exact ⟨even, members⟩,
    fun h => .group h.1 h.2⟩

/-! ### What is left of a tree, as it holds -/

theorem admits_conjunction? (v : Comparison → Bool) (ts : List Tree) :
    admits v (conjunction? ts) = ts.all (holds v) := by
  match ts with
  | [] => rfl
  | [t] => simp [conjunction?, admits]
  | t :: u :: ts =>
    have hall := holds_all v false (t :: u :: ts)
    simpa [conjunction?, admits] using hall

theorem admits_filterMap (v : Comparison → Bool) (ts : List Tree) :
    (ts.filterMap condense).all (holds v) = ts.all fun t => admits v t.condense := by
  induction ts with
  | nil => rfl
  | cons t ts ih =>
    cases h : condense t with
    | none => rw [List.filterMap_cons_none h, List.all_cons, h, ih]; rfl
    | some u => rw [List.filterMap_cons_some h, List.all_cons, List.all_cons, h, ih]; rfl

theorem admits_condense_all (v : Comparison → Bool) (grouped : Bool) (ts : List Tree) :
    admits v (group .all grouped ts).condense = ts.all fun t => admits v t.condense := by
  rw [condense_group, ← admits_filterMap]
  cases grouped with
  | false => rw [if_pos ⟨rfl, rfl⟩, admits_conjunction?]
  | true =>
    rw [if_neg fun h => nomatch h.2]
    cases ts.filterMap condense with
    | nil => rfl
    | cons u us => exact holds_all v true (u :: us)

theorem admits_condense_any (hne : ts.filterMap condense ≠ []) :
    admits v (group .any grouped ts).condense = (ts.filterMap condense).any (holds v) := by
  rw [condense_group, if_neg fun h => nomatch h.1]
  cases hts : ts.filterMap condense with
  | nil => exact absurd hts hne
  | cons u us => exact holds_any v true (u :: us)

/-- Nothing is left exactly of the trees without a condition. -/
theorem condense_eq_none_iff : t.condense = none ↔ t.leaves = [] := by
  constructor
  · intro h
    rw [← leaves_condense, h]
    rfl
  · intro h
    induction t using membersInduction with
    | leaf c => exact nomatch h
    | group connective grouped ts ih =>
      rw [leaves, leavesAll_eq_flatMap, List.flatMap_eq_nil_iff] at h
      have hnil : ts.filterMap condense = [] :=
        List.filterMap_eq_nil_iff.2 fun t ht => ih t ht (h t ht)
      rw [condense_group, hnil]
      split <;> rfl

/-- What is left of a disjunction, if anything is, holds where a member has a rest that
holds. -/
theorem admits_condense_any_iff (h : (group .any grouped ts).leaves ≠ []) :
    admits v (group .any grouped ts).condense = true ↔
      ∃ t ∈ ts, t.leaves ≠ [] ∧ admits v t.condense = true := by
  have hne : ts.filterMap condense ≠ [] := by
    intro hnil
    rw [leaves, leavesAll_eq_flatMap] at h
    refine h (List.flatMap_eq_nil_iff.2 fun t ht => ?_)
    exact condense_eq_none_iff.1 (List.filterMap_eq_nil_iff.1 hnil t ht)
  rw [admits_condense_any hne, List.any_eq_true]
  constructor
  · rintro ⟨u, hu, hholds⟩
    obtain ⟨t, ht, hcondense⟩ := List.mem_filterMap.1 hu
    refine ⟨t, ht, fun hnil => ?_, ?_⟩
    · rw [condense_eq_none_iff.2 hnil] at hcondense
      exact absurd hcondense (Option.some_ne_none u).symm
    · rw [hcondense]
      exact hholds
  · rintro ⟨t, ht, hleaves, hadmits⟩
    cases hcondense : t.condense with
    | none => exact absurd (condense_eq_none_iff.1 hcondense) hleaves
    | some u =>
      rw [hcondense] at hadmits
      exact ⟨u, List.mem_filterMap.2 ⟨t, ht, hcondense⟩, hadmits⟩

/-- Of a tree without a condition nothing is left, which holds. -/
theorem admits_of_leaves_eq_nil (h : t.leaves = []) (v : Comparison → Bool) :
    admits v t.condense = true := by
  rw [condense_eq_none_iff.2 h]
  rfl

/-- **What is left of a tree lets nothing through that the tree excludes.** -/
theorem Filled.holds_of_admits (h : t.Filled) (hv : admits v t.condense = true) :
    t.holds v = true := by
  induction h with
  | leaf c => exact hv
  | @group connective grouped ts ne members ih =>
    cases connective with
    | all =>
      rw [admits_condense_all, List.all_eq_true] at hv
      rw [holds_all, List.all_eq_true]
      exact fun t ht => ih t ht (hv t ht)
    | any =>
      rw [holds_any, List.any_eq_true]
      by_cases hleaves : (Tree.group .any grouped ts).leaves = []
      · obtain ⟨t, ht⟩ := List.exists_mem_of_ne_nil ts (ne rfl)
        rw [leaves, leavesAll_eq_flatMap, List.flatMap_eq_nil_iff] at hleaves
        exact ⟨t, ht, ih t ht (admits_of_leaves_eq_nil (hleaves t ht) v)⟩
      · obtain ⟨t, ht, -, hadmits⟩ := (admits_condense_any_iff hleaves).1 hv
        exact ⟨t, ht, ih t ht hadmits⟩

/-- **What is left of a tree holds where the tree does**, if no disjunction in it has
members with a condition beside members without one. -/
theorem AllOrNone.admits_of_holds (h : t.AllOrNone) (hv : t.holds v = true) :
    admits v t.condense = true := by
  induction h with
  | leaf c => exact hv
  | @group connective grouped ts even members ih =>
    cases connective with
    | all =>
      rw [holds_all, List.all_eq_true] at hv
      rw [admits_condense_all, List.all_eq_true]
      exact fun t ht => ih t ht (hv t ht)
    | any =>
      rw [holds_any, List.any_eq_true] at hv
      obtain ⟨t, ht, hholds⟩ := hv
      by_cases hleaves : (Tree.group .any grouped ts).leaves = []
      · exact admits_of_leaves_eq_nil hleaves v
      · rcases even rfl with hnone | hsome
        · rw [leaves, leavesAll_eq_flatMap] at hleaves
          exact absurd (List.flatMap_eq_nil_iff.2 hnone) hleaves
        · exact (admits_condense_any_iff hleaves).2 ⟨t, ht, hsome t ht, ih t ht hholds⟩

/-! ### Where something is lost -/

theorem holds_congr (h : ∀ c ∈ t.leaves, v c = w c) : t.holds v = t.holds w := by
  induction t using membersInduction with
  | leaf c => exact h c (List.mem_singleton_self c)
  | group connective grouped ts ih =>
    rw [leaves, leavesAll_eq_flatMap] at h
    have hmembers : ∀ t ∈ ts, t.holds v = t.holds w :=
      fun t ht => ih t ht fun c hc => h c (List.mem_flatMap.2 ⟨t, ht, hc⟩)
    have hvalues : ts.map (holds v) = ts.map (holds w) := List.map_congr_left hmembers
    cases connective with
    | all => simpa [holds_all, List.all_map, Function.comp_def] using congrArg (·.all id) hvalues
    | any => simpa [holds_any, List.any_map, Function.comp_def] using congrArg (·.any id) hvalues

theorem admits_condense_congr (h : ∀ c ∈ t.leaves, v c = w c) :
    admits v t.condense = admits w t.condense := by
  rw [← leaves_condense] at h
  cases hu : t.condense with
  | none => rfl
  | some u =>
    rw [hu] at h
    exact holds_congr fun c hc => h c (by simpa using hc)

/-- Where every comparison holds, a tree does. -/
theorem Filled.holds_true (h : t.Filled) : t.holds (fun _ => true) = true := by
  induction h with
  | leaf c => rfl
  | @group connective grouped ts ne members ih =>
    cases connective with
    | all =>
      rw [holds_all, List.all_eq_true]
      exact ih
    | any =>
      obtain ⟨t, ht⟩ := List.exists_mem_of_ne_nil ts (ne rfl)
      rw [holds_any, List.any_eq_true]
      exact ⟨t, ht, ih t ht⟩

/-- Where no comparison holds, what is left of a tree with a condition does not. -/
theorem admits_false (h : t.leaves ≠ []) : admits (fun _ => false) t.condense = false := by
  induction t using membersInduction with
  | leaf c => rfl
  | group connective grouped ts ih =>
    rw [← Bool.not_eq_true]
    intro hadmits
    cases connective with
    | all =>
      rw [leaves, leavesAll_eq_flatMap] at h
      rw [admits_condense_all, List.all_eq_true] at hadmits
      refine h (List.flatMap_eq_nil_iff.2 fun t ht => ?_)
      by_contra hleaves
      exact absurd (hadmits t ht) (by rw [ih t ht hleaves]; decide)
    | any =>
      obtain ⟨t, ht, hleaves, htrue⟩ := (admits_condense_any_iff h).1 hadmits
      rw [ih t ht hleaves] at htrue
      exact Bool.false_ne_true htrue

/-- Where all leaves differ, no member has a leaf of another one. -/
theorem notMem_leaves_of_nodup {m : Tree} {before after : List Tree}
    (h : ((before ++ m :: after).flatMap leaves).Nodup) :
    m.leaves.Nodup ∧ ∀ t ∈ before ++ after, ∀ c ∈ t.leaves, c ∉ m.leaves := by
  rw [List.flatMap_append, List.flatMap_cons] at h
  obtain ⟨-, hrest, hbefore⟩ := List.nodup_append.1 h
  obtain ⟨hm, -, hafter⟩ := List.nodup_append.1 hrest
  refine ⟨hm, fun t ht c hc hmem => ?_⟩
  have hflat : ∀ us : List Tree, t ∈ us → c ∈ us.flatMap leaves :=
    fun us hus => List.mem_flatMap.2 ⟨t, hus, hc⟩
  rcases List.mem_append.1 ht with ht | ht
  · exact hbefore c (hflat _ ht) c (List.mem_append_left _ hmem) rfl
  · exact hafter c hmem c (hflat _ ht) rfl

/-- An assignment on the leaves of a tree, and one value everywhere else. -/
def splice (m : Tree) (v : Comparison → Bool) (b : Bool) : Comparison → Bool :=
  fun c => if c ∈ m.leaves then v c else b

theorem holds_splice (m : Tree) (v : Comparison → Bool) (b : Bool) :
    m.holds (m.splice v b) = m.holds v :=
  holds_congr fun _ hc => if_pos hc

theorem admits_splice (m : Tree) (v : Comparison → Bool) (b : Bool) :
    admits (m.splice v b) m.condense = admits v m.condense :=
  admits_condense_congr fun _ hc => if_pos hc

/-- A tree that shares no leaf with another one does not see an assignment on its leaves. -/
theorem holds_splice_of_notMem {m : Tree} (h : ∀ c ∈ t.leaves, c ∉ m.leaves) (b : Bool) :
    t.holds (m.splice v b) = t.holds fun _ => b :=
  holds_congr fun c hc => if_neg (h c hc)

theorem admits_splice_of_notMem {m : Tree} (h : ∀ c ∈ t.leaves, c ∉ m.leaves) (b : Bool) :
    admits (m.splice v b) t.condense = admits (fun _ => b) t.condense :=
  admits_condense_congr fun c hc => if_neg (h c hc)

/-- Whether a tree holds somewhere where what is left of it does not. -/
def Loses (t : Tree) : Prop := ∃ v, t.holds v = true ∧ admits v t.condense = false

/-- What loses something has a condition. -/
theorem Loses.leaves_ne_nil (h : t.Loses) : t.leaves ≠ [] := by
  obtain ⟨v, -, hadmits⟩ := h
  intro hnil
  rw [admits_of_leaves_eq_nil hnil] at hadmits
  exact Bool.false_ne_true hadmits.symm

/-- A group loses what one of its members loses: the other members are put out of the
way, by letting them hold in a conjunction and fail in a disjunction. -/
theorem loses_group {connective : Connective} {m : Tree} {before after : List Tree}
    (hfilled : (group connective grouped (before ++ m :: after)).Filled)
    (hnodup : (group connective grouped (before ++ m :: after)).leaves.Nodup) (h : m.Loses) :
    (group connective grouped (before ++ m :: after)).Loses := by
  have hleaves := h.leaves_ne_nil
  obtain ⟨v, hholds, hadmits⟩ := h
  have hmembers := (filled_group_iff.1 hfilled).2
  rw [leaves, leavesAll_eq_flatMap] at hnodup
  have hother := (notMem_leaves_of_nodup hnodup).2
  have hmem : m ∈ before ++ m :: after := by simp
  have hsplit : ∀ t ∈ before ++ m :: after, t = m ∨ t ∈ before ++ after := by
    intro t ht
    simp only [List.mem_append, List.mem_cons] at ht ⊢
    tauto
  cases connective with
  | all =>
    refine ⟨m.splice v true, ?_, ?_⟩
    · rw [holds_all, List.all_eq_true]
      intro t ht
      rcases hsplit t ht with rfl | ht'
      · rw [holds_splice, hholds]
      · rw [holds_splice_of_notMem (hother t ht')]
        exact (hmembers t ht).holds_true
    · rw [admits_condense_all, ← Bool.not_eq_true, List.all_eq_true]
      intro hall
      have htrue := hall m hmem
      rw [admits_splice, hadmits] at htrue
      exact Bool.false_ne_true htrue
  | any =>
    refine ⟨m.splice v false, ?_, ?_⟩
    · rw [holds_any, List.any_eq_true]
      exact ⟨m, hmem, by rw [holds_splice, hholds]⟩
    · have hgroup : (group .any grouped (before ++ m :: after)).leaves ≠ [] := by
        intro hnil
        rw [leaves, leavesAll_eq_flatMap, List.flatMap_eq_nil_iff] at hnil
        exact hleaves (hnil m hmem)
      rw [← Bool.not_eq_true, admits_condense_any_iff hgroup]
      rintro ⟨t, ht, hsome, htrue⟩
      rcases hsplit t ht with rfl | ht'
      · rw [admits_splice, hadmits] at htrue
        exact Bool.false_ne_true htrue
      · rw [admits_splice_of_notMem (hother t ht'), admits_false hsome] at htrue
        exact Bool.false_ne_true htrue

/-- **A tree with different conditions loses something**, if a disjunction in it has a
member with a condition beside a member without one. -/
theorem Filled.loses (h : t.Filled) (hnodup : t.leaves.Nodup) (hnot : ¬ t.AllOrNone) :
    t.Loses := by
  induction h with
  | leaf c => exact absurd (.leaf c) hnot
  | @group connective grouped ts ne members ih =>
    by_cases hall : ∀ t ∈ ts, t.AllOrNone
    · -- it is this group that has members of both kinds
      rw [allOrNone_group_iff, and_iff_left hall] at hnot
      push Not at hnot
      obtain ⟨rfl, ⟨t, ht, hsome⟩, u, hu, hnone⟩ := hnot
      refine ⟨fun _ => false, ?_, admits_false ?_⟩
      · rw [holds_any, List.any_eq_true]
        exact ⟨u, hu, (members u hu).holds_of_admits (admits_of_leaves_eq_nil hnone _)⟩
      · rw [leaves, leavesAll_eq_flatMap]
        exact fun hnil => hsome (List.flatMap_eq_nil_iff.1 hnil t ht)
    · -- it is one of its members
      push Not at hall
      obtain ⟨m, hm, hmember⟩ := hall
      obtain ⟨before, after, rfl⟩ := List.append_of_mem hm
      have hleaves := hnodup
      rw [leaves, leavesAll_eq_flatMap] at hleaves
      exact loses_group (.group ne members) hnodup
        (ih m hm (notMem_leaves_of_nodup hleaves).1 hmember)

end Tree

open Filter.Tree

/-- **Reading a document only ever makes it narrower, and keeps its meaning exactly where
no alternative is empty beside one that is not.**  Take a document whose disjunctions all
have members.  A record that its tree lets through is one that the document lets through.
The two agree under every assignment of truth values to the conditions if the members of
each disjunction all have a condition or none has; and where the conditions of the document
are all different, they agree only then. -/
theorem admits_iff_holds_plain {document : Value} {found : Option Tree}
    (h : parse document = .ok found) (hfilled : document.plain.Filled) :
    (∀ v, admits v found = true → document.plain.holds v = true) ∧
      (document.plain.AllOrNone → ∀ v, admits v found = document.plain.holds v) ∧
      (document.conditions.Nodup → (∀ v, admits v found = document.plain.holds v) →
        document.plain.AllOrNone) := by
  obtain rfl := eq_condense_of_parse h
  refine ⟨fun v hv => hfilled.holds_of_admits hv, fun hall v => ?_, fun hnodup hsame => ?_⟩
  · rw [Bool.eq_iff_iff]
    exact ⟨hfilled.holds_of_admits, hall.admits_of_holds⟩
  · by_contra hnot
    obtain ⟨v, hholds, hadmits⟩ := hfilled.loses hnodup hnot
    rw [hsame v, hholds] at hadmits
    exact Bool.false_ne_true hadmits.symm

/-- A document with empty conditions in a conjunction, and two alternatives that are not
empty. -/
def paddedDocument : Value := .object
  [("$and", .list
      [.object [], .object [("Name", .object [("$gt", .text "A"), ("$lt", .text "B")])]]),
    ("$Or", .list
      [.object [("Rating", .text "Hot")],
        .object [("$AND", .list [.null, .object [("Size", .int 3)]])]])]

/-- The tree of that document. -/
def paddedTree : Tree :=
  .group .all false
    [.group .all true
      [.group .all false [.leaf ⟨"Name", .gt, .text "A"⟩, .leaf ⟨"Name", .lt, .text "B"⟩]],
      .group .any true
        [.leaf ⟨"Rating", .eq, .text "Hot"⟩, .group .all true [.leaf ⟨"Size", .eq, .int 3⟩]]]

/-- `admits_iff_holds_plain` for that document: what was left out of it changes nothing. -/
theorem admits_iff_holds_plain_padded :
    parse paddedDocument = .ok (some paddedTree) ∧ paddedDocument.plain.Filled ∧
      paddedDocument.plain.AllOrNone ∧
      ∀ v, admits v (some paddedTree) = paddedDocument.plain.holds v := by
  have hparse : parse paddedDocument = .ok (some paddedTree) := rfl
  have hplain : paddedDocument.plain = .group .all false
      [.group .all true [.group .all false [], .group .all false [.group .all false
        [.leaf ⟨"Name", .gt, .text "A"⟩, .leaf ⟨"Name", .lt, .text "B"⟩]]],
        .group .any true [.group .all false [.leaf ⟨"Rating", .eq, .text "Hot"⟩],
          .group .all false [.group .all true
            [.group .all false [], .group .all false [.leaf ⟨"Size", .eq, .int 3⟩]]]]] := rfl
  have hfilled : paddedDocument.plain.Filled := by
    rw [hplain]
    simp [filled_group_iff, Filled.leaf]
  have hall : paddedDocument.plain.AllOrNone := by
    rw [hplain]
    simp [allOrNone_group_iff, AllOrNone.leaf, leaves, leavesAll]
  exact ⟨hparse, hfilled, hall, (admits_iff_holds_plain hparse hfilled).2.1 hall⟩

/-- A disjunction with an empty condition for an alternative. -/
def emptyAlternative : Value := .object
  [("$or", .list [.object [], .object [("Name", .text "Acme")]])]

/-- The tree of that document, from which the alternative is gone. -/
def narrowedTree : Tree := .group .any true [.leaf ⟨"Name", .eq, .text "Acme"⟩]

/-- **An empty alternative is lost:** the document lets every record through, and its tree
only those of which the other alternative holds. -/
theorem narrowedTree_excludes :
    parse emptyAlternative = .ok (some narrowedTree) ∧ emptyAlternative.plain.Filled ∧
      ∃ v, emptyAlternative.plain.holds v = true ∧ admits v (some narrowedTree) = false := by
  have hplain : emptyAlternative.plain = .group .all false
      [.group .any true
        [.group .all false [], .group .all false [.leaf ⟨"Name", .eq, .text "Acme"⟩]]] := rfl
  refine ⟨rfl, ?_, fun _ => false, rfl, rfl⟩
  rw [hplain]
  simp [filled_group_iff, Filled.leaf]

end Filter
end RecordBridge
