/-
# The levels of a condition

The connectives of a condition stand at levels: one outside all parentheses,
and one in each pair of them (`AnyOf.levels`).  The grammar of conditions lets
AND bind tighter than OR, so that a level may have both; where no level does
(`AnyOf.Unmixed`), a condition means the same without that rule.

What is written for a document has no such level but inside a disjunction.  The
keys of one object and the operators on one field stand side by side without
parentheses.  Outside all groups and inside a conjunction they meet other ANDs
only; but where they are one of several alternatives, their ANDs meet the ORs
(`unmixed_iff_separate`).
-/

import RecordBridge.Proofs.Condition.Meaning
import RecordBridge.Proofs.Condition.Plain

namespace RecordBridge
namespace Filter

/-- Whether all connectives at a level are the same. -/
def Uniform (level : List Connective) : Prop := ∀ j ∈ level, ∀ k ∈ level, j = k

theorem uniform_iff {level : List Connective} :
    Uniform level ↔ ¬ (Connective.all ∈ level ∧ Connective.any ∈ level) := by
  constructor
  · rintro h ⟨hall, hany⟩
    exact nomatch h _ hall _ hany
  · intro h j hj k hk
    cases j <;> cases k
    · rfl
    · exact absurd ⟨hj, hk⟩ h
    · exact absurd ⟨hk, hj⟩ h
    · rfl

/-- The connectives that join the parts of an alternative, from left to right. -/
def AllOf.joiners : AllOf → List Connective
  | .one _ => []
  | .more _ a => .all :: a.joiners

/-- The connectives of a condition outside all parentheses, from left to right. -/
def AnyOf.joiners : AnyOf → List Connective
  | .one a => a.joiners
  | .more a d => a.joiners ++ .any :: d.joiners

mutual
/-- The levels in the parentheses of a condition. -/
def AnyOf.inner : AnyOf → List (List Connective)
  | .one a => a.inner
  | .more a d => a.inner ++ d.inner

/-- The levels in the parentheses of an alternative. -/
def AllOf.inner : AllOf → List (List Connective)
  | .one p => p.inner
  | .more p a => p.inner ++ a.inner

/-- The levels in a part. -/
def Primary.inner : Primary → List (List Connective)
  | .leaf _ => []
  | .group d => d.joiners :: d.inner
end

/-- The levels of a condition: the connectives outside all parentheses, and those in each
pair of them. -/
def AnyOf.levels (d : AnyOf) : List (List Connective) := d.joiners :: d.inner

/-- Whether no level of a condition mixes AND and OR. -/
def AnyOf.Unmixed (d : AnyOf) : Prop := ∀ level ∈ d.levels, Uniform level

/-! ### Derivations -/

theorem AllOf.joiners_append (a b : AllOf) :
    (a.append b).joiners = a.joiners ++ .all :: b.joiners := by
  match a with
  | .one p => rfl
  | .more p a =>
    rw [AllOf.append, AllOf.joiners, AllOf.joiners, AllOf.joiners_append a b, List.cons_append]

theorem AllOf.inner_append (a b : AllOf) : (a.append b).inner = a.inner ++ b.inner := by
  match a with
  | .one p => rfl
  | .more p a =>
    rw [AllOf.append, AllOf.inner, AllOf.inner, AllOf.inner_append a b, List.append_assoc]

/-- An alternative has no OR of its own. -/
theorem AllOf.any_notMem_joiners (a : AllOf) : Connective.any ∉ a.joiners := by
  match a with
  | .one p => exact List.not_mem_nil
  | .more p a =>
    intro h
    rcases List.mem_cons.1 h with h | h
    · exact nomatch h
    · exact a.any_notMem_joiners h

theorem AllOf.uniform_joiners (a : AllOf) : Uniform a.joiners :=
  uniform_iff.2 fun h => a.any_notMem_joiners h.2

/-- An alternative has an AND of its own unless it is a single part. -/
theorem AllOf.all_mem_joiners_iff (a : AllOf) : Connective.all ∈ a.joiners ↔ a.joiners ≠ [] := by
  cases a with
  | one p => exact ⟨fun h => absurd h List.not_mem_nil, fun h => absurd rfl h⟩
  | more p a => exact ⟨fun _ => List.cons_ne_nil _ _, fun _ => List.mem_cons_self ..⟩

namespace Tree

variable {catalog : Catalog} {t : Tree}

theorem inner_run (catalog : Catalog) (ts : List Tree) :
    (run catalog ts).inner = ts.flatMap fun t => (t.derivation catalog).inner := by
  match ts with
  | [] => rfl
  | [t] => simp [run]
  | t :: u :: ts => rw [List.flatMap_cons, run, AllOf.inner_append, inner_run catalog (u :: ts)]

theorem inner_choice (catalog : Catalog) (ts : List Tree) :
    (choice catalog ts).inner = ts.flatMap fun t => (t.derivation catalog).inner := by
  match ts with
  | [] => rfl
  | [t] => simp [choice, AnyOf.inner]
  | t :: u :: ts => rw [List.flatMap_cons, choice, AnyOf.inner, inner_choice catalog (u :: ts)]

/-- There is an OR between alternatives if there are several. -/
theorem any_mem_joiners_choice_iff (catalog : Catalog) (ts : List Tree) :
    Connective.any ∈ (choice catalog ts).joiners ↔ 2 ≤ ts.length := by
  match ts with
  | [] => simp [choice, AnyOf.joiners, AllOf.joiners]
  | [t] => simp [choice, AnyOf.joiners, AllOf.any_notMem_joiners]
  | t :: u :: ts => simp [choice, AnyOf.joiners]

/-- There is an AND between alternatives if one of them is a run of parts. -/
theorem all_mem_joiners_choice_iff (catalog : Catalog) (ts : List Tree) :
    Connective.all ∈ (choice catalog ts).joiners ↔
      ∃ t ∈ ts, (t.derivation catalog).joiners ≠ [] := by
  match ts with
  | [] => simp [choice, AnyOf.joiners, AllOf.joiners]
  | [t] => simp [choice, AnyOf.joiners, AllOf.all_mem_joiners_iff]
  | t :: u :: ts =>
    have ih := all_mem_joiners_choice_iff catalog (u :: ts)
    rw [choice, AnyOf.joiners, List.mem_append, List.mem_cons, ih, AllOf.all_mem_joiners_iff]
    simp

/-! ### Documents -/

/-- A tree that is left of another one: its groups have members, and a group without
parentheses is a conjunction of several. -/
inductive Condensed : Tree → Prop
  | leaf (c : Comparison) : Condensed (.leaf c)
  | group {connective : Connective} {ts : List Tree} (ne : ts ≠ [])
    (members : ∀ t ∈ ts, Condensed t) : Condensed (.group connective true ts)
  | side {ts : List Tree} (two : 2 ≤ ts.length) (members : ∀ t ∈ ts, Condensed t) :
    Condensed (.group .all false ts)

theorem condensed_of_mem_conjunction? {ts : List Tree} (h : ∀ t ∈ ts, t.Condensed) :
    ∀ u ∈ conjunction? ts, u.Condensed := by
  intro u hu
  match ts with
  | [] => exact absurd hu (Option.not_mem_none u)
  | [t] =>
    obtain rfl := Option.some.inj hu
    exact h t (List.mem_singleton_self t)
  | t :: v :: ts =>
    obtain rfl := Option.some.inj hu
    exact .side (by simp) h

theorem condensed_of_mem_group? {connective : Connective} {ts : List Tree}
    (h : ∀ t ∈ ts, t.Condensed) : ∀ u ∈ group? connective ts, u.Condensed := by
  intro u hu
  match ts with
  | [] => exact absurd hu (Option.not_mem_none u)
  | t :: ts =>
    obtain rfl := Option.some.inj hu
    exact .group (List.cons_ne_nil t ts) h

theorem condensed_condense (t : Tree) : ∀ u ∈ t.condense, u.Condensed := by
  induction t using membersInduction with
  | leaf c =>
    intro u hu
    obtain rfl := Option.some.inj hu
    exact .leaf c
  | group connective grouped ts ih =>
    have hmembers : ∀ u ∈ ts.filterMap condense, u.Condensed := by
      intro u hu
      obtain ⟨t, ht, hcondense⟩ := List.mem_filterMap.1 hu
      exact ih t ht u hcondense
    rw [condense_group]
    split
    · exact condensed_of_mem_conjunction? hmembers
    · exact condensed_of_mem_group? hmembers

/-- Whether a filter is a conjunction without parentheses. -/
def isSide : Tree → Bool
  | .group .all false _ => true
  | _ => false

/-- Whether no conjunction without parentheses is one of several alternatives. -/
inductive Separate : Tree → Prop
  | leaf (c : Comparison) : Separate (.leaf c)
  | group {connective : Connective} {grouped : Bool} {ts : List Tree}
    (apart : connective = .any → 2 ≤ ts.length → ∀ t ∈ ts, t.isSide = false)
    (members : ∀ t ∈ ts, Separate t) : Separate (.group connective grouped ts)

theorem separate_group_iff {connective : Connective} {grouped : Bool} {ts : List Tree} :
    (group connective grouped ts).Separate ↔
      (connective = .any → 2 ≤ ts.length → ∀ t ∈ ts, t.isSide = false) ∧
        ∀ t ∈ ts, t.Separate :=
  ⟨fun h => by cases h with | group apart members => exact ⟨apart, members⟩,
    fun h => .group h.1 h.2⟩

/-- What is written for a filter has a connective outside all parentheses exactly if the
filter is a conjunction without any. -/
theorem Condensed.joiners_ne_nil_iff (h : t.Condensed) (catalog : Catalog) :
    (t.derivation catalog).joiners ≠ [] ↔ t.isSide = true := by
  cases h with
  | leaf c => exact ⟨fun h => absurd rfl h, fun h => (nomatch h)⟩
  | @group connective ts ne members =>
    have hone : (derivation catalog (.group connective true ts)).joiners = [] := by
      cases connective <;> rfl
    have hside : isSide (.group connective true ts) = false := by
      cases connective <;> rfl
    rw [hone, hside]
    exact ⟨fun h => absurd rfl h, fun h => (nomatch h)⟩
  | @side ts two members =>
    match ts with
    | [] | [_] => exact absurd two (by simp)
    | t :: u :: ts =>
      refine ⟨fun _ => rfl, fun _ => ?_⟩
      rw [derivation, run, AllOf.joiners_append]
      exact List.append_ne_nil_of_right_ne_nil _ (List.cons_ne_nil _ _)

/-- The alternatives of a disjunction are joined by OR alone exactly if there is only one
or none is a conjunction without parentheses. -/
theorem uniform_joiners_choice_iff {ts : List Tree} (h : ∀ t ∈ ts, t.Condensed) :
    Uniform (choice catalog ts).joiners ↔ (2 ≤ ts.length → ∀ t ∈ ts, t.isSide = false) := by
  rw [uniform_iff, any_mem_joiners_choice_iff, all_mem_joiners_choice_iff]
  constructor
  · intro hnot htwo t ht
    rw [← Bool.not_eq_true, ← (h t ht).joiners_ne_nil_iff catalog]
    exact fun hne => hnot ⟨⟨t, ht, hne⟩, htwo⟩
  · rintro hside ⟨⟨t, ht, hne⟩, htwo⟩
    have htrue := ((h t ht).joiners_ne_nil_iff catalog).1 hne
    rw [hside htwo t ht] at htrue
    exact nomatch htrue

/-- **Inside parentheses nothing is mixed exactly if the filter keeps its conjunctions
separate.** -/
theorem Condensed.uniform_inner_iff (h : t.Condensed) :
    (∀ level ∈ (t.derivation catalog).inner, Uniform level) ↔ t.Separate := by
  induction h with
  | leaf c => exact ⟨fun _ => .leaf c, fun _ => List.forall_mem_nil _⟩
  | @group connective ts ne members ih =>
    have hmembers : (∀ level ∈ ts.flatMap fun t => (t.derivation catalog).inner, Uniform level) ↔
        ∀ t ∈ ts, t.Separate := by
      rw [List.forall_mem_flatMap]
      exact forall₂_congr ih
    -- the members say what stands in inner parentheses; these ones open a level of their own
    cases connective with
    | all =>
      have hinner : (derivation catalog (.group .all true ts)).inner =
          (run catalog ts).joiners :: (run catalog ts).inner := rfl
      rw [hinner, List.forall_mem_cons, inner_run, hmembers, separate_group_iff]
      exact and_congr_left fun _ => ⟨fun _ hc => (nomatch hc), fun _ => AllOf.uniform_joiners _⟩
    | any =>
      have hinner : (derivation catalog (.group .any true ts)).inner =
          (choice catalog ts).joiners :: (choice catalog ts).inner := rfl
      rw [hinner, List.forall_mem_cons, inner_choice, hmembers, separate_group_iff,
        uniform_joiners_choice_iff members]
      exact and_congr_left fun _ => ⟨fun h _ => h, fun h => h rfl⟩
  | @side ts two members ih =>
    rw [derivation, inner_run, List.forall_mem_flatMap, separate_group_iff, forall₂_congr ih]
    exact ⟨fun h => ⟨fun hc => (nomatch hc), h⟩, And.right⟩

/-- What is written for a filter mixes nothing exactly if the filter keeps its conjunctions
separate: outside all parentheses there is no OR. -/
theorem Condensed.unmixed_derivation_iff (h : t.Condensed) :
    (AnyOf.one (t.derivation catalog)).Unmixed ↔ t.Separate := by
  have hlevels : (AnyOf.one (t.derivation catalog)).levels =
      (t.derivation catalog).joiners :: (t.derivation catalog).inner := rfl
  rw [AnyOf.Unmixed, hlevels, List.forall_mem_cons, h.uniform_inner_iff]
  exact and_iff_right (AllOf.uniform_joiners _)

end Tree

open Filter.Tree

theorem condensed_parse {document : Value} {t : Tree} (h : parse document = .ok (some t)) :
    t.Condensed := by
  have hleft := condensed_condense document.plain
  rw [← eq_condense_of_parse h] at hleft
  exact hleft t rfl

/-- **AND and OR are mixed at one level exactly if a conjunction without parentheses is
one of several alternatives.**  Take a document that is rendered to a text.  Either it is
no condition and the text is empty; or the text has a derivation that says what its tree
says, and no level of that derivation mixes the two connectives exactly if the tree keeps
its conjunctions separate.  It is the only derivation that reads the text, if the fields of
the catalog have identifiers for names and no field of times is compared with a text. -/
theorem unmixed_iff_separate {catalog : Catalog} {document : Value} {text : String}
    (h : renderDocument catalog document = .ok text) :
    (parse document = .ok none ∧ text = "") ∨
      ∃ t d, parse document = .ok (some t) ∧ AnyOf.Says catalog t text d ∧
        (d.Unmixed ↔ t.Separate) ∧
          (catalog.HasIdentifiers → (∀ c ∈ t.leaves, c.hasRawText catalog = false) →
            ∀ e : AnyOf, e.Reads text.toList ↔ e = d) := by
  obtain ⟨found, hparse⟩ := exists_parse_of_renderDocument h
  cases found with
  | none =>
    rw [renderDocument_of_parse_none hparse] at h
    exact .inl ⟨hparse, (Except.ok.inj h).symm⟩
  | some t =>
    rw [renderDocument_of_parse hparse] at h
    have hsays := (says_derivation catalog t (shaped_parse document hparse t rfl) h).toAnyOf
    exact .inr ⟨t, _, hparse, hsays, (condensed_parse hparse).unmixed_derivation_iff,
      hsays.reads_iff⟩

/-- A document with several operators on one field, and alternatives of which one is a
conjunction that is written out. -/
def separateDocument : Value := .object
  [("Name", .object [("$ne", .null), ("$gt", .text "A OR B")]),
    ("$or", .list
      [.object [("$and", .list [.object [("Employees", .int 1)], .object [("Name", .text "B")]])],
        .object [("Employees", .object [("$gt", .int 2)])]])]

/-- The tree of that document. -/
def separateTree : Tree :=
  .group .all false
    [.group .all false [.leaf ⟨"Name", .ne, .null⟩, .leaf ⟨"Name", .gt, .text "A OR B"⟩],
      .group .any true
        [.group .all true [.leaf ⟨"Employees", .eq, .int 1⟩, .leaf ⟨"Name", .eq, .text "B"⟩],
          .leaf ⟨"Employees", .gt, .int 2⟩]]

/-- The condition it is rendered to. -/
def separateText : String :=
  "Name!=null AND Name>'A OR B' AND ((Employees=1 AND Name='B') OR Employees>2)"

/-- `unmixed_iff_separate` for that document: what was written out has parentheses. -/
theorem unmixed_iff_separate_writtenOut :
    renderDocument kindsCatalog separateDocument = .ok separateText ∧
      ∃ d : AnyOf, d.Reads separateText.toList ∧ d.Unmixed := by
  have hrender : renderDocument kindsCatalog separateDocument = .ok separateText := rfl
  have hparse : parse separateDocument = .ok (some separateTree) := rfl
  refine ⟨hrender, ?_⟩
  obtain ⟨hnone, -⟩ | ⟨t, d, ht, -, hunmixed, hreads⟩ := unmixed_iff_separate hrender
  · rw [hparse] at hnone
    exact nomatch hnone
  · obtain rfl := Option.some.inj (Except.ok.inj (hparse.symm.trans ht))
    have hseparate : separateTree.Separate := by
      simp [separateTree, separate_group_iff, Separate.leaf, isSide]
    have hone := (hreads kindsCatalog_hasIdentifiers (by decide) d).2 rfl
    exact ⟨d, hone, hunmixed.2 hseparate⟩

/-- Alternatives of which one has two keys. -/
def mixedDocument : Value := .object
  [("$or", .list
    [.object [("Name", .text "Acme"), ("Employees", .int 1)], .object [("Employees", .int 2)]])]

/-- The tree of that document. -/
def mixedTree : Tree :=
  .group .any true
    [.group .all false [.leaf ⟨"Name", .eq, .text "Acme"⟩, .leaf ⟨"Employees", .eq, .int 1⟩],
      .leaf ⟨"Employees", .eq, .int 2⟩]

/-- The condition it is rendered to. -/
def mixedText : String := "(Name='Acme' AND Employees=1 OR Employees=2)"

/-- **Two keys in an alternative mix AND and OR:** the one way to read the text of that
document has both at one level. -/
theorem mixedText_mixes :
    renderDocument kindsCatalog mixedDocument = .ok mixedText ∧
      parse mixedDocument = .ok (some mixedTree) ∧
        (∀ c ∈ mixedTree.leaves, c.hasRawText kindsCatalog = false) ∧
          ∃ d : AnyOf, (∀ e : AnyOf, e.Reads mixedText.toList ↔ e = d) ∧ ¬ d.Unmixed := by
  have hparse : parse mixedDocument = .ok (some mixedTree) := rfl
  have hraw : ∀ c ∈ mixedTree.leaves, c.hasRawText kindsCatalog = false := by decide
  have hrender : render kindsCatalog mixedTree = .ok mixedText := rfl
  have hshaped := shaped_parse mixedDocument hparse mixedTree rfl
  have hsays := (says_derivation kindsCatalog mixedTree hshaped hrender).toAnyOf
  refine ⟨rfl, hparse, hraw, _, hsays.reads_iff kindsCatalog_hasIdentifiers hraw, ?_⟩
  rw [(condensed_parse hparse).unmixed_derivation_iff, mixedTree, separate_group_iff]
  rintro ⟨apart, -⟩
  exact nomatch apart rfl (by decide) _ (List.mem_cons_self ..)

end Filter
end RecordBridge
