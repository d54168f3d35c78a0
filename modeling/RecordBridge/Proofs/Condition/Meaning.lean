/-
# Rendering keeps the meaning of a filter

A filter is a tree, its condition in a query is a line of text, and the remote
side reads that text again by the grammar of `Filter.AnyOf`.  What it reads is
the filter: `render_reads_back` says that the text has exactly one derivation,
that its leaves are the comparisons of the filter in their order, and that it
holds exactly where the filter does, whatever the comparisons amount to.

The tree and the derivation differ in two ways.  Conjunctions that stand side
by side are one run of parts in the text, so a member of an ungrouped group is
spliced into the run (`AllOf.append`); and a disjunction always has
parentheses, because the tree comes from a document (`Tree.Shaped`).
-/

import RecordBridge.Proofs.Condition.Grammar
import RecordBridge.Proofs.Condition.Leaves
import RecordBridge.Proofs.Condition.Shape

namespace RecordBridge
namespace Filter

/-- One run of parts behind another one. -/
def AllOf.append : AllOf → AllOf → AllOf
  | .one p, b => .more p b
  | .more p a, b => .more p (a.append b)

theorem AllOf.text_append (a b : AllOf) :
    (a.append b).text = a.text ++ (Connective.all.queryText.toList ++ b.text) := by
  match a with
  | .one p => rfl
  | .more p a =>
    rw [AllOf.append, AllOf.text, AllOf.text, AllOf.text_append a b, List.append_assoc,
      List.append_assoc]

theorem AllOf.leaves_append (a b : AllOf) : (a.append b).leaves = a.leaves ++ b.leaves := by
  match a with
  | .one p => rfl
  | .more p a =>
    rw [AllOf.append, AllOf.leaves, AllOf.leaves, AllOf.leaves_append a b, List.append_assoc]

theorem AllOf.holds_append (v : String → Bool) (a b : AllOf) :
    (a.append b).holds v = (a.holds v && b.holds v) := by
  match a with
  | .one p => rfl
  | .more p a =>
    rw [AllOf.append, AllOf.holds, AllOf.holds, AllOf.holds_append v a b, Bool.and_assoc]

/-- Whether a comparison holds where the texts of leaves hold as given: whether
its own text does. -/
def leafHolds (catalog : Catalog) (v : String → Bool) (c : Comparison) : Bool :=
  (renderComparison catalog c).toOption.any v

/-- A run of parts that says what a filter says, in the given text. -/
structure AllOf.Says (catalog : Catalog) (t : Tree) (text : String) (a : AllOf) : Prop where
  text_eq : a.text = text.toList
  leaves_eq : a.leaves.map .ok = t.leaves.map (renderComparison catalog)
  holds_eq : ∀ v, a.holds v = t.holds (leafHolds catalog v)

/-- A condition that says what a filter says, in the given text. -/
structure AnyOf.Says (catalog : Catalog) (t : Tree) (text : String) (d : AnyOf) : Prop where
  text_eq : d.text = text.toList
  leaves_eq : d.leaves.map .ok = t.leaves.map (renderComparison catalog)
  holds_eq : ∀ v, d.holds v = t.holds (leafHolds catalog v)

theorem AllOf.Says.toAnyOf {catalog : Catalog} {t : Tree} {text : String} {a : AllOf}
    (h : a.Says catalog t text) : (AnyOf.one a).Says catalog t text :=
  ⟨h.text_eq, h.leaves_eq, h.holds_eq⟩

/-- A condition in parentheses says what the group says. -/
theorem AnyOf.Says.group {catalog : Catalog} {connective : Connective} {grouped : Bool}
    {members : List Tree} {text : String} {d : AnyOf}
    (h : d.Says catalog (.group connective grouped members) text) :
    (AllOf.one (.group d)).Says catalog (.group connective true members) ("(" ++ text ++ ")") where
  text_eq := by
    rw [AllOf.text, Primary.text, h.text_eq, String.toList_append, String.toList_append]
    rfl
  leaves_eq := h.leaves_eq
  holds_eq v := by
    have := h.holds_eq v
    cases connective <;> exact this

/-- The members of a non-empty list are rendered to a non-empty list. -/
theorem renderAll_ne_nil {catalog : Catalog} {t : Tree} {ts : List Tree} {parts : List String}
    (h : renderAll catalog (t :: ts) = .ok parts) : parts ≠ [] := by
  rw [renderAll] at h
  obtain ⟨s, -, h⟩ := Outcome.bind_eq_ok_iff.1 h
  obtain ⟨ss, -, h⟩ := Outcome.bind_eq_ok_iff.1 h
  obtain rfl := Except.ok.inj h
  exact List.cons_ne_nil _ _

theorem joinConditions_singleton (connective : Connective) (s : String) :
    joinConditions connective false [s] = s := by
  show String.intercalate connective.queryText [s] = s
  rw [String.intercalate_singleton]

/-- Behind the first part stands the joiner, and then the other parts. -/
theorem toList_joinConditions_cons (connective : Connective) (s : String) {parts : List String}
    (h : parts ≠ []) :
    (joinConditions connective false (s :: parts)).toList
      = s.toList ++ (connective.queryText.toList
          ++ (joinConditions connective false parts).toList) := by
  show (String.intercalate connective.queryText (s :: parts)).toList = _
  rw [String.intercalate_cons_of_ne_nil h, String.toList_append, String.toList_append,
    List.append_assoc]
  rfl

theorem joinConditions_grouped (connective : Connective) (parts : List String) :
    joinConditions connective true parts
      = "(" ++ joinConditions connective false parts ++ ")" := rfl

namespace Tree

mutual
/-- The derivation of what is written for a filter.  A conjunction without
parentheses is a run of parts, which can stand in a run; a disjunction always
has parentheses. -/
def derivation (catalog : Catalog) : Tree → AllOf
  | .leaf c => .one (.leaf ((renderComparison catalog c).toOption.getD ""))
  | .group .all true members => .one (.group (.one (run catalog members)))
  | .group .all false members => run catalog members
  | .group .any _ members => .one (.group (choice catalog members))

/-- The derivation of filters joined by AND. -/
def run (catalog : Catalog) : List Tree → AllOf
  | [] => .one (.leaf "")
  | [t] => derivation catalog t
  | t :: u :: ts => (derivation catalog t).append (run catalog (u :: ts))

/-- The derivation of filters joined by OR. -/
def choice (catalog : Catalog) : List Tree → AnyOf
  | [] => .one (.one (.leaf ""))
  | [t] => .one (derivation catalog t)
  | t :: u :: ts => .more (derivation catalog t) (choice catalog (u :: ts))
end

end Tree

mutual
/-- **What is written for a filter says what the filter says.**  The induction
is on the tree; a group without parentheses is a conjunction, so its run of
parts can stand in a run. -/
theorem says_derivation (catalog : Catalog) : ∀ (t : Tree) {text : String}, t.Shaped →
    render catalog t = .ok text → (t.derivation catalog).Says catalog t text
  | .leaf c, text, _, h => by
    rw [render] at h
    rw [Tree.derivation, h]
    refine ⟨rfl, ?_, fun v => ?_⟩
    · rw [Tree.leaves, List.map_singleton, h]
      rfl
    · rw [Tree.holds, leafHolds, h]
      rfl
  | .group .all grouped members, text, hs, h => by
    rw [render] at h
    obtain ⟨parts, hparts, h⟩ := Outcome.bind_eq_ok_iff.1 h
    obtain rfl := Except.ok.inj h
    have hrun := says_run catalog members hs.1 hs.2.2 hparts
    cases grouped with
    | false => exact hrun
    | true =>
      rw [joinConditions_grouped]
      exact hrun.toAnyOf.group
  | .group .any grouped members, text, hs, h => by
    rw [render] at h
    obtain ⟨parts, hparts, h⟩ := Outcome.bind_eq_ok_iff.1 h
    obtain rfl := Except.ok.inj h
    have hchoice := says_choice catalog members hs.1 hs.2.2 hparts
    rw [hs.2.1 rfl, joinConditions_grouped]
    exact hchoice.group

/-- Filters joined by AND are a run of parts. -/
theorem says_run (catalog : Catalog) : ∀ (ts : List Tree) {parts : List String}, ts ≠ [] →
    Tree.ShapedAll ts → renderAll catalog ts = .ok parts →
      (Tree.run catalog ts).Says catalog (.group .all false ts) (joinConditions .all false parts)
  | [], _, hne, _, _ => absurd rfl hne
  | t :: ts, parts, _, hs, h => by
    rw [renderAll] at h
    obtain ⟨s, hrender, h⟩ := Outcome.bind_eq_ok_iff.1 h
    obtain ⟨ss, hrest, h⟩ := Outcome.bind_eq_ok_iff.1 h
    obtain rfl := Except.ok.inj h
    have ha := says_derivation catalog t hs.1 hrender
    cases ts with
    | nil =>
      obtain rfl := Except.ok.inj hrest
      rw [Tree.run]
      refine ⟨?_, ?_, fun v => ?_⟩
      · rw [ha.text_eq, joinConditions_singleton]
      · rw [ha.leaves_eq, Tree.leaves, Tree.leavesAll, Tree.leavesAll, List.append_nil]
      · rw [ha.holds_eq, Tree.holds, Tree.holdsAll, Tree.holdsAll, Bool.and_true]
    | cons u us =>
      have hb := says_run catalog (u :: us) (List.cons_ne_nil _ _) hs.2 hrest
      rw [Tree.run]
      refine ⟨?_, ?_, fun v => ?_⟩
      · rw [AllOf.text_append, ha.text_eq, hb.text_eq,
          toList_joinConditions_cons _ _ (renderAll_ne_nil hrest)]
      · rw [AllOf.leaves_append, List.map_append, ha.leaves_eq, hb.leaves_eq, ← List.map_append]
        rfl
      · rw [AllOf.holds_append, ha.holds_eq, hb.holds_eq]
        rfl

/-- Filters joined by OR are a condition. -/
theorem says_choice (catalog : Catalog) : ∀ (ts : List Tree) {parts : List String}, ts ≠ [] →
    Tree.ShapedAll ts → renderAll catalog ts = .ok parts →
      (Tree.choice catalog ts).Says catalog (.group .any false ts)
        (joinConditions .any false parts)
  | [], _, hne, _, _ => absurd rfl hne
  | t :: ts, parts, _, hs, h => by
    rw [renderAll] at h
    obtain ⟨s, hrender, h⟩ := Outcome.bind_eq_ok_iff.1 h
    obtain ⟨ss, hrest, h⟩ := Outcome.bind_eq_ok_iff.1 h
    obtain rfl := Except.ok.inj h
    have ha := says_derivation catalog t hs.1 hrender
    cases ts with
    | nil =>
      obtain rfl := Except.ok.inj hrest
      rw [Tree.choice]
      refine ⟨?_, ?_, fun v => ?_⟩
      · rw [AnyOf.text, ha.text_eq, joinConditions_singleton]
      · rw [AnyOf.leaves, ha.leaves_eq, Tree.leaves, Tree.leavesAll, Tree.leavesAll,
          List.append_nil]
      · rw [AnyOf.holds, ha.holds_eq, Tree.holds, Tree.holdsAny, Tree.holdsAny, Bool.or_false]
    | cons u us =>
      have hd := says_choice catalog (u :: us) (List.cons_ne_nil _ _) hs.2 hrest
      rw [Tree.choice]
      refine ⟨?_, ?_, fun v => ?_⟩
      · rw [AnyOf.text, ha.text_eq, hd.text_eq,
          toList_joinConditions_cons _ _ (renderAll_ne_nil hrest)]
      · rw [AnyOf.leaves, List.map_append, ha.leaves_eq, hd.leaves_eq, ← List.map_append]
        rfl
      · rw [AnyOf.holds, ha.holds_eq, hd.holds_eq]
        rfl
end

/-- A condition that says what a filter says has leaves of the query language
only, if no comparison of the filter takes a text over. -/
theorem AnyOf.Says.reads {catalog : Catalog} {t : Tree} {text : String} {d : AnyOf}
    (h : d.Says catalog t text) (hcat : catalog.HasIdentifiers)
    (hraw : ∀ c ∈ t.leaves, c.hasRawText catalog = false) : d.Reads text.toList := by
  refine ⟨fun s hs => ?_, h.text_eq⟩
  have hmem : Except.ok s ∈ t.leaves.map (renderComparison catalog) := by
    rw [← h.leaves_eq]
    exact List.mem_map_of_mem hs
  obtain ⟨c, hc, hrender⟩ := List.mem_map.1 hmem
  exact isLeaf_renderComparison hcat (hraw c hc) hrender

/-- Such a condition is the only one that reads the text. -/
theorem AnyOf.Says.reads_iff {catalog : Catalog} {t : Tree} {text : String} {d : AnyOf}
    (h : d.Says catalog t text) (hcat : catalog.HasIdentifiers)
    (hraw : ∀ c ∈ t.leaves, c.hasRawText catalog = false) (e : AnyOf) :
    e.Reads text.toList ↔ e = d := by
  have hreads := h.reads hcat hraw
  constructor
  · exact fun he => he.unique hreads
  · rintro rfl
    exact hreads

theorem conditionOf_eq_ok_iff {document : Value} {found : Option Tree} :
    conditionOf document = .ok found ↔ parse document = .ok found := by
  unfold conditionOf
  split
  · exact Outcome.mapError_eq_ok_iff
  · exact Outcome.mapError_eq_ok_iff
  · next hnull hobject =>
    constructor
    · intro h
      cases h
    · intro h
      cases document with
      | null => exact absurd rfl hnull
      | object es => exact absurd rfl (hobject es)
      | _ => cases h

/-- A document that can be written can be read as a filter. -/
theorem exists_parse_of_renderDocument {catalog : Catalog} {document : Value} {text : String}
    (h : renderDocument catalog document = .ok text) :
    ∃ found, parse document = .ok found := by
  obtain ⟨found, hfound, -⟩ := Outcome.bind_eq_ok_iff.1 h
  exact ⟨found, conditionOf_eq_ok_iff.1 hfound⟩

/-- A document without a condition is rendered to the empty text. -/
theorem renderDocument_of_parse_none {catalog : Catalog} {document : Value}
    (h : parse document = .ok none) : renderDocument catalog document = .ok "" := by
  rw [renderDocument, conditionOf_eq_ok_iff.2 h]
  rfl

/-- A document is rendered by rendering its tree. -/
theorem renderDocument_of_parse {catalog : Catalog} {document : Value} {t : Tree}
    (h : parse document = .ok (some t)) : renderDocument catalog document = render catalog t := by
  rw [renderDocument, conditionOf_eq_ok_iff.2 h]
  rfl

/-- A text that is the condition of a filter, or nothing where there is no filter. -/
inductive Expresses (catalog : Catalog) : Option Tree → String → Prop
  | nothing : Expresses catalog none ""
  | tree {t : Tree} {text : String} {d : AnyOf} (h : d.Says catalog t text) :
    Expresses catalog (some t) text

theorem expresses_of_renderDocument {catalog : Catalog} {document : Value} {found : Option Tree}
    {text : String} (hparse : parse document = .ok found)
    (h : renderDocument catalog document = .ok text) : Expresses catalog found text := by
  cases found with
  | none =>
    rw [renderDocument_of_parse_none hparse] at h
    obtain rfl := Except.ok.inj h
    exact .nothing
  | some t =>
    rw [renderDocument_of_parse hparse] at h
    exact .tree (says_derivation catalog t (shaped_parse document hparse t rfl) h).toAnyOf

/-- **Rendering keeps the meaning of a filter.**  Take the tree of any document
and a catalog whose fields have identifiers for names, and let no field of
times be compared with a text.  If the tree can be rendered, the document is
rendered to the same text, and that text has exactly one derivation in the
grammar of conditions; its leaves are what is written for the comparisons of
the tree, in order; and under every assignment of truth values to the texts of
leaves it holds exactly if the tree does. -/
theorem render_reads_back {catalog : Catalog} {document : Value} {t : Tree} {text : String}
    (hcat : catalog.HasIdentifiers) (hparse : parse document = .ok (some t))
    (hraw : ∀ c ∈ t.leaves, c.hasRawText catalog = false) (hrender : render catalog t = .ok text) :
    renderDocument catalog document = .ok text ∧
      ∃ d : AnyOf, d.Reads text.toList ∧ (∀ e : AnyOf, e.Reads text.toList → e = d) ∧
        d.leaves.map .ok = t.leaves.map (renderComparison catalog) ∧
          ∀ v, d.holds v = t.holds (leafHolds catalog v) := by
  have hd := (says_derivation catalog t (shaped_parse document hparse t rfl) hrender).toAnyOf
  have hreads := hd.reads hcat hraw
  refine ⟨?_, _, hreads, fun e he => he.unique hreads, hd.leaves_eq, hd.holds_eq⟩
  rw [renderDocument_of_parse hparse, hrender]

/-- A catalog with a field of each kind of literal. -/
def kindsCatalog : Catalog :=
  .ofFields (.text "Account")
    [{ name := .text "Name" }, { name := .text "Employees", type := "int" },
      { name := .text "ReviewedAt", type := "datetime" }]

theorem kindsCatalog_hasIdentifiers : kindsCatalog.HasIdentifiers := by
  intro name hname
  have h : name = "Name" ∨ name = "Employees" ∨ name = "ReviewedAt" := by
    simpa [kindsCatalog, Catalog.ofFields, Catalog.place, Catalog.names, Value.sameKey,
      Value.wholeKey?] using hname
  rcases h with rfl | rfl | rfl
  · exact .of_all (by decide) (by decide)
  · exact .of_all (by decide) (by decide)
  · exact .of_all (by decide) (by decide)

/-- A disjunction whose first member is a conjunction without parentheses, with
operands that look like the syntax around them. -/
def hostileDocument : Value := .object
  [("$OR", .list
    [.object
      [("Name", .object [("$in", .list [.text "a') OR (b", .text "x AND y"]), ("$ne", .null)]),
        ("ReviewedAt", .object [("$gt", .instant ⟨⟨2024, 5, 17⟩, 12, 30, 0, 0, some 0⟩)])],
      .object
        [("Employees", .object [("$gte", .int 10)]),
          ("$and", .list [.object [("Name", .object [("$regex", .text "^it's \\(.*$")])]])]])]

/-- The tree of that document. -/
def hostileTree : Tree :=
  .group .any true
    [.group .all false
      [.group .all false
        [.leaf ⟨"Name", .isIn, .list [.text "a') OR (b", .text "x AND y"]⟩,
          .leaf ⟨"Name", .ne, .null⟩],
        .leaf ⟨"ReviewedAt", .gt, .instant ⟨⟨2024, 5, 17⟩, 12, 30, 0, 0, some 0⟩⟩],
      .group .all false
        [.leaf ⟨"Employees", .gte, .int 10⟩,
          .group .all true [.leaf ⟨"Name", .matches, .text "^it's \\(.*$"⟩]]]

/-- The condition it is rendered to. -/
def hostileText : String :=
  "(Name IN ('a\\') OR (b','x AND y') AND Name!=null AND ReviewedAt>2024-05-17T12:30:00Z"
    ++ " OR Employees>=10 AND (Name LIKE 'it\\'s (%'))"

/-- `render_reads_back` where every operand looks like syntax. -/
theorem render_reads_back_hostile :
    renderDocument kindsCatalog hostileDocument = .ok hostileText ∧
      ∃ d : AnyOf, d.Reads hostileText.toList ∧ (∀ e : AnyOf, e.Reads hostileText.toList → e = d) ∧
        d.leaves.map .ok = hostileTree.leaves.map (renderComparison kindsCatalog) ∧
          ∀ v, d.holds v = hostileTree.holds (leafHolds kindsCatalog v) := by
  have hparse : parse hostileDocument = .ok (some hostileTree) := rfl
  exact render_reads_back kindsCatalog_hasIdentifiers hparse (by decide) rfl

end Filter
end RecordBridge
