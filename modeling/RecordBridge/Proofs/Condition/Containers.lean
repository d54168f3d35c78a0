/-
# Containers as operands

A comparison takes one operand or a list of them, and no operand should be a
container again: a container has no literal in the query language.

A comparison with one operand keeps to that.  It is refused wherever it stands,
and the filter has no text.  A comparison with a list does not look at the
members, and an object in the place of the list counts as its only member.  Each
container is then written as the text that a message would show it by, between
quotes, and the filter has a text as if it were none (`render_composite`).
-/

import RecordBridge.Proofs.Condition.Demands
import RecordBridge.Proofs.Condition.Refusals

namespace RecordBridge
namespace Filter

/-- Whether a comparison has a container for an operand: for the one that it takes, or
in the list of those that it takes. -/
def Comparison.isComposite (c : Comparison) : Bool :=
  c.comparator ≠ .matches &&
    if c.comparator.takesList then (operandsIn c.operand).any isContainer
    else isContainer c.operand

variable {catalog : Catalog} {t : Tree} {c : Comparison} {v : Value}

/-- A container is written as its text in messages, whatever the field holds. -/
theorem literal_of_isContainer (f : Catalog.Field) (h : isContainer v = true) :
    literal f v = .ok (quote v.display) := by
  cases v with
  | list _ | tuple _ | set _ | object _ =>
    unfold literal temporalLiteral?
    split
    · rfl
    · split <;> rfl
  | _ => exact nomatch h

/-- A comparison with one operand is refused if that is a container. -/
theorem refused_of_isComposite (hknown : catalog.has c.field = true) (hc : c.isComposite = true)
    (hscalar : c.comparator.takesList = false) :
    Refused catalog c (.needsScalar c.comparator c.field) := by
  rw [Comparison.isComposite, hscalar, Bool.and_eq_true, decide_eq_true_iff] at hc
  exact .container hknown hc.1 hscalar hc.2

/-- A comparison with a list is not refused for containers in it. -/
theorem not_refused_of_isComposite (hknown : catalog.has c.field = true)
    (hc : c.isComposite = true) (hlist : c.comparator.takesList = true) (r : Error) :
    ¬ Refused catalog c r := by
  rw [Comparison.isComposite, hlist, Bool.and_eq_true, decide_eq_true_iff] at hc
  obtain ⟨hmatches, hany⟩ := hc
  intro h
  cases h with
  | unknownField hf _ =>
    rw [Catalog.has, hf] at hknown
    exact nomatch hknown
  | pattern _ hpattern => exact hmatches hpattern
  | noOperand _ _ hnil =>
    rw [hnil] at hany
    exact nomatch hany
  | container _ _ hscalar => exact nomatch hlist.symm.trans hscalar

/-- A comparison is written exactly if it is neither refused nor astray. -/
theorem exists_renderComparison_iff : (∃ text, renderComparison catalog c = .ok text) ↔
    ¬ Astray catalog c ∧ ∀ r, ¬ Refused catalog c r := by
  rw [← exists_fault_iff]
  simp only [← renderComparison_eq_filter_iff]
  cases h : renderComparison catalog c with
  | ok text => simp
  | error e =>
    rcases refused_or_astray h with ⟨r, rfl, -⟩ | ⟨⟨fault, rfl⟩, -⟩
    · simp
    · simp

/-- **What becomes of a container.**  Take a filter with a comparison that has a
container for an operand.  If it takes one operand the filter has no text, and it is
refused unless a leaf goes astray before any is refused.  If it takes a list each
container in it is written between quotes, and whether the filter has a text is up to
its other leaves and to operands out of range. -/
theorem render_composite (hmem : c ∈ t.leaves) (hknown : catalog.has c.field = true)
    (hc : c.isComposite = true) :
    (c.comparator.takesList = false →
      renderComparison catalog c = .error (.filter (.needsScalar c.comparator c.field)) ∧
      (∀ text, render catalog t ≠ .ok text) ∧
      ((∃ r, render catalog t = .error (.filter r)) ↔
        ∀ before b, FirstUnwritten catalog t before b → ¬ Astray catalog b)) ∧
    (c.comparator.takesList = true →
      (∀ f, ∀ v ∈ operandsIn c.operand, isContainer v = true →
        literal f v = .ok (quote v.display)) ∧
      (∀ r, renderComparison catalog c ≠ .error (.filter r)) ∧
      ((∃ text, render catalog t = .ok text) ↔
        ∀ b ∈ t.leaves, ¬ Astray catalog b ∧ (b ≠ c → ∀ r, ¬ Refused catalog b r))) := by
  constructor
  · intro hscalar
    have hrefused := renderComparison_eq_filter_iff.2 (refused_of_isComposite hknown hc hscalar)
    have hno : ∀ text, render catalog t ≠ .ok text := by
      intro text htext
      obtain ⟨leaf, hleaf⟩ := (exists_render_iff catalog t).1 ⟨text, htext⟩ c hmem
      exact nomatch hrefused.symm.trans hleaf
    refine ⟨hrefused, hno, ?_⟩
    constructor
    · rintro ⟨r, hr⟩ before b hfirst hastray
      obtain ⟨fault, hfault⟩ := exists_fault_iff.2 hastray
      exact nomatch hr.symm.trans (render_eq_error_iff.2 ⟨before, b, hfirst, hfault⟩)
    · intro hastray
      cases hrender : render catalog t with
      | ok text => exact absurd hrender (hno text)
      | error e =>
        obtain ⟨before, b, hfirst, hb⟩ := render_eq_error_iff.1 hrender
        rcases refused_or_astray hb with ⟨r, rfl, -⟩ | ⟨-, hb⟩
        · exact ⟨r, rfl⟩
        · exact absurd hb (hastray before b hfirst)
  · intro hlist
    refine ⟨fun f v _ hv => literal_of_isContainer f hv, ?_, ?_⟩
    · intro r hr
      exact not_refused_of_isComposite hknown hc hlist r (renderComparison_eq_filter_iff.1 hr)
    · rw [exists_render_iff]
      refine forall₂_congr fun b _ => ?_
      rw [exists_renderComparison_iff]
      refine and_congr_right fun _ => ⟨fun h _ => h, fun h r => ?_⟩
      by_cases hb : b = c
      · rw [hb]
        exact not_refused_of_isComposite hknown hc hlist r
      · exact h hb r

/-- A disjunction with a comparison of a field with a list, two groups deep. -/
def nestedList : Tree :=
  .group .any true
    [.leaf ⟨"Name", .eq, .text "Acme"⟩,
      .group .all true
        [.leaf ⟨"Employees", .gt, .int 10⟩, .leaf ⟨"Name", .ne, .list [.text "a", .null]⟩]]

/-- `render_composite` for that list. -/
theorem render_composite_nestedList :
    (⟨"Name", .ne, .list [.text "a", .null]⟩ : Comparison) ∈ nestedList.leaves ∧
      kindsCatalog.has "Name" = true ∧
      (⟨"Name", .ne, .list [.text "a", .null]⟩ : Comparison).isComposite = true ∧
      (∀ text, render kindsCatalog nestedList ≠ .ok text) ∧
      renderComparison kindsCatalog ⟨"Name", .ne, .list [.text "a", .null]⟩
        = .error (.filter (.needsScalar .ne "Name")) := by
  have hmem : (⟨"Name", .ne, .list [.text "a", .null]⟩ : Comparison) ∈ nestedList.leaves := by
    decide
  have hknown : kindsCatalog.has "Name" = true := by decide
  have hc : (⟨"Name", .ne, .list [.text "a", .null]⟩ : Comparison).isComposite = true := by decide
  obtain ⟨hleaf, hno, -⟩ := (render_composite hmem hknown hc).1 rfl
  exact ⟨hmem, hknown, hc, hno, hleaf⟩

/-- A comparison of a field with a list whose only member is an object. -/
def listedObject : Comparison := ⟨"Name", .isIn, .list [.object [("a", .int 1)]]⟩

/-- **A container in a list is written as a text.**  So a filter with a container for an
operand need not be refused. -/
theorem listedObject_written :
    render kindsCatalog (.leaf listedObject) = .ok "Name IN ('\x7b\\'a\\': 1\x7d')" ∧
      ¬ ∀ (catalog : Catalog) (t : Tree), (∃ c ∈ t.leaves, catalog.has c.field = true ∧
        c.isComposite = true) → ∃ r, render catalog t = .error (.filter r) := by
  have hparts : render kindsCatalog (.leaf listedObject) = .ok ("Name" ++ " IN " ++
      ("(" ++ Value.joined "," [quote (Value.object [("a", .int 1)]).display] ++ ")")) := rfl
  have htext : "Name" ++ " IN " ++
      ("(" ++ Value.joined "," [quote (Value.object [("a", .int 1)]).display] ++ ")")
        = "Name IN ('\x7b\\'a\\': 1\x7d')" := by
    decide +kernel
  have hwritten := hparts.trans (congrArg Except.ok htext)
  refine ⟨hwritten, fun hall => ?_⟩
  obtain ⟨r, hr⟩ := hall kindsCatalog (.leaf listedObject)
    ⟨listedObject, List.mem_singleton_self _, by decide, by decide⟩
  exact nomatch hwritten.symm.trans hr

end Filter
end RecordBridge
