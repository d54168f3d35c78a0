/-
# The fields that a condition looks at

A filter document mentions names: the keys in it, at any depth, that are no
operators (`Value.fieldKeys`).  Some of them are no fields, such as those in an
operand that is an object; but every comparison of the document is on one of them
(`field_mem_fieldKeys`).

What is written for a comparison depends on its field alone, and so what is written
for a filter depends on the fields of its leaves (`render_congr`).  One thing looks
further.  A field that the catalog lacks is refused with the names of all the fields
that it has, and that is the only way in which two catalogs can differ that agree on
the names of a document (`renderDocument_eq_or_unknown`).
-/

import RecordBridge.Proofs.Catalog.Agreement
import RecordBridge.Proofs.Condition.Demands
import RecordBridge.Proofs.Condition.Refusals

namespace RecordBridge

/-! ### Names in a document -/

namespace Value

mutual
/-- The keys in a value, at any depth, that are no operators. -/
def fieldKeys : Value → List String
  | .object es => entryKeys es
  | .list vs | .tuple vs | .set vs => memberKeys vs
  | _ => []

/-- The keys of entries and in their values that are no operators. -/
def entryKeys : List (String × Value) → List String
  | [] => []
  | (key, v) :: es =>
    (if Filter.isOperatorKey key then [] else [key]) ++ fieldKeys v ++ entryKeys es

/-- The keys in several values that are no operators. -/
def memberKeys : List Value → List String
  | [] => []
  | v :: vs => fieldKeys v ++ memberKeys vs
end

variable {name : String}

theorem mem_entryKeys_iff {es : Object} : name ∈ entryKeys es ↔
    ∃ e ∈ es, (Filter.isOperatorKey e.1 = false ∧ name = e.1) ∨ name ∈ fieldKeys e.2 := by
  induction es with
  | nil => simp [entryKeys]
  | cons e es ih =>
    obtain ⟨key, v⟩ := e
    have hkey : name ∈ (if Filter.isOperatorKey key then [] else [key]) ↔
        Filter.isOperatorKey key = false ∧ name = key := by
      cases Filter.isOperatorKey key <;> simp
    rw [entryKeys, List.mem_append, List.mem_append, hkey, ih, List.exists_mem_cons_iff]

theorem mem_memberKeys_iff {vs : List Value} :
    name ∈ memberKeys vs ↔ ∃ v ∈ vs, name ∈ fieldKeys v := by
  induction vs with
  | nil => simp [memberKeys]
  | cons v vs ih => rw [memberKeys, List.mem_append, ih, List.exists_mem_cons_iff]

theorem fieldKeys_of_members? {v : Value} {vs : List Value} (h : v.members? = some vs) :
    v.fieldKeys = memberKeys vs := by
  cases v with
  | list us | tuple us =>
    obtain rfl := Option.some.inj h
    rfl
  | _ => exact nomatch h

/-- Without one of its keys an object mentions no more than with it. -/
theorem entryKeys_erase_subset (es : Object) (key : String) :
    entryKeys (es.erase key) ⊆ entryKeys es := by
  intro name hname
  obtain ⟨e, he, h⟩ := mem_entryKeys_iff.1 hname
  exact mem_entryKeys_iff.2 ⟨e, List.mem_of_mem_filter he, h⟩

end Value

namespace Filter

open Filter.Tree

variable {catalog other : Catalog} {c : Comparison} {t : Tree} {field : String} {v : Value}

theorem field_of_mem_plainField (h : c ∈ (plainField field v).leaves) : c.field = field := by
  cases v with
  | object es =>
    rw [plainField, leaves, leavesAll_eq_flatMap, List.mem_flatMap] at h
    obtain ⟨t, ht, hc⟩ := h
    obtain ⟨e, -, he⟩ := List.mem_filterMap.1 ht
    obtain ⟨k, -, rfl⟩ := Option.map_eq_some_iff.1 he
    rw [List.mem_singleton.1 hc]
  | _ => rw [List.mem_singleton.1 h]

/-- **The comparisons of a filter document are on fields that it mentions.** -/
theorem field_mem_fieldKeys (hv : IsDocument v) (hc : c ∈ v.conditions) :
    c.field ∈ v.fieldKeys := by
  induction v using Value.documentInduction with
  | object es ih =>
    rw [conditions_object, List.mem_flatMap] at hc
    obtain ⟨⟨key, w⟩, he, hc⟩ := hc
    refine Value.mem_entryKeys_iff.2 ⟨_, he, ?_⟩
    have hfield : isOperatorKey key = false →
        isOperatorKey key = false ∧ c.field = key := by
      intro hkey
      rw [plainEntry, Connective.ofKey?_eq_none hkey] at hc
      exact ⟨hkey, field_of_mem_plainField hc⟩
    cases isDocument_object_iff.1 hv _ he with
    | @group _ _ k vs hkey hlist members =>
      rw [plainEntry, Connective.ofKey?_eq_some_iff.2 hkey, Value.plainMembers_eq hlist] at hc
      dsimp only at hc
      rw [leaves, leavesAll_eq_flatMap, List.flatMap_map, List.mem_flatMap] at hc
      obtain ⟨m, hm, hc⟩ := hc
      have hmember := ih _ he vs hlist m hm (members m hm) hc
      rw [Value.fieldKeys_of_members? hlist]
      exact .inr (Value.mem_memberKeys_iff.2 ⟨m, hm, hmember⟩)
    | bare hkey _ => exact .inl (hfield hkey)
    | operators hkey _ _ => exact .inl (hfield hkey)
  | other v hobject =>
    cases v with
    | object es => exact absurd hobject (Option.some_ne_none es)
    | _ => exact absurd hc List.not_mem_nil

/-- The leaves of the tree of a document are on fields that the document mentions. -/
theorem leaf_mem_fieldKeys (h : parse v = .ok (some t)) (hc : c ∈ t.leaves) :
    c.field ∈ v.fieldKeys := by
  refine field_mem_fieldKeys ((exists_parse_iff v).1 ⟨_, h⟩) ?_
  rw [← leaves_eq_conditions h]
  simpa using hc

/-! ### What is written through two catalogs -/

/-- What is written for a comparison depends on its field, if the catalog has it. -/
theorem renderComparison_congr (h : catalog.get? c.field = other.get? c.field)
    (hknown : catalog.get? c.field ≠ none) :
    renderComparison catalog c = renderComparison other c := by
  obtain ⟨f, hf⟩ := Option.ne_none_iff_exists'.1 hknown
  rw [renderComparison, renderComparison, ← h, hf]

theorem renderComparison_of_unknown (h : catalog.get? c.field = none) :
    renderComparison catalog c = .error (unknownField c.field catalog) := by
  rw [renderComparison, h]

/-- Whether a comparison can be written depends on its field. -/
theorem renderComparison_eq_ok_congr {text : String}
    (h : catalog.get? c.field = other.get? c.field) :
    renderComparison catalog c = .ok text ↔ renderComparison other c = .ok text := by
  cases hf : catalog.get? c.field with
  | none =>
    rw [renderComparison_of_unknown hf, renderComparison_of_unknown (h ▸ hf)]
    exact iff_of_false (fun h => Outcome.ok_ne_error h.symm) fun h => Outcome.ok_ne_error h.symm
  | some f => rw [renderComparison_congr h (by rw [hf]; exact Option.some_ne_none f)]

/-- **What is written for a filter depends on what is written for its leaves.** -/
theorem render_congr (h : ∀ c ∈ t.leaves, renderComparison catalog c = renderComparison other c) :
    render catalog t = render other t := by
  induction t using membersInduction with
  | leaf c => exact h c (List.mem_singleton_self c)
  | group connective grouped members ih =>
    rw [leaves, leavesAll_eq_flatMap] at h
    have hmembers : ∀ t ∈ members, render catalog t = render other t :=
      fun t ht => ih t ht fun c hc => h c (List.mem_flatMap.2 ⟨t, ht, hc⟩)
    have hall : renderAll catalog members = renderAll other members := by
      rw [renderAll_eq, renderAll_eq]
      exact Outcome.mapM_congr hmembers
    rw [render, render, hall]

theorem FirstUnwritten.congr {before : List Comparison}
    (h : ∀ c ∈ t.leaves, catalog.get? c.field = other.get? c.field)
    (hfirst : FirstUnwritten catalog t before c) : FirstUnwritten other t before c := by
  obtain ⟨after, hsplit⟩ := hfirst.split
  have hmem : ∀ b ∈ before, b ∈ t.leaves :=
    fun b hb => hsplit ▸ List.mem_append_left _ hb
  have hc : c ∈ t.leaves := hsplit ▸ List.mem_append_right _ List.mem_cons_self
  refine ⟨hfirst.split, fun b hb => ?_, fun text htext => ?_⟩
  · obtain ⟨text, htext⟩ := hfirst.before b hb
    exact ⟨text, (renderComparison_eq_ok_congr (h b (hmem b hb))).1 htext⟩
  · exact hfirst.failed text ((renderComparison_eq_ok_congr (h c hc)).2 htext)

/-- Whether writing a filter stops at a field that the catalog lacks: the first leaf that
cannot be written is on it. -/
structure StopsAtUnknown (catalog : Catalog) (t : Tree) (field : String) : Prop where
  lacks : catalog.get? field = none
  first : ∃ before c, FirstUnwritten catalog t before c ∧ c.field = field

theorem StopsAtUnknown.render_eq (h : StopsAtUnknown catalog t field) :
    render catalog t = .error (unknownField field catalog) := by
  obtain ⟨before, c, hfirst, rfl⟩ := h.first
  exact render_eq_error_iff.2 ⟨before, c, hfirst, renderComparison_of_unknown h.lacks⟩

theorem StopsAtUnknown.congr (h : ∀ c ∈ t.leaves, catalog.get? c.field = other.get? c.field)
    (hstops : StopsAtUnknown catalog t field) : StopsAtUnknown other t field := by
  obtain ⟨before, c, hfirst, rfl⟩ := hstops.first
  obtain ⟨after, hsplit⟩ := hfirst.split
  have hc : c ∈ t.leaves := hsplit ▸ List.mem_append_right _ List.mem_cons_self
  exact ⟨(h c hc).symm.trans hstops.lacks, before, c, hfirst.congr h, rfl⟩

/-- **The same is written through catalogs that agree on the fields of a filter**, unless
that stops at a field that they lack. -/
theorem render_eq_or_unknown (h : ∀ c ∈ t.leaves, catalog.get? c.field = other.get? c.field) :
    render catalog t = render other t ∨ ∃ field, StopsAtUnknown catalog t field := by
  cases hrender : render catalog t with
  | ok text =>
    have hleaves := (exists_render_iff catalog t).1 ⟨text, hrender⟩
    refine .inl (hrender.symm.trans (render_congr fun c hc => ?_))
    obtain ⟨leaf, hleaf⟩ := hleaves c hc
    rw [hleaf, (renderComparison_eq_ok_congr (h c hc)).1 hleaf]
  | error e =>
    obtain ⟨before, c, hfirst, hc⟩ := render_eq_error_iff.1 hrender
    obtain ⟨after, hsplit⟩ := hfirst.split
    have hmem : c ∈ t.leaves := hsplit ▸ List.mem_append_right _ List.mem_cons_self
    by_cases hf : catalog.get? c.field = none
    · exact .inr ⟨c.field, hf, before, c, hfirst, rfl⟩
    · rw [renderComparison_congr (h c hmem) hf] at hc
      exact .inl (render_eq_error_iff.2 ⟨before, c, hfirst.congr h, hc⟩).symm

/-- The same for the text of a document, and catalogs that agree on the names in it. -/
theorem renderDocument_eq_or_unknown (h : catalog.AgreesOn other v.fieldKeys) :
    renderDocument catalog v = renderDocument other v ∨
      ∃ t field, parse v = .ok (some t) ∧ StopsAtUnknown catalog t field := by
  cases hcondition : conditionOf v with
  | error e => exact .inl (by rw [renderDocument, renderDocument, hcondition]; rfl)
  | ok found =>
    have hparse := conditionOf_eq_ok_iff.1 hcondition
    cases found with
    | none =>
      rw [renderDocument_of_parse_none hparse, renderDocument_of_parse_none hparse]
      exact .inl rfl
    | some t =>
      rw [renderDocument_of_parse hparse, renderDocument_of_parse hparse]
      refine (render_eq_or_unknown fun c hc => h _ (leaf_mem_fieldKeys hparse hc)).imp_right ?_
      rintro ⟨field, hstops⟩
      exact ⟨t, field, hparse, hstops⟩

end Filter
end RecordBridge
