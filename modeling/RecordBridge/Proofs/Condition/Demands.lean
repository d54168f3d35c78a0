/-
# What a filter demands

A filter demands a comparison if it has it for a leaf and holds only where the
comparison does.  The keys of a document stand side by side, and so do the
operators on one field: whatever else there is in a document, it demands the
comparison with each operator under each of its fields (`demands_parse`).

The text of a document requires what the document demands
(`requires_of_demands`).
-/

import RecordBridge.Proofs.Condition.Meaning

namespace RecordBridge
namespace Filter

namespace Tree

/-- Whether a comparison is a leaf of a filter and holds where the filter
does. -/
structure Demands (t : Tree) (c : Comparison) : Prop where
  mem : c ∈ t.leaves
  holds : ∀ v, t.holds v = true → v c = true

theorem demands_leaf (c : Comparison) : (leaf c).Demands c where
  mem := List.mem_singleton_self c
  holds _ h := h

theorem mem_leavesAll {ts : List Tree} {t : Tree} {c : Comparison} (ht : t ∈ ts)
    (hc : c ∈ t.leaves) : c ∈ leavesAll ts := by
  induction ts with
  | nil => exact nomatch ht
  | cons u us ih =>
    rw [leavesAll, List.mem_append]
    obtain rfl | ht := List.mem_cons.1 ht
    · exact .inl hc
    · exact .inr (ih ht)

theorem holds_of_holdsAll {ts : List Tree} {t : Tree} {v : Comparison → Bool}
    (h : holdsAll v ts = true) (ht : t ∈ ts) : t.holds v = true := by
  induction ts with
  | nil => exact nomatch ht
  | cons u us ih =>
    rw [holdsAll, Bool.and_eq_true] at h
    obtain rfl | ht := List.mem_cons.1 ht
    · exact h.1
    · exact ih h.2 ht

/-- A conjunction demands what one of its members demands. -/
theorem Demands.conjunction {ts : List Tree} {t : Tree} {c : Comparison} (hc : t.Demands c)
    (ht : t ∈ ts) : ∃ u, conjunction? ts = some u ∧ u.Demands c := by
  unfold conjunction?
  split
  · exact nomatch ht
  · obtain rfl := List.mem_singleton.1 ht
    exact ⟨t, rfl, hc⟩
  · exact ⟨_, rfl, mem_leavesAll ht hc.mem, fun v h => hc.holds v (holds_of_holdsAll h ht)⟩

end Tree

open Filter.Tree

/-! ### Documents -/

theorem leaf_mem_parseOperators {field : String} {es : Object} {ts : List Tree} {k : Comparator}
    {operand : Value} (h : parseOperators field es = .ok ts)
    (hk : Entries.get? es k.key = some operand) : Tree.leaf ⟨field, k, operand⟩ ∈ ts := by
  induction es generalizing ts with
  | nil => exact nomatch hk
  | cons e es ih =>
    obtain ⟨key, v⟩ := e
    obtain ⟨t, ht, h⟩ := Outcome.bind_eq_ok_iff.1 h
    obtain ⟨us, hus, h⟩ := Outcome.bind_eq_ok_iff.1 h
    obtain rfl := Except.ok.inj h
    rw [Entries.get?_cons] at hk
    split at hk
    · next hkey =>
      obtain rfl := Option.some.inj hk
      rw [parseOperator, ← hkey, Comparator.ofKey?_key] at ht
      obtain rfl := Except.ok.inj ht
      exact List.mem_cons_self
    · exact List.mem_cons_of_mem _ (ih hus hk)

/-- The condition on a field demands the comparison with each of its
operators. -/
theorem demands_entryCondition {field : String} {condition : Object} {found : Option Tree}
    {k : Comparator} {operand : Value}
    (h : entryCondition field (.object condition) none = .ok found)
    (hk : Entries.get? condition k.key = some operand) :
    ∃ t, found = some t ∧ t.Demands ⟨field, k, operand⟩ := by
  unfold entryCondition at h
  split at h
  · -- no connective has an object for its value
    cases hc : Connective.ofKey? field with
    | none =>
      rw [hc] at h
      exact nomatch h
    | some c =>
      rw [hc] at h
      exact nomatch h
  · cases condition with
    | nil => exact nomatch hk
    | cons e es =>
      obtain ⟨ts, hts, rfl⟩ := Outcome.map_eq_ok_iff.1 h
      exact (demands_leaf _).conjunction (leaf_mem_parseOperators hts hk)

theorem exists_demands_parseEntries {field : String} {es condition : Object} {ts : List Tree}
    {k : Comparator} {operand : Value} (h : parseEntries es = .ok ts)
    (hfield : Entries.get? es field = some (.object condition))
    (hk : Entries.get? condition k.key = some operand) :
    ∃ t ∈ ts, t.Demands ⟨field, k, operand⟩ := by
  induction es generalizing ts with
  | nil => exact nomatch hfield
  | cons e es ih =>
    obtain ⟨key, v⟩ := e
    rw [parseEntries] at h
    obtain ⟨found, hfound, h⟩ := Outcome.bind_eq_ok_iff.1 h
    obtain ⟨us, hus, h⟩ := Outcome.bind_eq_ok_iff.1 h
    obtain rfl := Except.ok.inj h
    rw [Entries.get?_cons] at hfield
    split at hfield
    · next hkey =>
      obtain rfl := hkey
      obtain rfl := Option.some.inj hfield
      obtain ⟨t, rfl, ht⟩ := demands_entryCondition hfound hk
      exact ⟨t, List.mem_append_left _ (List.mem_singleton_self t), ht⟩
    · obtain ⟨t, hmem, ht⟩ := ih hus hfield
      exact ⟨t, List.mem_append_right _ hmem, ht⟩

/-- **A document demands each comparison with an operator under one of its
fields.** -/
theorem demands_parse {field : String} {es condition : Object} {found : Option Tree}
    {k : Comparator} {operand : Value} (h : parse (.object es) = .ok found)
    (hfield : Entries.get? es field = some (.object condition))
    (hk : Entries.get? condition k.key = some operand) :
    ∃ t, found = some t ∧ t.Demands ⟨field, k, operand⟩ := by
  rw [parse] at h
  obtain ⟨ts, hts, rfl⟩ := Outcome.map_eq_ok_iff.1 h
  obtain ⟨t, hmem, ht⟩ := exists_demands_parseEntries hts hfield hk
  exact ht.conjunction hmem

/-! ### Texts -/

mutual
/-- A filter can be written exactly if each of its comparisons can. -/
theorem exists_render_iff (catalog : Catalog) : ∀ t : Tree,
    (∃ text, render catalog t = .ok text) ↔
      ∀ c ∈ t.leaves, ∃ leaf, renderComparison catalog c = .ok leaf
  | .leaf c => by simp only [render, Tree.leaves, List.mem_singleton, forall_eq]
  | .group _ _ members => by
    rw [Tree.leaves, ← exists_renderAll_iff catalog members]
    constructor
    · rintro ⟨_, h⟩
      obtain ⟨parts, hparts, -⟩ := Outcome.bind_eq_ok_iff.1 h
      exact ⟨parts, hparts⟩
    · rintro ⟨parts, hparts⟩
      exact ⟨_, Outcome.bind_eq_ok_iff.2 ⟨parts, hparts, rfl⟩⟩

/-- Filters can be written exactly if each of their comparisons can. -/
theorem exists_renderAll_iff (catalog : Catalog) : ∀ ts : List Tree,
    (∃ parts, renderAll catalog ts = .ok parts) ↔
      ∀ c ∈ Tree.leavesAll ts, ∃ leaf, renderComparison catalog c = .ok leaf
  | [] => by simp [renderAll, Tree.leavesAll]
  | t :: ts => by
    rw [Tree.leavesAll, List.forall_mem_append, ← exists_render_iff catalog t,
      ← exists_renderAll_iff catalog ts]
    constructor
    · rintro ⟨_, h⟩
      obtain ⟨s, hs, h⟩ := Outcome.bind_eq_ok_iff.1 h
      obtain ⟨ss, hss, -⟩ := Outcome.bind_eq_ok_iff.1 h
      exact ⟨⟨s, hs⟩, ss, hss⟩
    · rintro ⟨⟨s, hs⟩, ss, hss⟩
      exact ⟨_, Outcome.bind_eq_ok_iff.2 ⟨s, hs, Outcome.bind_eq_ok_iff.2 ⟨ss, hss, rfl⟩⟩⟩
end

/-- Whether all comparisons of a document but one can be written. -/
def RendersBeside (catalog : Catalog) (document : Value) (c : Comparison) : Prop :=
  ∃ t, parse document = .ok (some t) ∧
    ∀ other ∈ t.leaves, other ≠ c → ∃ leaf, renderComparison catalog other = .ok leaf

/-- Whether a condition that says what a document says has a text for a leaf,
and holds only where that leaf does. -/
def Requires (catalog : Catalog) (document : Value) (condition leaf : String) : Prop :=
  ∃ t d, parse document = .ok (some t) ∧ AnyOf.Says catalog t condition d ∧ leaf ∈ d.leaves ∧
    ∀ v, d.holds v = true → v leaf = true

/-- **The text of a document requires what is written for a comparison that the
document demands.** -/
theorem requires_of_demands {catalog : Catalog} {document : Value} {t : Tree} {text : String}
    {c : Comparison} (hparse : parse document = .ok (some t)) (hdemands : t.Demands c)
    (h : renderDocument catalog document = .ok text) :
    ∃ leaf, renderComparison catalog c = .ok leaf ∧ Requires catalog document text leaf := by
  rw [renderDocument_of_parse hparse] at h
  have hd := (says_derivation catalog t (shaped_parse document hparse t rfl) h).toAnyOf
  have hmem : renderComparison catalog c ∈
      (AnyOf.one (t.derivation catalog)).leaves.map Except.ok := by
    rw [hd.leaves_eq]
    exact List.mem_map_of_mem hdemands.mem
  obtain ⟨leaf, hleaf, hrender⟩ := List.mem_map.1 hmem
  refine ⟨leaf, hrender.symm, t, _, hparse, hd, hleaf, fun v hv => ?_⟩
  rw [hd.holds_eq] at hv
  have hc := hdemands.holds _ hv
  rw [leafHolds, ← hrender] at hc
  exact hc

end Filter
end RecordBridge
