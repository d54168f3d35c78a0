/-
# The projection that a catalog grants

A projection asks for names, requested ones before default ones, and any of them
may come again.  What is kept of them is `Selects`: the names that the type has,
each once, in the order in which they first come.  Such a list is determined by
that (`Selects.unique`), so a projection that is asked for again is granted as it
is.

The warnings are a selection too, of the requested names that neither the type
nor the defaults have (`projection_selects`).
-/

import Mathlib.Data.List.Induction
import Mathlib.Data.List.Nodup
import RecordBridge.Catalog.Gate

namespace RecordBridge
namespace Catalog
namespace Gate

/-- The names of a list that have a property, each once, in the order in which they
first come there. -/
structure Selects (names : List String) (p : String → Prop) (kept : List String) : Prop where
  mem_iff : ∀ name, name ∈ kept ↔ name ∈ names ∧ p name
  ordered : kept.Pairwise fun a b => names.idxOf a < names.idxOf b

variable {catalog : Catalog} {names requested defaults kept : List String} {p : String → Prop}

namespace Selects

theorem nodup (h : Selects names p kept) : kept.Nodup := by
  refine h.ordered.imp ?_
  rintro a b hlt rfl
  exact Nat.lt_irrefl _ hlt

/-- There is one selection. -/
theorem unique {other : List String} (h : Selects names p kept) (h' : Selects names p other) :
    kept = other := by
  have hperm : kept.Perm other := by
    rw [List.perm_ext_iff_of_nodup h.nodup h'.nodup]
    intro name
    rw [h.mem_iff, h'.mem_iff]
  refine hperm.eq_of_pairwise ?_ h.ordered h'.ordered
  intro a b _ _ hab hba
  exact absurd hba (Nat.lt_asymm hab)

/-- A part of a selection is one, by a property more. -/
theorem filter (h : Selects names p kept) (q : String → Bool) :
    Selects names (fun name => p name ∧ q name = true) (kept.filter q) where
  mem_iff name := by rw [List.mem_filter, h.mem_iff, and_assoc]
  ordered := h.ordered.filter q

theorem congr {q : String → Prop} (h : Selects names p kept) (hq : ∀ name, p name ↔ q name) :
    Selects names q kept where
  mem_iff name := by rw [h.mem_iff, hq]
  ordered := h.ordered

/-- A selection is selected from itself, whatever comes behind it that was selected
already. -/
theorem append (h : Selects names p kept) (more : List String)
    (hmore : ∀ name ∈ more, p name → name ∈ kept) : Selects (kept ++ more) p kept where
  mem_iff name := by
    constructor
    · intro hname
      exact ⟨List.mem_append_left _ hname, ((h.mem_iff name).1 hname).2⟩
    · rintro ⟨hname, hp⟩
      obtain hname | hname := List.mem_append.1 hname
      · exact hname
      · exact hmore name hname hp
  ordered := by
    rw [List.pairwise_iff_getElem]
    intro i j hi hj hij
    rw [List.idxOf_append_of_mem (List.getElem_mem hi), List.idxOf_append_of_mem
      (List.getElem_mem hj), h.nodup.idxOf_getElem, h.nodup.idxOf_getElem]
    exact hij

end Selects

/-! ### Names without repetitions -/

/-- One more name is taken up behind the others, unless it was there. -/
theorem distinct_concat (names : List String) (name : String) :
    distinct (names ++ [name])
      = if name ∈ distinct names then distinct names else distinct names ++ [name] := by
  rw [distinct, List.foldl_append, List.foldl_cons, List.foldl_nil]
  by_cases h : name ∈ distinct names
  · have hseen := List.mem_reverse.1 h
    rw [if_pos h, if_pos (List.contains_iff_mem.2 hseen)]
    rfl
  · have hnew := mt List.mem_reverse.2 h
    rw [if_neg h, if_neg (mt List.contains_iff_mem.1 hnew), List.reverse_cons]
    rfl

/-- **The distinct names are the first occurrences of the names.**  The induction is
on prefixes: a name that comes for the first time stands behind all that were
selected. -/
theorem selects_distinct (names : List String) :
    Selects names (fun _ => True) (distinct names) := by
  induction names using List.reverseRecOn with
  | nil => exact ⟨fun _ => by simp [distinct], .nil⟩
  | append_singleton names name ih =>
    have hmem : ∀ n ∈ distinct names, n ∈ names := fun n hn => ((ih.mem_iff n).1 hn).1
    have hordered : (distinct names).Pairwise fun a b =>
        (names ++ [name]).idxOf a < (names ++ [name]).idxOf b := by
      refine ih.ordered.imp_of_mem fun {a b} ha hb hab => ?_
      rw [List.idxOf_append_of_mem (hmem a ha), List.idxOf_append_of_mem (hmem b hb)]
      exact hab
    rw [distinct_concat]
    split
    · next hseen =>
      refine ⟨fun n => ?_, hordered⟩
      rw [ih.mem_iff, List.mem_append, List.mem_singleton]
      constructor
      · rintro ⟨hn, -⟩
        exact ⟨.inl hn, trivial⟩
      · rintro ⟨hn | rfl, -⟩
        · exact ⟨hn, trivial⟩
        · exact ⟨hmem n hseen, trivial⟩
    · next hnew =>
      refine ⟨fun n => ?_, ?_⟩
      · rw [List.mem_append, List.mem_append, ih.mem_iff]
        simp
      · rw [List.pairwise_append]
        refine ⟨hordered, List.pairwise_singleton _ _, ?_⟩
        intro a ha b hb
        obtain rfl := List.mem_singleton.1 hb
        have habsent : b ∉ names := fun hb => hnew ((ih.mem_iff b).2 ⟨hb, trivial⟩)
        rw [List.idxOf_append_of_mem (hmem a ha), List.idxOf_append_of_notMem habsent]
        exact Nat.lt_of_lt_of_le (List.idxOf_lt_length_iff.2 (hmem a ha)) (Nat.le_add_right _ _)

/-! ### The projection -/

theorem selects_projection (catalog : Catalog) (requested defaults : List String) :
    Selects (requested ++ defaults) (fun name => catalog.has name = true)
      (projection catalog requested defaults) :=
  ((selects_distinct _).filter catalog.has).congr fun _ => by rw [true_and]

theorem nodup_projection (catalog : Catalog) (requested defaults : List String) :
    (projection catalog requested defaults).Nodup :=
  (selects_projection catalog requested defaults).nodup

/-- A default that the catalog has is asked for. -/
theorem mem_projection {name : String} (hname : name ∈ defaults) (h : catalog.has name = true) :
    name ∈ projection catalog requested defaults :=
  ((selects_projection catalog requested defaults).mem_iff name).2
    ⟨List.mem_append_right _ hname, h⟩

theorem has_of_mem_projection {name : String} (h : name ∈ projection catalog requested defaults) :
    catalog.has name = true :=
  (((selects_projection catalog requested defaults).mem_iff name).1 h).2

end Gate
end Catalog
end RecordBridge
