/-
# Entries under a key

What a list of entries gives for a key, and what setting a key does to it.  A
key that is new goes to the end, another keeps its place, and no key comes to be
given twice.  Where none is, the value of a key is the one that stands with it.
-/

import Mathlib.Data.List.Nodup
import RecordBridge.Value.Entries

namespace RecordBridge
namespace Entries

variable {α : Type} {es : Entries α} {key : String} {value : α}

/-! ### Looking up -/

theorem get?_ne_none_iff : es.get? key ≠ none ↔ key ∈ es.keys := by
  induction es with
  | nil => simp [keys]
  | cons e es ih =>
    obtain ⟨k, v⟩ := e
    have hkeys : keys ((k, v) :: es) = k :: keys es := rfl
    rw [get?_cons, hkeys, List.mem_cons, ← ih]
    by_cases hk : key = k
    · simp [hk]
    · simp [hk]

/-- The keys are what there is a value for. -/
theorem mem_keys_iff_exists : key ∈ es.keys ↔ ∃ value, es.get? key = some value := by
  rw [← get?_ne_none_iff, Option.ne_none_iff_exists']

/-- Where no key is given twice, the value of a key is the one that stands with it. -/
theorem get?_eq_some_iff (h : es.keys.Nodup) : es.get? key = some value ↔ (key, value) ∈ es := by
  induction es with
  | nil => simp
  | cons e es ih =>
    obtain ⟨k, v⟩ := e
    obtain ⟨hnew, hrest⟩ := List.nodup_cons.1 h
    rw [get?_cons, List.mem_cons, Prod.mk.injEq]
    by_cases hk : key = k
    · subst hk
      have habsent : (key, value) ∉ es := fun hmem => hnew (List.mem_map.2 ⟨_, hmem, rfl⟩)
      simp [habsent, eq_comm]
    · simp [hk, ih hrest]

/-- A value that is found stands with its key, be it given twice or not. -/
theorem mem_of_get? (h : es.get? key = some value) : (key, value) ∈ es := by
  induction es with
  | nil => exact nomatch h
  | cons e es ih =>
    obtain ⟨k, w⟩ := e
    rw [get?_cons] at h
    by_cases hk : key = k
    · rw [if_pos hk] at h
      obtain rfl := Option.some.inj h
      exact hk ▸ List.mem_cons_self
    · rw [if_neg hk] at h
      exact List.mem_cons_of_mem _ (ih h)

/-- Where no key is given twice, a key that is found stands between entries that are what
is left without it. -/
theorem exists_split_of_get? (h : es.get? key = some value) (hkeys : es.keys.Nodup) :
    ∃ before after, es = before ++ (key, value) :: after ∧ es.erase key = before ++ after := by
  induction es with
  | nil => exact nomatch h
  | cons e es ih =>
    obtain ⟨k, w⟩ := e
    obtain ⟨hnew, hkeys⟩ := List.nodup_cons.1 hkeys
    rw [get?_cons] at h
    by_cases hk : key = k
    · rw [if_pos hk] at h
      obtain rfl := Option.some.inj h
      subst hk
      have hrest : erase es key = es := by
        refine List.filter_eq_self.2 fun x hx => decide_eq_true ?_
        rintro rfl
        exact hnew (List.mem_map.2 ⟨x, hx, rfl⟩)
      have hfirst : erase ((key, w) :: es) key = erase es key :=
        List.filter_cons_of_neg (by simp)
      exact ⟨[], es, rfl, hfirst.trans hrest⟩
    · rw [if_neg hk] at h
      obtain ⟨before, after, rfl, hrest⟩ := ih h hkeys
      have hfirst : erase ((k, w) :: (before ++ (key, value) :: after)) key
          = (k, w) :: erase (before ++ (key, value) :: after) key :=
        List.filter_cons_of_pos (decide_eq_true (Ne.symm hk))
      exact ⟨(k, w) :: before, after, rfl, by rw [hfirst, hrest, List.cons_append]⟩

/-! ### Setting -/

/-- Setting a key brings in its value only. -/
theorem mem_set {e : String × α} (h : e ∈ es.set key value) : e = (key, value) ∨ e ∈ es := by
  induction es with
  | nil => exact .inl (List.mem_singleton.1 h)
  | cons first es ih =>
    rw [set] at h
    split at h
    · next hkey =>
      obtain rfl | h := List.mem_cons.1 h
      · exact .inl (by rw [hkey])
      · exact .inr (List.mem_cons_of_mem _ h)
    · obtain rfl | h := List.mem_cons.1 h
      · exact .inr List.mem_cons_self
      · exact (ih h).imp_right (List.mem_cons_of_mem _)

/-- A new key is set at the end. -/
theorem set_of_notMem (h : key ∉ es.keys) (value : α) :
    es.set key value = es ++ [(key, value)] := by
  induction es with
  | nil => rfl
  | cons e es ih =>
    obtain ⟨k, v⟩ := e
    obtain ⟨hk, h⟩ := List.ne_and_not_mem_of_not_mem_cons h
    rw [set, if_neg hk.symm, ih h, List.cons_append]

/-- Setting a key adds that key. -/
theorem mem_keys_set {other : String} :
    other ∈ (es.set key value).keys ↔ other = key ∨ other ∈ es.keys := by
  rw [← get?_ne_none_iff, ← get?_ne_none_iff]
  by_cases h : other = key
  · simp [h, get?_set_self]
  · simp [h, get?_set_of_ne es value h]

/-- Setting a key gives none twice. -/
theorem nodup_keys_set (h : es.keys.Nodup) (key : String) (value : α) :
    (es.set key value).keys.Nodup := by
  induction es with
  | nil => exact List.nodup_cons.2 ⟨List.not_mem_nil, List.nodup_nil⟩
  | cons e es ih =>
    obtain ⟨k, v⟩ := e
    obtain ⟨hnew, hrest⟩ := List.nodup_cons.1 h
    by_cases hk : k = key
    · rw [set, if_pos hk]
      exact List.nodup_cons.2 ⟨hnew, hrest⟩
    · rw [set, if_neg hk]
      refine List.nodup_cons.2 ⟨fun hmem => ?_, ih hrest⟩
      rcases mem_keys_set.1 hmem with hkey | hold
      · exact hk hkey
      · exact hnew hold

end Entries
end RecordBridge
