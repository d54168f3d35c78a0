/-
# What a filter loses on its way through a document

A tree that was read from a document is written as a document and read again.
It comes back as it was exactly if none of its ungrouped conjunctions has two
groups under the same connective.  Only the keys of one object that differ in
case, such as `$and` and `$AND`, make such a conjunction, and only the last of
the two groups survives: the tree that comes back has fewer leaves
(`parse_document_eq_iff`).
-/

import RecordBridge.Proofs.Condition.Rereading

namespace RecordBridge
namespace Filter

namespace Tree

variable {t : Tree} {ts us done : List Tree}

/-! ### Trees that come back -/

theorem unrepeatedAll_iff : UnrepeatedAll ts ↔ ∀ t ∈ ts, t.Unrepeated := by
  induction ts with
  | nil => exact ⟨fun _ => List.forall_mem_nil _, fun _ => trivial⟩
  | cons t ts ih => rw [UnrepeatedAll, ih, List.forall_mem_cons]

theorem unrepeated_comparisons (field : String) (cs : List (Comparator × Value)) :
    (group .all false (comparisons field cs)).Unrepeated := by
  rw [Unrepeated, filterMap_written?_comparisons, unrepeatedAll_iff]
  refine ⟨fun _ _ => .nil, fun t ht => ?_⟩
  obtain ⟨c, -, rfl⟩ := List.mem_map.1 ht
  exact trivial

theorem rereadAll_of_forall (h : ∀ t ∈ ts, t.reread = t) : rereadAll ts = ts := by
  rw [rereadAll_eq_map, List.map_congr_left h, List.map_id']

theorem conjunction?_of_two_le (two : 2 ≤ ts.length) :
    conjunction? ts = some (.group .all false ts) := by
  match ts, two with
  | _ :: _ :: _, _ => rfl

/-- What is left of a tree that repeats no connective is the tree. -/
theorem Written.reread_eq (h : t.Written) (hu : t.Unrepeated) : t.reread = t := by
  induction h with
  | leaf => rfl
  | field _ two => exact reread_comparisons two
  | group _ _ ih =>
    rw [Unrepeated, unrepeatedAll_iff] at hu
    rw [reread_grouped, rereadAll_of_forall fun t ht => ih t ht (hu.2 t ht)]
  | @document ts two _ _ _ ih =>
    rw [Unrepeated, unrepeatedAll_iff] at hu
    have hplace : ts.foldl place [] = ts := foldl_place_of_nodup (hu.1 rfl rfl)
    rw [reread, rereadAll_of_forall fun t ht => ih t ht (hu.2 t ht), hplace,
      conjunction?_of_two_le two]
    rfl

/-! ### Counting leaves -/

theorem leavesAll_append : leavesAll (ts ++ us) = leavesAll ts ++ leavesAll us := by
  induction ts with
  | nil => rfl
  | cons t ts ih => rw [List.cons_append, leavesAll, leavesAll, ih, List.append_assoc]

theorem leaves_getD_conjunction? :
    ((conjunction? ts).getD (.group .all false [])).leaves = leavesAll ts := by
  match ts with
  | [] => rfl
  | [t] => exact (List.append_nil t.leaves).symm
  | _ :: _ :: _ => rfl

/-- A filter has a condition in it. -/
theorem Shaped.length_leaves_pos : ∀ {t : Tree}, t.Shaped → 0 < t.leaves.length
  | .leaf _, _ => Nat.one_pos
  | .group _ _ [], h => absurd rfl h.1
  | .group _ _ (t :: ts), h => by
    have ht : 0 < t.leaves.length := length_leaves_pos h.2.2.1
    rw [leaves, leavesAll, List.length_append]
    omega

theorem length_leaves_place_le :
    (leavesAll (place done t)).length ≤ (leavesAll done).length + t.leaves.length := by
  induction done with
  | nil => simp [place, leavesAll]
  | cons d done ih =>
    rw [place]
    split
    · simp only [leavesAll, List.length_append]
      omega
    · simp only [leavesAll, List.length_append]
      omega

/-- A group in the place of another one costs its leaves. -/
theorem length_leaves_place_lt (hpos : ∀ u ∈ done, 0 < u.leaves.length) {c : Connective}
    (hc : t.written? = some c) (hmem : c ∈ done.filterMap written?) :
    (leavesAll (place done t)).length < (leavesAll done).length + t.leaves.length := by
  induction done with
  | nil => exact nomatch hmem
  | cons d done ih =>
    have hd : 0 < d.leaves.length := hpos d (.head _)
    rw [place]
    split
    · simp only [leavesAll, List.length_append]
      omega
    · next hne =>
      have hrest : c ∈ done.filterMap written? := by
        obtain ⟨u, hu, hcu⟩ := List.mem_filterMap.1 hmem
        obtain rfl | hu := List.mem_cons.1 hu
        · rw [hcu, hc] at hne
          exact absurd ⟨rfl, rfl⟩ hne
        · exact List.mem_filterMap.2 ⟨u, hu, hcu⟩
      have hlt := ih (fun u hu => hpos u (.tail _ hu)) hrest
      simp only [leavesAll, List.length_append]
      omega

theorem length_leaves_foldl_place_le :
    (leavesAll (ts.foldl place done)).length
      ≤ (leavesAll done).length + (leavesAll ts).length := by
  induction ts generalizing done with
  | nil => exact Nat.le_refl _
  | cons t ts ih =>
    have hrest := @ih (place done t)
    have hplace := @length_leaves_place_le t done
    rw [List.foldl_cons, leavesAll, List.length_append]
    omega

/-- Where a connective is repeated, a leaf is lost. -/
theorem length_leaves_foldl_place_lt (hdone : ∀ u ∈ done, 0 < u.leaves.length)
    (hts : ∀ t ∈ ts, 0 < t.leaves.length) (hn : (done.filterMap written?).Nodup)
    (h : ¬ ((done ++ ts).filterMap written?).Nodup) :
    (leavesAll (ts.foldl place done)).length
      < (leavesAll done).length + (leavesAll ts).length := by
  induction ts generalizing done with
  | nil =>
    rw [List.append_nil] at h
    exact absurd hn h
  | cons t ts ih =>
    rw [List.foldl_cons, leavesAll, List.length_append]
    by_cases hit : ∃ c, t.written? = some c ∧ c ∈ done.filterMap written?
    · obtain ⟨c, hc, hmem⟩ := hit
      have hlt := length_leaves_place_lt hdone hc hmem
      have hrest := @length_leaves_foldl_place_le ts (place done t)
      omega
    · have hnew : ∀ c, t.written? = some c → c ∉ done.filterMap written? := by
        intro c hc hmem
        exact hit ⟨c, hc, hmem⟩
      have hn' : ((done ++ [t]).filterMap written?).Nodup := by
        rw [List.filterMap_append, List.filterMap_cons]
        split
        · rwa [List.filterMap_nil, List.append_nil]
        · next c hc => exact hn.append (List.nodup_singleton c) (by simpa using hnew c hc)
      have hdone' : ∀ u ∈ done ++ [t], 0 < u.leaves.length := by
        intro u hu
        obtain hu | hu := List.mem_append.1 hu
        · exact hdone u hu
        · exact hts u (List.mem_singleton.1 hu ▸ .head _)
      rw [List.append_cons] at h
      have hlt := ih hdone' (fun u hu => hts u (.tail _ hu)) hn' h
      rw [leavesAll_append, List.length_append, leavesAll, leavesAll, List.append_nil] at hlt
      rw [place_of_forall hnew]
      omega

theorem length_leaves_rereadAll_le
    (h : ∀ t ∈ ts, t.reread.leaves.length ≤ t.leaves.length) :
    (leavesAll (rereadAll ts)).length ≤ (leavesAll ts).length := by
  induction ts with
  | nil => exact Nat.le_refl _
  | cons t ts ih =>
    have ht := h t (.head _)
    have hts := ih fun u hu => h u (.tail _ hu)
    simp only [rereadAll, leavesAll, List.length_append]
    omega

theorem length_leaves_rereadAll_lt
    (h : ∀ t ∈ ts, t.reread.leaves.length ≤ t.leaves.length)
    (hlt : ∃ t ∈ ts, t.reread.leaves.length < t.leaves.length) :
    (leavesAll (rereadAll ts)).length < (leavesAll ts).length := by
  induction ts with
  | nil =>
    obtain ⟨t, ht, -⟩ := hlt
    exact absurd ht List.not_mem_nil
  | cons t ts ih =>
    have ht := h t (.head _)
    have hts := length_leaves_rereadAll_le fun u hu => h u (.tail _ hu)
    simp only [rereadAll, leavesAll, List.length_append]
    obtain ⟨u, hu, hlt⟩ := hlt
    obtain rfl | hu := List.mem_cons.1 hu
    · omega
    · have hrest := ih (fun u hu => h u (.tail _ hu)) ⟨u, hu, hlt⟩
      omega

/-- No leaf is won. -/
theorem Written.length_leaves_le (h : t.Written) : t.reread.leaves.length ≤ t.leaves.length := by
  induction h with
  | leaf => exact Nat.le_refl _
  | field _ two => exact Nat.le_of_eq (congrArg (·.leaves.length) (reread_comparisons two))
  | group _ _ ih =>
    rw [reread_grouped, leaves, leaves]
    exact length_leaves_rereadAll_le ih
  | @document ts _ _ _ _ ih =>
    have hplace := @length_leaves_foldl_place_le (rereadAll ts) []
    have hall := length_leaves_rereadAll_le ih
    rw [leavesAll, List.length_nil] at hplace
    rw [reread, leaves_getD_conjunction?, leaves]
    omega

theorem Clause.written?_reread (h : t.Clause) : t.reread.written? = t.written? := by
  cases h with
  | leaf => rfl
  | field _ two => rw [reread_comparisons two]
  | group connective ts => rw [reread_grouped, written?, written?]

theorem filterMap_written?_rereadAll (h : ∀ t ∈ ts, t.Clause) :
    (rereadAll ts).filterMap written? = ts.filterMap written? := by
  rw [rereadAll_eq_map, List.filterMap_map]
  exact List.filterMap_congr fun t ht => (h t ht).written?_reread

/-- What is left of a tree has a condition in it. -/
theorem Written.length_leaves_pos (h : t.Written) : 0 < t.reread.leaves.length :=
  (shaped_parse _ (parse_document h) _ rfl).length_leaves_pos

/-- A tree that repeats a connective loses leaves. -/
theorem Written.length_leaves_lt (h : t.Written) (hu : ¬ t.Unrepeated) :
    t.reread.leaves.length < t.leaves.length := by
  induction h with
  | leaf => exact absurd trivial hu
  | field => exact absurd (unrepeated_comparisons _ _) hu
  | @group connective ts _ members ih =>
    have hsome : ∃ t ∈ ts, ¬ t.Unrepeated := by
      by_contra hall
      push Not at hall
      exact hu ⟨fun _ h => (nomatch h), unrepeatedAll_iff.2 hall⟩
    obtain ⟨t, ht, hrepeats⟩ := hsome
    rw [reread_grouped, leaves, leaves]
    exact length_leaves_rereadAll_lt (fun t ht => (members t ht).length_leaves_le)
      ⟨t, ht, ih t ht hrepeats⟩
  | @document ts _ members clauses _ ih =>
    have hle : ∀ t ∈ ts, t.reread.leaves.length ≤ t.leaves.length :=
      fun t ht => (members t ht).length_leaves_le
    rw [reread, leaves_getD_conjunction?, leaves]
    by_cases hall : ∀ t ∈ ts, t.Unrepeated
    · -- it is this conjunction that repeats a connective
      have hrepeats : ¬ ((rereadAll ts).filterMap written?).Nodup := by
        rw [filterMap_written?_rereadAll clauses]
        exact fun hnodup => hu ⟨fun _ _ => hnodup, unrepeatedAll_iff.2 hall⟩
      have hpos : ∀ u ∈ rereadAll ts, 0 < u.leaves.length := by
        rw [rereadAll_eq_map, List.forall_mem_map]
        exact fun t ht => (members t ht).length_leaves_pos
      have hlt := length_leaves_foldl_place_lt (List.forall_mem_nil _) hpos List.nodup_nil hrepeats
      have hrest := length_leaves_rereadAll_le hle
      rw [leavesAll, List.length_nil] at hlt
      omega
    · -- it is one of its members
      push Not at hall
      obtain ⟨t, ht, hrepeats⟩ := hall
      have hrest := length_leaves_rereadAll_lt hle ⟨t, ht, ih t ht hrepeats⟩
      have hplace := @length_leaves_foldl_place_le (rereadAll ts) []
      rw [leavesAll, List.length_nil] at hplace
      omega

end Tree

/-- **What comes back.**  The tree of a document, written as a document again, is
read as the same tree exactly if no ungrouped conjunction in it has two groups
under one connective.  Otherwise a tree with fewer leaves is read. -/
theorem parse_document_eq_iff {v : Value} {t : Tree} (hv : v.Distinct)
    (h : parse v = .ok (some t)) :
    (parse (.object t.document) = .ok (some t) ↔ t.Unrepeated) ∧
      (¬ t.Unrepeated → ∃ u, parse (.object t.document) = .ok (some u) ∧
        u.leaves.length < t.leaves.length) := by
  have hw : t.Written := written_parse v hv h t rfl
  have hread := parse_document hw
  refine ⟨⟨fun hsame => ?_, fun hu => ?_⟩, fun hu => ⟨t.reread, hread, hw.length_leaves_lt hu⟩⟩
  · have hback : t.reread = t := Option.some.inj (Except.ok.inj (hread.symm.trans hsame))
    by_contra hu
    have hlt := hw.length_leaves_lt hu
    rw [hback] at hlt
    exact Nat.lt_irrefl _ hlt
  · rw [hread, hw.reread_eq hu]

/-- A document with a connective in lower and in upper case. -/
def twoCases : Object :=
  [("Name", .text "Acme"), ("$or", .list [.object [("Rating", .text "Hot")]]),
    ("$OR", .list [.object [("Rating", .text "Warm")], .object [("Size", .int 3)]])]

/-- The tree of that document. -/
def twoGroups : Tree :=
  .group .all false
    [.leaf ⟨"Name", .eq, .text "Acme"⟩, .group .any true [.leaf ⟨"Rating", .eq, .text "Hot"⟩],
      .group .any true [.leaf ⟨"Rating", .eq, .text "Warm"⟩, .leaf ⟨"Size", .eq, .int 3⟩]]

/-- `parse_document_eq_iff` for that document: its tree does not come back. -/
theorem parse_document_eq_iff_twoCases :
    (Value.object twoCases).Distinct ∧ parse (.object twoCases) = .ok (some twoGroups) ∧
      ¬ twoGroups.Unrepeated ∧ parse (.object twoGroups.document) ≠ .ok (some twoGroups) ∧
      ∃ u, parse (.object twoGroups.document) = .ok (some u) ∧
        u.leaves.length < twoGroups.leaves.length := by
  have hv : (Value.object twoCases).Distinct := by
    simp [twoCases, Value.Distinct, Value.DistinctEntries, Value.DistinctAll, Entries.keys]
  have h : parse (.object twoCases) = .ok (some twoGroups) := rfl
  have hrepeats : ¬ twoGroups.Unrepeated := by
    intro hu
    exact absurd (hu.1 rfl rfl) (by decide)
  obtain ⟨hiff, hfewer⟩ := parse_document_eq_iff hv h
  exact ⟨hv, h, hrepeats, mt hiff.1 hrepeats, hfewer hrepeats⟩

end Filter
end RecordBridge
