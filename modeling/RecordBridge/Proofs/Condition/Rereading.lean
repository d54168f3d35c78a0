/-
# Filters written as documents and read again

The members of an ungrouped conjunction share one object when they are written
as a document, each under its key.  Comparisons of one field are joined there,
and conditions on different fields have different keys, but of two groups under
the same connective the later one takes the place of the earlier one.  `reread`
says what is left of a tree in this way, and the document of a tree is read as
exactly that (`parse_document`).
-/

import RecordBridge.Proofs.Condition.Shape
import RecordBridge.Proofs.Condition.Written
import RecordBridge.Proofs.Value.Entries

namespace RecordBridge
namespace Filter

namespace Tree

variable {t u : Tree} {ts done : List Tree} {field : String} {cs : List (Comparator × Value)}

/-- The connective that is written out in front of the members of a group. -/
def written? : Tree → Option Connective
  | .group connective true _ => some connective
  | _ => none

/-- Conditions side by side with one more: in the place of one under the same
connective if there is one, at the end otherwise. -/
def place : List Tree → Tree → List Tree
  | [], t => [t]
  | u :: us, t =>
    if u.written?.isSome ∧ u.written? = t.written? then t :: us else u :: place us t

mutual
/-- What is left of a tree that is written as a document. -/
def reread : Tree → Tree
  | .leaf c => .leaf c
  | .group .all false ts =>
    (conjunction? ((rereadAll ts).foldl place [])).getD (.group .all false [])
  | .group connective _ ts => .group connective true (rereadAll ts)

/-- What is left of several trees, each a document of its own. -/
def rereadAll : List Tree → List Tree
  | [] => []
  | t :: ts => reread t :: rereadAll ts
end

mutual
/-- Whether no ungrouped conjunction anywhere in a tree has two grouped members
with the same connective. -/
def Unrepeated : Tree → Prop
  | .leaf _ => True
  | .group connective grouped ts =>
    (connective = .all → grouped = false → (ts.filterMap written?).Nodup) ∧ UnrepeatedAll ts

/-- Whether there is no such conjunction in any of the trees. -/
def UnrepeatedAll : List Tree → Prop
  | [] => True
  | t :: ts => Unrepeated t ∧ UnrepeatedAll ts
end

theorem document_grouped (c : Connective) (ts : List Tree) :
    (group c true ts).document = [(c.key, .list (documents ts))] := by
  cases c <;> rfl

theorem reread_grouped (c : Connective) (ts : List Tree) :
    (group c true ts).reread = .group c true (rereadAll ts) := by
  cases c <;> rfl

theorem rereadAll_eq_map : rereadAll ts = ts.map reread := by
  induction ts with
  | nil => rfl
  | cons t ts ih => rw [rereadAll, ih, List.map_cons]

theorem rereadAll_ne_nil (h : ts ≠ []) : rereadAll ts ≠ [] := by
  rw [rereadAll_eq_map]
  exact mt List.map_eq_nil_iff.1 h

/-! ### Conditions side by side -/

theorem mem_place (h : u ∈ place done t) : u = t ∨ u ∈ done := by
  induction done with
  | nil => exact .inl (List.mem_singleton.1 h)
  | cons d done ih =>
    rw [place] at h
    split at h
    · exact (List.mem_cons.1 h).imp_right (.tail d)
    · obtain rfl | h := List.mem_cons.1 h
      · exact .inr (.head _)
      · exact (ih h).imp_right (.tail d)

theorem place_ne_nil : place done t ≠ [] := by
  cases done with
  | nil => exact List.cons_ne_nil _ _
  | cons d done =>
    rw [place]
    split <;> exact List.cons_ne_nil _ _

theorem foldl_place_ne_nil (h : ts ≠ []) : ts.foldl place done ≠ [] := by
  induction ts generalizing done with
  | nil => exact absurd rfl h
  | cons t ts ih =>
    cases ts with
    | nil => exact place_ne_nil
    | cons u us => exact ih (List.cons_ne_nil u us)

/-- A condition whose connective is not there yet is put at the end. -/
theorem place_of_forall (h : ∀ c, t.written? = some c → c ∉ done.filterMap written?) :
    place done t = done ++ [t] := by
  induction done with
  | nil => rfl
  | cons d done ih =>
    have hne : ¬ (d.written?.isSome ∧ d.written? = t.written?) := by
      rintro ⟨hsome, hsame⟩
      obtain ⟨c, hc⟩ := Option.isSome_iff_exists.1 hsome
      exact h c (hsame ▸ hc) (List.mem_filterMap.2 ⟨d, .head _, hc⟩)
    rw [place, if_neg hne, List.cons_append, ih fun c hc hmem => h c hc ?_]
    obtain ⟨u, hu, hcu⟩ := List.mem_filterMap.1 hmem
    exact List.mem_filterMap.2 ⟨u, .tail d hu, hcu⟩

theorem foldl_place_of_nodup (h : ((done ++ ts).filterMap written?).Nodup) :
    ts.foldl place done = done ++ ts := by
  induction ts generalizing done with
  | nil => exact (List.append_nil done).symm
  | cons t ts ih =>
    rw [List.append_cons] at h
    rw [List.foldl_cons, place_of_forall, ih h, ← List.append_cons]
    intro c hc hmem
    rw [List.filterMap_append, List.filterMap_append] at h
    have hone : [t].filterMap written? = [c] := by
      rw [List.filterMap_cons, hc]
      rfl
    rw [hone] at h
    exact List.disjoint_of_nodup_append h.of_append_left hmem (List.mem_singleton_self c)

/-! ### Comparisons of one field -/

theorem rereadAll_comparisons : rereadAll (comparisons field cs) = comparisons field cs := by
  induction cs with
  | nil => rfl
  | cons c cs ih => exact congrArg (_ :: ·) ih

theorem filterMap_written?_comparisons : (comparisons field cs).filterMap written? = [] := by
  rw [List.filterMap_eq_nil_iff]
  intro t ht
  obtain ⟨c, -, rfl⟩ := List.mem_map.1 ht
  rfl

theorem reread_comparisons (two : 2 ≤ cs.length) :
    (group .all false (comparisons field cs)).reread
      = .group .all false (comparisons field cs) := by
  have hplace : (comparisons field cs).foldl place [] = comparisons field cs := by
    refine foldl_place_of_nodup ?_
    rw [List.nil_append, filterMap_written?_comparisons]
    exact .nil
  rw [reread, rereadAll_comparisons, hplace, conjunction?_comparisons two, Option.getD_some]

/-- Comparisons of one field are joined under it. -/
theorem mergedDocument_comparisons {ds : List (Comparator × Value)}
    (h : ((ds ++ cs).map (·.1)).Nodup) :
    mergedDocument [(field, .object (operators ds))] (comparisons field cs)
      = [(field, .object (operators (ds ++ cs)))] := by
  induction cs generalizing ds with
  | nil => rw [List.append_nil, comparisons, List.map_nil, mergedDocument]
  | cons c cs ih =>
    rw [List.append_cons] at h
    have hnew : c.1.key ∉ (operators ds).keys := by
      rw [List.map_append] at h
      have hkeys : (Entries.keys (operators (ds ++ [c]))).Nodup :=
        nodup_keys_operators_iff.2 h.of_append_left
      rw [operators, Entries.keys, List.map_append, List.map_append] at hkeys
      exact fun hmem => List.disjoint_of_nodup_append hkeys hmem (List.mem_singleton_self _)
    have hstep : mergeInto [(field, .object (operators ds))]
        (document (.leaf ⟨field, c.1, c.2⟩)) = [(field, .object (operators (ds ++ [c])))] := by
      simp only [document, mergeInto, List.foldl_cons, List.foldl_nil, mergeEntry,
        Entries.get?_cons, if_true, Entries.set]
      rw [Entries.set_of_notMem hnew, operators, operators, List.map_append]
      rfl
    rw [comparisons, List.map_cons, mergedDocument, hstep, ← comparisons, ih h,
      ← List.append_cons]

theorem document_comparisons (two : 2 ≤ cs.length) (nodup : (cs.map (·.1)).Nodup) :
    (group .all false (comparisons field cs)).document
      = [(field, .object (operators cs))] := by
  cases cs with
  | nil => exact nomatch two
  | cons c cs =>
    have hrest : mergedDocument [(field, .object (operators [c]))] (comparisons field cs)
        = [(field, .object (operators ([c] ++ cs)))] := mergedDocument_comparisons nodup
    exact hrest

end Tree

open Filter.Tree

/-! ### Reading a document again -/

variable {t u : Tree} {ts done : List Tree}

theorem parse_entry (k : String) (v : Value) :
    parse (.object [(k, v)]) = entryCondition k v (parseMembers v) := by
  rw [parse, parseEntries, parseEntries]
  cases entryCondition k v (parseMembers v) with
  | error e => rfl
  | ok t => cases t <;> rfl

/-- An entry that is read as a condition on its own, and stands for its key. -/
structure EntryOf (e : String × Value) (t : Tree) : Prop where
  key_eq : e.1 = t.key
  parse_eq : parse (.object [e]) = .ok (some t)
  /-- The key is that of the connective that is written out, or else a field. -/
  keyed : match t.written? with
    | some c => t.key = c.key
    | none => isOperatorKey t.key = false

namespace EntryOf

variable {e e' : String × Value} {es : Object}

/-- Two conditions that share no field share their key exactly if they share
their connective. -/
theorem key_eq_iff (h : EntryOf e t) (h' : EntryOf e' u)
    (hfield : t.key = u.key → isOperatorKey t.key = true) :
    t.key = u.key ↔ t.written?.isSome ∧ t.written? = u.written? := by
  have ht := h.keyed
  have hu := h'.keyed
  constructor
  · intro hkey
    have hop := hfield hkey
    split at ht
    · next c hc =>
      split at hu
      · next d hd =>
        have hcd : c = d := Connective.key_injective (ht.symm.trans (hkey.trans hu))
        rw [hc, hd, hcd]
        exact ⟨rfl, rfl⟩
      · rw [← hkey, hop] at hu
        exact nomatch hu
    · rw [hop] at ht
      exact nomatch ht
  · rintro ⟨hsome, hsame⟩
    obtain ⟨c, hc⟩ := Option.isSome_iff_exists.1 hsome
    rw [hc] at ht
    rw [← hsame, hc] at hu
    exact ht.trans hu.symm

/-- Setting the key of a condition puts the condition among the others. -/
theorem set_place (hes : List.Forall₂ EntryOf es done) {k : String} {v : Value}
    (h : EntryOf (k, v) t) (hfield : ∀ u ∈ done, u.key = t.key → isOperatorKey u.key = true) :
    List.Forall₂ EntryOf (es.set k v) (place done t) := by
  induction hes with
  | nil => exact .cons h .nil
  | @cons e u es done he hes ih =>
    obtain ⟨l, w⟩ := e
    have hiff := he.key_eq_iff h (hfield u (.head _))
    rw [← he.key_eq, ← h.key_eq] at hiff
    rw [Entries.set, place]
    by_cases hkey : l = k
    · rw [if_pos hkey, if_pos (hiff.1 hkey), hkey]
      exact .cons h hes
    · rw [if_neg hkey, if_neg (mt hiff.2 hkey)]
      exact .cons he (ih fun u hu => hfield u (.tail _ hu))

theorem get?_eq_none (hes : List.Forall₂ EntryOf es done) {k : String}
    (h : ∀ u ∈ done, u.key ≠ k) : es.get? k = none := by
  induction hes with
  | nil => rfl
  | @cons e u es done he hes ih =>
    rw [Entries.get?_cons, if_neg fun hk => h u (.head _) (he.key_eq.symm.trans hk.symm)]
    exact ih fun u hu => h u (.tail _ hu)

/-- Entries that are read as conditions one by one are read as all of them. -/
theorem parseEntries_eq (hes : List.Forall₂ EntryOf es done) : parseEntries es = .ok done := by
  induction hes with
  | nil => rfl
  | @cons e u es done he hes ih =>
    have hu := he.parse_eq
    rw [parse_entry] at hu
    rw [parseEntries, hu, ih]
    rfl

end EntryOf

theorem mergeEntry_of_get?_eq_none {d : Object} {k : String} (h : d.get? k = none) (v : Value) :
    mergeEntry d k v = d.set k v := by
  unfold mergeEntry
  split
  · next hold => exact nomatch h.symm.trans hold
  · rfl

theorem mergeEntry_list (d : Object) (k : String) (vs : List Value) :
    mergeEntry d k (.list vs) = d.set k (.list vs) := by
  unfold mergeEntry
  split
  · next h => exact nomatch h
  · rfl

/-- What the document of a condition says: one entry, under its key, which is a list
for a connective. -/
structure EntryDocument (t : Tree) (v : Value) : Prop where
  document_eq : t.document = [(t.key, v)]
  entry : EntryOf (t.key, v) t.reread
  list : isOperatorKey t.key = true → ∃ vs, v = .list vs

theorem exists_entryDocument (hc : t.Clause)
    (h : parse (.object t.document) = .ok (some t.reread)) :
    t.reread.key = t.key ∧ ∃ v, EntryDocument t v := by
  cases hc with
  | leaf hfield =>
    refine ⟨rfl, _, rfl, ⟨rfl, h, hfield⟩, fun hop => ?_⟩
    exact nomatch hfield.symm.trans hop
  | @field field cs hfield two nodup =>
    have hkey : (Tree.group .all false (comparisons field cs)).key = field := by
      match cs, two with
      | _ :: _, _ => rfl
    have hdoc : (Tree.group .all false (comparisons field cs)).document
        = [(field, .object (operators cs))] := document_comparisons two nodup
    have hread : (Tree.group .all false (comparisons field cs)).reread
        = .group .all false (comparisons field cs) := reread_comparisons two
    rw [hdoc, hread] at h
    refine ⟨congrArg key hread, .object (operators cs), ?_, ?_, fun hop => ?_⟩
    · rw [hdoc, hkey]
    · rw [hread, hkey]
      refine ⟨hkey.symm, h, ?_⟩
      rw [hkey]
      exact hfield
    · rw [hkey, hfield] at hop
      exact nomatch hop
  | group connective ts =>
    rw [document_grouped, reread_grouped] at h
    refine ⟨(congrArg key (reread_grouped connective ts)).trans rfl, .list (documents ts),
      document_grouped connective ts, ?_, fun _ => ⟨_, rfl⟩⟩
    rw [reread_grouped]
    exact ⟨rfl, h, rfl⟩

/-- Conditions side by side are put into one document as they are put side by
side again. -/
theorem entries_mergedDocument {es : Object} (hc : ∀ t ∈ ts, t.Clause)
    (h : ∀ t ∈ ts, parse (.object t.document) = .ok (some t.reread))
    (distinct : ts.Pairwise fun t u => t.key = u.key → isOperatorKey t.key = true)
    (hes : List.Forall₂ EntryOf es done)
    (hdone : ∀ u ∈ done, ∀ t ∈ ts, u.key = t.key → isOperatorKey u.key = true) :
    List.Forall₂ EntryOf (mergedDocument es ts) ((rereadAll ts).foldl place done) := by
  induction ts generalizing es done with
  | nil =>
    rw [mergedDocument, rereadAll]
    exact hes
  | cons t ts ih =>
    obtain ⟨hkey, v, hv⟩ := exists_entryDocument (hc t (.head _)) (h t (.head _))
    have hfield : ∀ u ∈ done, u.key = t.reread.key → isOperatorKey u.key = true := by
      intro u hu hsame
      exact hdone u hu t (.head _) (hsame.trans hkey)
    have hset : mergeInto es t.document = es.set t.key v := by
      rw [hv.document_eq, mergeInto, List.foldl_cons, List.foldl_nil]
      by_cases hop : isOperatorKey t.key = true
      · obtain ⟨vs, rfl⟩ := hv.list hop
        exact mergeEntry_list es t.key vs
      · refine mergeEntry_of_get?_eq_none (EntryOf.get?_eq_none hes fun u hu hsame => hop ?_) v
        have hshared := hdone u hu t (.head _) hsame
        rwa [show u.key = t.key from hsame] at hshared
    obtain ⟨hfirst, distinct⟩ := List.pairwise_cons.1 distinct
    rw [mergedDocument, rereadAll, List.foldl_cons, hset]
    refine ih (fun u hu => hc u (.tail _ hu)) (fun u hu => h u (.tail _ hu)) distinct
      (EntryOf.set_place hes hv.entry hfield) ?_
    intro u hu w hw hsame
    obtain rfl | hu := mem_place hu
    · rw [hkey] at hsame ⊢
      exact hfirst w hw hsame
    · exact hdone u hu w (.tail _ hw) hsame

theorem parseAll_documents (h : ∀ t ∈ ts, parse (.object t.document) = .ok (some t.reread)) :
    parseAll (documents ts) = .ok (rereadAll ts) := by
  induction ts with
  | nil => rfl
  | cons t ts ih =>
    rw [documents, parseAll, h t (.head _), ih fun u hu => h u (.tail _ hu)]
    rfl

theorem entryCondition_connective (c : Connective) (v : Value) (ts : List Tree) :
    entryCondition c.key v (some (.ok ts)) = .ok (group? c ts) := by
  unfold entryCondition
  rw [c.isOperatorKey_key, if_pos rfl, Connective.ofKey?_key]
  rfl

theorem parseField_operators {field : String} {cs : List (Comparator × Value)} (h : cs ≠ []) :
    parseField field (.object (operators cs)) = .ok (conjunction? (comparisons field cs)) := by
  have hcs : parseOperators field (operators cs) = .ok (comparisons field cs) :=
    parseOperators_eq_ok_iff.2 ⟨cs, rfl, rfl⟩
  cases cs with
  | nil => exact absurd rfl h
  | cons c cs => exact Outcome.map_eq_ok_iff.2 ⟨_, hcs, rfl⟩

theorem group?_of_ne_nil {c : Connective} (h : ts ≠ []) :
    group? c ts = some (.group c true ts) := by
  cases ts with
  | nil => exact absurd rfl h
  | cons t ts => rfl

theorem conjunction?_getD (h : ts ≠ []) (t : Tree) :
    conjunction? ts = some ((conjunction? ts).getD t) := by
  match ts, h with
  | [_], _ => rfl
  | _ :: _ :: _, _ => rfl

/-- **The document of a tree is read as what is left of the tree.** -/
theorem parse_document (h : t.Written) : parse (.object t.document) = .ok (some t.reread) := by
  induction h with
  | @leaf c hfield =>
    have hone : parseField c.field (.object (operators [(c.comparator, c.operand)]))
        = .ok (some (.leaf c)) := parseField_operators (List.cons_ne_nil _ _)
    rw [document, parse_entry, entryCondition_of_field hfield]
    exact hone
  | @field field cs hfield two nodup =>
    have hne : cs ≠ [] := List.ne_nil_of_length_pos (by omega)
    rw [document_comparisons two nodup, parse_entry, entryCondition_of_field hfield,
      parseField_operators hne, conjunction?_comparisons two, reread_comparisons two]
  | @group connective ts ne _ ih =>
    have hne := rereadAll_ne_nil ne
    have hgroup : entryCondition connective.key (.list (documents ts))
        (parseMembers (.list (documents ts)))
          = .ok (some (.group connective true (rereadAll ts))) := by
      rw [parseMembers, parseAll_documents ih, entryCondition_connective, group?_of_ne_nil hne]
    rw [document_grouped, parse_entry, hgroup, reread_grouped]
  | @document ts two _ clauses distinct ih =>
    have hes := entries_mergedDocument clauses ih distinct .nil (List.forall_mem_nil _)
    have hne : ts ≠ [] := List.ne_nil_of_length_pos (by omega)
    rw [document, parse, EntryOf.parseEntries_eq hes, reread,
      ← conjunction?_getD (foldl_place_ne_nil (rereadAll_ne_nil hne))]
    rfl

end Filter
end RecordBridge
