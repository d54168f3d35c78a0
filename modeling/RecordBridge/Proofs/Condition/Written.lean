/-
# The trees of filter documents, exactly

The entries of a document amount to conditions of three kinds: a comparison, a
conjunction of several comparisons of one field, and a group under a connective
that is written out.  Each stands for one key (`Tree.Clause`).  A tree that is
the tree of a document is one such condition, or an ungrouped conjunction of
several of them.  No object gives a key twice, so two members of an ungrouped
conjunction are about different fields, and by the same token two comparisons of
one field are by different operators.  What the keys of an object do not keep
apart are connectives, since those are read in any case (`written_parse`).
-/

import RecordBridge.Filter.Parse
import RecordBridge.Proofs.Outcome
import Mathlib.Data.List.Nodup

namespace RecordBridge

namespace Value

mutual
/-- Whether no object in a value gives a key twice. -/
def Distinct : Value → Prop
  | .list vs | .tuple vs | .set vs => DistinctAll vs
  | .object es => (Entries.keys es).Nodup ∧ DistinctEntries es
  | _ => True

/-- Whether no object in a list of values gives a key twice. -/
def DistinctAll : List Value → Prop
  | [] => True
  | v :: vs => Distinct v ∧ DistinctAll vs

/-- Whether no object in the values of entries gives a key twice. -/
def DistinctEntries : List (String × Value) → Prop
  | [] => True
  | (_, v) :: es => Distinct v ∧ DistinctEntries es
end

end Value

namespace Filter

namespace Comparator

theorem key_injective : Function.Injective key := by
  intro c d h
  exact Option.some.inj ((ofKey?_key c).symm.trans ((congrArg ofKey? h).trans (ofKey?_key d)))

end Comparator

namespace Connective

theorem key_injective : Function.Injective key := by
  intro c d h
  exact Option.some.inj ((ofKey?_key c).symm.trans ((congrArg ofKey? h).trans (ofKey?_key d)))

theorem isOperatorKey_key (c : Connective) : isOperatorKey c.key = true := by
  cases c <;> decide

end Connective

namespace Tree

variable {field : String} {cs : List (Comparator × Value)}

/-- Comparisons of one field. -/
def comparisons (field : String) (cs : List (Comparator × Value)) : List Tree :=
  cs.map fun c => .leaf ⟨field, c.1, c.2⟩

/-- The entries that say comparisons of a field. -/
def operators (cs : List (Comparator × Value)) : Object := cs.map fun c => (c.1.key, c.2)

theorem nodup_keys_operators_iff :
    (Entries.keys (operators cs)).Nodup ↔ (cs.map (·.1)).Nodup := by
  have hkeys : Entries.keys (operators cs) = (cs.map (·.1)).map Comparator.key := by
    rw [Entries.keys, operators, List.map_map, List.map_map]
    rfl
  rw [hkeys, List.nodup_map_iff Comparator.key_injective]

theorem operators_eq_singleton_iff {c : Comparator} {v : Value} :
    operators cs = [(c.key, v)] ↔ cs = [(c, v)] := by
  constructor
  · intro h
    obtain ⟨o, rfl, ho⟩ := List.map_eq_singleton_iff.1 h
    obtain ⟨hkey, rfl⟩ := Prod.mk.inj ho
    exact congrArg (fun c => [(c, o.2)]) (Comparator.key_injective hkey)
  · rintro rfl
    rfl

/-- The key that a condition stands for in an object. -/
def key : Tree → String
  | .leaf c => c.field
  | .group _ false (.leaf c :: _) => c.field
  | .group connective _ _ => connective.key

/-- A tree that stands for one key of an object: a comparison of a field, which is
no operator, several comparisons of one field by different operators, or a group
under a connective that is written out. -/
inductive Clause : Tree → Prop
  | leaf {c : Comparison} (hfield : isOperatorKey c.field = false) : Clause (.leaf c)
  | field {field : String} {cs : List (Comparator × Value)} (hfield : isOperatorKey field = false)
    (two : 2 ≤ cs.length) (nodup : (cs.map (·.1)).Nodup) :
    Clause (.group .all false (comparisons field cs))
  | group (connective : Connective) (ts : List Tree) : Clause (.group connective true ts)

/-- A tree that a document can amount to. -/
inductive Written : Tree → Prop
  /-- A comparison of a field. -/
  | leaf {c : Comparison} (hfield : isOperatorKey c.field = false) : Written (.leaf c)
  /-- Several comparisons of one field. -/
  | field {field : String} {cs : List (Comparator × Value)} (hfield : isOperatorKey field = false)
    (two : 2 ≤ cs.length) (nodup : (cs.map (·.1)).Nodup) :
    Written (.group .all false (comparisons field cs))
  /-- A group under a connective that is written out. -/
  | group {connective : Connective} {ts : List Tree} (ne : ts ≠ [])
    (members : ∀ t ∈ ts, Written t) : Written (.group connective true ts)
  /-- Several conditions side by side, of which only connectives share keys. -/
  | document {ts : List Tree} (two : 2 ≤ ts.length) (members : ∀ t ∈ ts, Written t)
    (clauses : ∀ t ∈ ts, t.Clause)
    (distinct : ts.Pairwise fun t u => t.key = u.key → isOperatorKey t.key = true) :
    Written (.group .all false ts)

/-- Conditions that can stand side by side in an object with these keys. -/
structure Conditions (keys : List String) (ts : List Tree) : Prop where
  written : ∀ t ∈ ts, Written t
  clauses : ∀ t ∈ ts, t.Clause
  /-- The key of a condition on a field is a key of the object. -/
  keyed : ∀ t ∈ ts, isOperatorKey t.key = false → t.key ∈ keys
  distinct : ts.Pairwise fun t u => t.key = u.key → isOperatorKey t.key = true

namespace Conditions

variable {keys : List String} {ts : List Tree} {t : Tree}

theorem nil : Conditions keys [] :=
  ⟨List.forall_mem_nil _, List.forall_mem_nil _, List.forall_mem_nil _, .nil⟩

/-- A key without a condition. -/
theorem skip (h : Conditions keys ts) (k : String) : Conditions (k :: keys) ts :=
  ⟨h.written, h.clauses, fun t ht hk => .tail k (h.keyed t ht hk), h.distinct⟩

/-- One more condition, under a key that is new unless it is a connective. -/
theorem cons (h : Conditions keys ts) {k : String} (hk : k ∉ keys) (hw : t.Written)
    (hc : t.Clause) (hkey : isOperatorKey t.key = false → t.key = k) :
    Conditions (k :: keys) (t :: ts) where
  written := List.forall_mem_cons.2 ⟨hw, h.written⟩
  clauses := List.forall_mem_cons.2 ⟨hc, h.clauses⟩
  keyed := by
    rintro u hu hfield
    obtain rfl | hu := List.mem_cons.1 hu
    · rw [hkey hfield]
      exact .head _
    · exact .tail k (h.keyed u hu hfield)
  distinct := by
    refine .cons (fun u hu hsame => ?_) h.distinct
    by_contra hfield
    rw [Bool.not_eq_true] at hfield
    -- a shared field would be a key twice
    have hmem := h.keyed u hu (hsame ▸ hfield)
    rw [← hsame, hkey hfield] at hmem
    exact hk hmem

/-- What conditions side by side amount to. -/
theorem conjunction (h : Conditions keys ts) : ∀ t ∈ conjunction? ts, Written t := by
  intro t ht
  unfold conjunction? at ht
  split at ht
  · exact absurd ht (Option.not_mem_none t)
  · obtain rfl := Option.some.inj ht
    exact h.written _ (.head _)
  · next hnil hone =>
    obtain rfl := Option.some.inj ht
    refine .document ?_ h.written h.clauses h.distinct
    match ts, hnil, hone with
    | [], hnil, _ => exact absurd rfl hnil
    | [t], _, hone => exact absurd rfl (hone t)
    | _ :: _ :: _, _, _ => exact Nat.le_add_left 2 _

end Conditions

end Tree

open Filter.Tree

/-! ### Reading -/

/-- Exactly the entries that say comparisons are read as comparisons. -/
theorem parseOperators_eq_ok_iff {field : String} {es : Object} {ts : List Tree} :
    parseOperators field es = .ok ts ↔ ∃ cs, es = operators cs ∧ ts = comparisons field cs := by
  constructor
  · intro h
    induction es generalizing ts with
    | nil =>
      obtain rfl := Except.ok.inj h
      exact ⟨[], rfl, rfl⟩
    | cons e es ih =>
      obtain ⟨k, v⟩ := e
      obtain ⟨t, ht, h⟩ := Outcome.bind_eq_ok_iff.1 h
      obtain ⟨us, hus, h⟩ := Outcome.bind_eq_ok_iff.1 h
      obtain rfl := Except.ok.inj h
      obtain ⟨cs, rfl, rfl⟩ := ih hus
      unfold parseOperator at ht
      split at ht
      · next c hc =>
        obtain rfl := Except.ok.inj ht
        obtain rfl := Comparator.key_of_ofKey? hc
        exact ⟨(c, v) :: cs, rfl, rfl⟩
      · exact nomatch ht
  · rintro ⟨cs, rfl, rfl⟩
    induction cs with
    | nil => rfl
    | cons c cs ih =>
      refine Outcome.bind_eq_ok_iff.2 ⟨.leaf ⟨field, c.1, c.2⟩, ?_,
        Outcome.bind_eq_ok_iff.2 ⟨_, ih, rfl⟩⟩
      simp only [parseOperator, Comparator.ofKey?_key]

theorem conjunction?_comparisons {field : String} {cs : List (Comparator × Value)}
    (two : 2 ≤ cs.length) :
    conjunction? (comparisons field cs) = some (.group .all false (comparisons field cs)) := by
  match cs, two with
  | _ :: _ :: _, _ => rfl

theorem written_parseField {field : String} {v : Value} {t : Option Tree}
    (hfield : isOperatorKey field = false) (hv : v.Distinct) (h : parseField field v = .ok t) :
    ∀ u ∈ t, u.Written ∧ u.Clause ∧ u.key = field := by
  unfold parseField at h
  split at h
  · exact nomatch h
  · obtain ⟨ts, hts, rfl⟩ := Outcome.map_eq_ok_iff.1 h
    obtain ⟨cs, rfl, rfl⟩ := parseOperators_eq_ok_iff.1 hts
    rintro u hu
    match cs with
    | [] => exact absurd hu (Option.not_mem_none u)
    | [c] =>
      obtain rfl := Option.some.inj hu
      exact ⟨.leaf hfield, .leaf hfield, rfl⟩
    | c :: d :: cs =>
      obtain rfl := Option.some.inj hu
      have htwo : 2 ≤ (c :: d :: cs).length := Nat.le_add_left 2 _
      have hnodup := nodup_keys_operators_iff.1 hv.1
      exact ⟨.field hfield htwo hnodup, .field hfield htwo hnodup, rfl⟩
  · obtain rfl := Except.ok.inj h
    rintro u hu
    obtain rfl := Option.some.inj hu
    exact ⟨.leaf hfield, .leaf hfield, rfl⟩

theorem written_group? {connective : Connective} {ts : List Tree} (h : ∀ t ∈ ts, t.Written) :
    ∀ u ∈ group? connective ts, u.Written ∧ u.Clause ∧ u.key = connective.key := by
  intro u hu
  unfold group? at hu
  split at hu
  · exact absurd hu (Option.not_mem_none u)
  · next hne =>
    obtain rfl := Option.some.inj hu
    exact ⟨.group hne h, .group connective _, rfl⟩

theorem written_entryCondition {key : String} {v : Value}
    {members : Option (Except Error (List Tree))} {t : Option Tree} (hv : v.Distinct)
    (hm : ∀ ts, members = some (.ok ts) → ∀ t ∈ ts, t.Written)
    (h : entryCondition key v members = .ok t) :
    ∀ u ∈ t, u.Written ∧ u.Clause ∧ (isOperatorKey u.key = false → u.key = key) := by
  intro u hu
  unfold entryCondition at h
  split at h
  · split at h
    · exact nomatch h
    · exact nomatch h
    · next c ts _ =>
      obtain ⟨ts, rfl, rfl⟩ := Outcome.map_eq_ok_iff.1 h
      obtain ⟨hw, hc, hkey⟩ := written_group? (hm ts rfl) u hu
      refine ⟨hw, hc, fun hfield => ?_⟩
      rw [hkey, Connective.isOperatorKey_key] at hfield
      exact nomatch hfield
  · next hfield =>
    obtain ⟨hw, hc, hkey⟩ := written_parseField (Bool.eq_false_iff.2 hfield) hv h u hu
    exact ⟨hw, hc, fun _ => hkey⟩

mutual
/-- **The tree of a document is one of these trees.** -/
theorem written_parse : ∀ (v : Value) {t : Option Tree}, v.Distinct → parse v = .ok t →
    ∀ u ∈ t, u.Written
  | .object es, t, hv, h => by
    rw [parse] at h
    obtain ⟨ts, hts, rfl⟩ := Outcome.map_eq_ok_iff.1 h
    rw [Value.Distinct] at hv
    exact (conditions_parseEntries es hv.1 hv.2 hts).conjunction
  | .null, t, hv, h => by
    rw [parse] at h
    obtain rfl := Except.ok.inj h
    exact fun u hu => absurd hu (Option.not_mem_none u)
  | .bool _, t, hv, h | .int _, t, hv, h | .float _, t, hv, h | .text _, t, hv, h
  | .list _, t, hv, h | .decimal _, t, hv, h | .instant _, t, hv, h | .date _, t, hv, h
  | .tuple _, t, hv, h | .set _, t, hv, h | .pattern _, t, hv, h => nomatch h

/-- The trees of the entries of a document can stand side by side. -/
theorem conditions_parseEntries : ∀ (es : List (String × Value)) {ts : List Tree},
    (Entries.keys es).Nodup → Value.DistinctEntries es → parseEntries es = .ok ts →
      Conditions (Entries.keys es) ts
  | [], ts, _, _, h => by
    rw [parseEntries] at h
    obtain rfl := Except.ok.inj h
    exact .nil
  | (key, v) :: es, ts, hn, hv, h => by
    rw [parseEntries] at h
    obtain ⟨t, ht, h⟩ := Outcome.bind_eq_ok_iff.1 h
    obtain ⟨us, hus, h⟩ := Outcome.bind_eq_ok_iff.1 h
    obtain rfl := Except.ok.inj h
    rw [Value.DistinctEntries] at hv
    obtain ⟨hkey, hn⟩ := List.nodup_cons.1 hn
    have hrest := conditions_parseEntries es hn hv.2 hus
    have hfirst := written_entryCondition hv.1 (fun ts => written_parseMembers v hv.1) ht
    cases t with
    | none => exact hrest.skip key
    | some t =>
      obtain ⟨hw, hc, hk⟩ := hfirst t rfl
      exact hrest.cons hkey hw hc hk

/-- The trees of the documents in a list. -/
theorem written_parseMembers : ∀ (v : Value) {ts : List Tree}, v.Distinct →
    parseMembers v = some (.ok ts) → ∀ t ∈ ts, t.Written
  | .list vs, ts, hv, h | .tuple vs, ts, hv, h => by
    rw [parseMembers] at h
    rw [Value.Distinct] at hv
    exact written_parseAll vs hv (Option.some.inj h)
  | .null, ts, hv, h | .bool _, ts, hv, h | .int _, ts, hv, h | .float _, ts, hv, h
  | .text _, ts, hv, h | .object _, ts, hv, h | .decimal _, ts, hv, h | .instant _, ts, hv, h
  | .date _, ts, hv, h | .set _, ts, hv, h | .pattern _, ts, hv, h => nomatch h

/-- The trees of several documents. -/
theorem written_parseAll : ∀ (vs : List Value) {ts : List Tree}, Value.DistinctAll vs →
    parseAll vs = .ok ts → ∀ t ∈ ts, t.Written
  | [], ts, _, h => by
    rw [parseAll] at h
    obtain rfl := Except.ok.inj h
    exact List.forall_mem_nil _
  | v :: vs, ts, hv, h => by
    rw [parseAll] at h
    obtain ⟨t, ht, h⟩ := Outcome.bind_eq_ok_iff.1 h
    obtain ⟨us, hus, h⟩ := Outcome.bind_eq_ok_iff.1 h
    obtain rfl := Except.ok.inj h
    rw [Value.DistinctAll] at hv
    intro u hu
    obtain hu | hu := List.mem_append.1 hu
    · exact written_parse v hv.1 ht u (Option.mem_toList.1 hu)
    · exact written_parseAll vs hv.2 hus u hu
end

end Filter
end RecordBridge
