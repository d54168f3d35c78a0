/-
# The trees of filter documents

Not every filter tree comes from a document.  The groups of one that does have
members (`Tree.Shaped`), and its disjunctions are grouped, since only the keys
of one object and the operators on one field stand side by side, and those are
joined by AND.  So no two connectives ever meet without parentheses between
them, except AND inside OR.
-/

import RecordBridge.Filter.Parse
import RecordBridge.Proofs.Outcome

namespace RecordBridge
namespace Filter

namespace Tree

mutual
/-- Whether a filter holds where its comparisons hold as given: a conjunction
if all its members do, a disjunction if one of them does. -/
def holds (v : Comparison → Bool) : Tree → Bool
  | .leaf c => v c
  | .group .all _ members => holdsAll v members
  | .group .any _ members => holdsAny v members

/-- Whether all of the filters hold. -/
def holdsAll (v : Comparison → Bool) : List Tree → Bool
  | [] => true
  | t :: ts => holds v t && holdsAll v ts

/-- Whether one of the filters holds. -/
def holdsAny (v : Comparison → Bool) : List Tree → Bool
  | [] => false
  | t :: ts => holds v t || holdsAny v ts
end

mutual
/-- Whether every group has members and every disjunction is grouped. -/
def Shaped : Tree → Prop
  | .leaf _ => True
  | .group connective grouped members =>
    members ≠ [] ∧ (connective = .any → grouped = true) ∧ ShapedAll members

/-- Whether all of the trees have this shape. -/
def ShapedAll : List Tree → Prop
  | [] => True
  | t :: ts => Shaped t ∧ ShapedAll ts
end

theorem ShapedAll.append {ts us : List Tree} (ht : ShapedAll ts) (hu : ShapedAll us) :
    ShapedAll (ts ++ us) := by
  induction ts with
  | nil => exact hu
  | cons t ts ih => exact ⟨ht.1, ih ht.2⟩

theorem ShapedAll.toList_append {t : Option Tree} {ts : List Tree} (ht : ∀ u ∈ t, Shaped u)
    (hts : ShapedAll ts) : ShapedAll (t.toList ++ ts) := by
  cases t with
  | none => exact hts
  | some t => exact ⟨ht t rfl, hts⟩

theorem ShapedAll.conjunction {ts : List Tree} (h : ShapedAll ts) :
    ∀ t ∈ conjunction? ts, Shaped t := by
  intro t ht
  unfold conjunction? at ht
  split at ht
  · exact nomatch ht
  · obtain rfl := Option.some.inj ht
    exact h.1
  · next hne _ =>
    obtain rfl := Option.some.inj ht
    exact ⟨hne, (fun hc => nomatch hc), h⟩

end Tree

open Filter.Tree

theorem shapedAll_parseOperators {field : String} {es : Object} {ts : List Tree}
    (h : parseOperators field es = .ok ts) : ShapedAll ts := by
  induction es generalizing ts with
  | nil =>
    obtain rfl := Except.ok.inj h
    exact trivial
  | cons e es ih =>
    obtain ⟨t, ht, h⟩ := Outcome.bind_eq_ok_iff.1 h
    obtain ⟨us, hus, h⟩ := Outcome.bind_eq_ok_iff.1 h
    obtain rfl := Except.ok.inj h
    refine ⟨?_, ih hus⟩
    unfold parseOperator at ht
    split at ht
    · obtain rfl := Except.ok.inj ht
      exact trivial
    · exact nomatch ht

theorem shaped_parseField {field : String} {v : Value} {t : Option Tree}
    (h : parseField field v = .ok t) : ∀ u ∈ t, Shaped u := by
  unfold parseField at h
  split at h
  · exact nomatch h
  · obtain ⟨ts, hts, rfl⟩ := Outcome.map_eq_ok_iff.1 h
    exact (shapedAll_parseOperators hts).conjunction
  · obtain rfl := Except.ok.inj h
    rintro u hu
    obtain rfl := Option.some.inj hu
    exact trivial

theorem shaped_group? {connective : Connective} {ts : List Tree} (h : ShapedAll ts) :
    ∀ u ∈ group? connective ts, Shaped u := by
  intro u hu
  unfold group? at hu
  split at hu
  · exact nomatch hu
  · next hne =>
    obtain rfl := Option.some.inj hu
    exact ⟨hne, fun _ => rfl, h⟩

theorem shaped_entryCondition {key : String} {v : Value}
    {members : Option (Except Error (List Tree))} {t : Option Tree}
    (hm : ∀ ts, members = some (.ok ts) → ShapedAll ts)
    (h : entryCondition key v members = .ok t) : ∀ u ∈ t, Shaped u := by
  unfold entryCondition at h
  split at h
  · split at h
    · exact nomatch h
    · exact nomatch h
    · obtain ⟨ts, rfl, rfl⟩ := Outcome.map_eq_ok_iff.1 h
      exact shaped_group? (hm ts rfl)
  · exact shaped_parseField h

mutual
/-- **The tree of a document has this shape.** -/
theorem shaped_parse : ∀ (v : Value) {t : Option Tree}, parse v = .ok t → ∀ u ∈ t, Shaped u
  | .object es, t, h => by
    rw [parse] at h
    obtain ⟨ts, hts, rfl⟩ := Outcome.map_eq_ok_iff.1 h
    exact (shapedAll_parseEntries es hts).conjunction
  | .null, t, h => by
    rw [parse] at h
    obtain rfl := Except.ok.inj h
    exact fun _ hu => nomatch hu
  | .bool _, t, h | .int _, t, h | .float _, t, h | .text _, t, h | .list _, t, h
  | .decimal _, t, h | .instant _, t, h | .date _, t, h | .tuple _, t, h | .set _, t, h
  | .pattern _, t, h => nomatch h

/-- The trees of the entries of a document have this shape. -/
theorem shapedAll_parseEntries : ∀ (es : List (String × Value)) {ts : List Tree},
    parseEntries es = .ok ts → ShapedAll ts
  | [], ts, h => by
    rw [parseEntries] at h
    obtain rfl := Except.ok.inj h
    exact trivial
  | (key, v) :: es, ts, h => by
    rw [parseEntries] at h
    obtain ⟨t, ht, h⟩ := Outcome.bind_eq_ok_iff.1 h
    obtain ⟨us, hus, h⟩ := Outcome.bind_eq_ok_iff.1 h
    obtain rfl := Except.ok.inj h
    exact .toList_append (shaped_entryCondition (fun ts => shapedAll_parseMembers v) ht)
      (shapedAll_parseEntries es hus)

/-- The trees of the documents in a list have this shape. -/
theorem shapedAll_parseMembers : ∀ (v : Value) {ts : List Tree},
    parseMembers v = some (.ok ts) → ShapedAll ts
  | .list vs, ts, h | .tuple vs, ts, h => by
    rw [parseMembers] at h
    exact shapedAll_parseAll vs (Option.some.inj h)
  | .null, ts, h | .bool _, ts, h | .int _, ts, h | .float _, ts, h | .text _, ts, h
  | .object _, ts, h | .decimal _, ts, h | .instant _, ts, h | .date _, ts, h | .set _, ts, h
  | .pattern _, ts, h => nomatch h

/-- The trees of several documents have this shape. -/
theorem shapedAll_parseAll : ∀ (vs : List Value) {ts : List Tree},
    parseAll vs = .ok ts → ShapedAll ts
  | [], ts, h => by
    rw [parseAll] at h
    obtain rfl := Except.ok.inj h
    exact trivial
  | v :: vs, ts, h => by
    rw [parseAll] at h
    obtain ⟨t, ht, h⟩ := Outcome.bind_eq_ok_iff.1 h
    obtain ⟨us, hus, h⟩ := Outcome.bind_eq_ok_iff.1 h
    obtain rfl := Except.ok.inj h
    exact .toList_append (shaped_parse v ht) (shapedAll_parseAll vs hus)
end

end Filter
end RecordBridge
