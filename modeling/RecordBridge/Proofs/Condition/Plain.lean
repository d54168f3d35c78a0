/-
# The plain reading of a filter document

Read plainly, a filter document is a tree in which nothing was left out: an
object is the conjunction of its entries, the entry of a connective is a group
of the documents in its list, and a field with operators is the conjunction of
their comparisons (`Value.plain`).  Its leaves are the conditions of the
document, in the order in which they stand there.

The tree of a document is smaller.  Groups without a condition are gone, with
the groups that this leaves without one, and a conjunction of one condition is
that condition (`Tree.condense`).  That is all there is to reading a document
(`eq_condense_of_parse`), and no condition is lost, repeated or moved by it
(`Tree.leaves_condense`).
-/

import RecordBridge.Proofs.Condition.Documents
import RecordBridge.Proofs.Condition.Written

namespace RecordBridge
namespace Filter

namespace Tree

/-- What holds of comparisons, and of a group if it holds of its members, holds of all
trees. -/
@[elab_as_elim]
theorem membersInduction {motive : Tree → Prop} (leaf : ∀ c, motive (.leaf c))
    (group : ∀ connective grouped members, (∀ t ∈ members, motive t) →
      motive (.group connective grouped members)) (t : Tree) : motive t :=
  match t with
  | .leaf c => leaf c
  | .group connective grouped members =>
    group connective grouped members fun t _ => membersInduction leaf group t

theorem leavesAll_eq_flatMap (ts : List Tree) : leavesAll ts = ts.flatMap leaves := by
  induction ts with
  | nil => rfl
  | cons t ts ih => rw [leavesAll, ih, List.flatMap_cons]

mutual
/-- What is left of a tree without the groups that have no condition; several conditions
side by side are a conjunction only if there is more than one. -/
def condense : Tree → Option Tree
  | .leaf c => some (.leaf c)
  | .group .all false members => conjunction? (condenseAll members)
  | .group connective _ members => group? connective (condenseAll members)

/-- What is left of several trees. -/
def condenseAll : List Tree → List Tree
  | [] => []
  | t :: ts => (condense t).toList ++ condenseAll ts
end

theorem condenseAll_eq_filterMap (ts : List Tree) : condenseAll ts = ts.filterMap condense := by
  induction ts with
  | nil => rfl
  | cons t ts ih =>
    rw [condenseAll, ih]
    cases h : condense t with
    | none => rw [List.filterMap_cons_none h]; rfl
    | some u => rw [List.filterMap_cons_some h]; rfl

/-- What is left of a group is a conjunction of what is left of its members, or a group. -/
theorem condense_group (connective : Connective) (grouped : Bool) (ts : List Tree) :
    condense (.group connective grouped ts) = if connective = .all ∧ grouped = false then
      conjunction? (ts.filterMap condense) else group? connective (ts.filterMap condense) := by
  rw [← condenseAll_eq_filterMap]
  cases connective <;> cases grouped <;> rfl

theorem leaves_conjunction? (ts : List Tree) :
    (conjunction? ts).toList.flatMap leaves = ts.flatMap leaves := by
  match ts with
  | [] | [t] => rfl
  | t :: u :: ts =>
    have hleaves := leavesAll_eq_flatMap (t :: u :: ts)
    simpa [conjunction?, leaves] using hleaves

theorem leaves_group? (connective : Connective) (ts : List Tree) :
    (group? connective ts).toList.flatMap leaves = ts.flatMap leaves := by
  match ts with
  | [] => rfl
  | t :: ts =>
    have hleaves := leavesAll_eq_flatMap (t :: ts)
    simpa [group?, leaves] using hleaves

theorem flatMap_leaves_filterMap {ts : List Tree} {f : Tree → Option Tree}
    (h : ∀ t ∈ ts, (f t).toList.flatMap leaves = t.leaves) :
    (ts.filterMap f).flatMap leaves = ts.flatMap leaves := by
  induction ts with
  | nil => rfl
  | cons t ts ih =>
    obtain ⟨ht, hts⟩ := List.forall_mem_cons.1 h
    rw [List.flatMap_cons, ← ht, ← ih hts]
    cases hf : f t with
    | none => rw [List.filterMap_cons_none hf]; rfl
    | some u => rw [List.filterMap_cons_some hf]; simp

/-- **What is left of a tree has all of its conditions**, each as often as it was and in
its place. -/
theorem leaves_condense (t : Tree) : t.condense.toList.flatMap leaves = t.leaves := by
  induction t using membersInduction with
  | leaf c => rfl
  | group connective grouped ts ih =>
    have hmembers := flatMap_leaves_filterMap ih
    rw [condense_group, leaves, leavesAll_eq_flatMap]
    split
    · rw [leaves_conjunction?, hmembers]
    · rw [leaves_group?, hmembers]

end Tree

/-! ### Reading a document plainly -/

/-- The plain reading of the condition on a field. -/
def plainField (field : String) : Value → Tree
  | .object es => .group .all false (es.filterMap fun e =>
      (Comparator.ofKey? e.1).map fun c => .leaf ⟨field, c, e.2⟩)
  | v => .leaf ⟨field, .eq, v⟩

/-- The plain reading of an entry, with that of the documents in its list. -/
def plainEntry (key : String) (v : Value) (members : List Tree) : Tree :=
  match Connective.ofKey? key with
  | some c => .group c true members
  | none => plainField key v

end Filter

namespace Value

open RecordBridge.Filter (Tree)

mutual
/-- The plain reading of a filter document. -/
def plain : Value → Tree
  | .object es => .group .all false (plainEntries es)
  | _ => .group .all false []

/-- The plain readings of the entries of a document. -/
def plainEntries : List (String × Value) → List Tree
  | [] => []
  | (key, v) :: es => Filter.plainEntry key v (plainMembers v) :: plainEntries es

/-- The plain readings of the documents in a value that is a list. -/
def plainMembers : Value → List Tree
  | .list vs | .tuple vs => plainAll vs
  | _ => []

/-- The plain readings of several documents. -/
def plainAll : List Value → List Tree
  | [] => []
  | v :: vs => plain v :: plainAll vs
end

/-- The conditions of a filter document in the order in which they stand there. -/
def conditions (v : Value) : List Filter.Comparison := v.plain.leaves

theorem plainAll_eq_map (vs : List Value) : plainAll vs = vs.map plain := by
  induction vs with
  | nil => rfl
  | cons v vs ih => rw [plainAll, ih, List.map_cons]

theorem plainMembers_eq {v : Value} {vs : List Value} (h : v.members? = some vs) :
    plainMembers v = vs.map plain := by
  rw [← plainAll_eq_map]
  cases v with
  | list us | tuple us =>
    obtain rfl := Option.some.inj h
    rfl
  | _ => exact nomatch h

theorem plainEntries_eq_map (es : List (String × Value)) :
    plainEntries es = es.map fun e => Filter.plainEntry e.1 e.2 (plainMembers e.2) := by
  induction es with
  | nil => rfl
  | cons e es ih => rw [plainEntries, ih, List.map_cons]

end Value

namespace Filter

open Filter.Tree

theorem plainField_operators (field : String) (cs : List (Comparator × Value)) :
    plainField field (.object (operators cs)) = .group .all false (comparisons field cs) := by
  have hleaves : (operators cs).filterMap (fun e =>
      (Comparator.ofKey? e.1).map fun c => Tree.leaf ⟨field, c, e.2⟩) = comparisons field cs := by
    induction cs with
    | nil => rfl
    | cons c cs ih =>
      have hc : Comparator.ofKey? c.1.key = some c.1 := Comparator.ofKey?_key c.1
      simpa [operators, comparisons, hc] using ih
  rw [plainField, hleaves]

theorem condense_comparisons (field : String) (cs : List (Comparator × Value)) :
    (Tree.group .all false (comparisons field cs)).condense
      = conjunction? (comparisons field cs) := by
  have hleaves : (comparisons field cs).filterMap condense = comparisons field cs := by
    induction cs with
    | nil => rfl
    | cons c cs ih => simpa [comparisons, condense] using ih
  rw [condense_group, if_pos ⟨rfl, rfl⟩, hleaves]

theorem eq_condense_of_parseField {field : String} {v : Value} {t : Option Tree}
    (h : parseField field v = .ok t) : t = (plainField field v).condense := by
  cases v with
  | object es =>
    cases es with
    | nil => exact nomatch h
    | cons o es =>
      obtain ⟨ts, hts, rfl⟩ := Outcome.map_eq_ok_iff.1 h
      obtain ⟨cs, hcs, rfl⟩ := parseOperators_eq_ok_iff.1 hts
      rw [hcs, plainField_operators, condense_comparisons]
  | _ => exact (Except.ok.inj h).symm

/-- The condition of an entry is what is left of its plain reading, provided that this
holds of the documents in its list. -/
theorem eq_condense_of_parseEntry {e : String × Value} {t : Option Tree}
    (ih : ∀ vs, e.2.members? = some vs → ∀ m ∈ vs, ∀ u, parse m = .ok u → u = m.plain.condense)
    (h : parseEntry e = .ok t) : t = (plainEntry e.1 e.2 (Value.plainMembers e.2)).condense := by
  obtain ⟨key, v⟩ := e
  rcases entry_cases key v with ⟨c, vs, hc, hlist⟩ | ⟨c, hc, hlist⟩ | ⟨hop, hunknown⟩ | hfield
  · rw [parseEntry_of_spells hc hlist] at h
    obtain ⟨_, hread, rfl⟩ := Outcome.map_eq_ok_iff.1 h
    obtain ⟨ts, hts, rfl⟩ := Outcome.map_eq_ok_iff.1 hread
    have hmembers := Outcome.eq_map_of_mapM hts (ih vs hlist)
    have hleft : ts.filterMap id = (vs.map Value.plain).filterMap condense := by
      rw [hmembers, List.filterMap_map, List.filterMap_map]
      rfl
    rw [plainEntry, Connective.ofKey?_eq_some_iff.2 hc, Value.plainMembers_eq hlist, hleft]
    show _ = (Tree.group c true (vs.map Value.plain)).condense
    rw [condense_group, if_neg (fun h => nomatch h.2)]
  · rw [parseEntry_of_no_list hc hlist] at h
    exact nomatch h
  · rw [parseEntry_of_unknown hop hunknown] at h
    exact nomatch h
  · rw [parseEntry_of_field hfield] at h
    rw [plainEntry, Connective.ofKey?_eq_none hfield]
    exact eq_condense_of_parseField h

/-- **The tree of a document is what is left of its plain reading.** -/
theorem eq_condense_of_parse {v : Value} {t : Option Tree} (h : parse v = .ok t) :
    t = v.plain.condense := by
  induction v using Value.documentInduction generalizing t with
  | object es ih =>
    rw [parse_object] at h
    obtain ⟨_, hread, rfl⟩ := Outcome.map_eq_ok_iff.1 h
    obtain ⟨ts, hts, rfl⟩ := Outcome.map_eq_ok_iff.1 hread
    have hentries := Outcome.eq_map_of_mapM hts fun e he _ =>
      eq_condense_of_parseEntry fun vs hvs m hm _ => ih e he vs hvs m hm
    have hleft : ts.filterMap id = (Value.plainEntries es).filterMap condense := by
      rw [hentries, Value.plainEntries_eq_map, List.filterMap_map, List.filterMap_map]
      rfl
    rw [hleft, Value.plain, condense_group, if_pos ⟨rfl, rfl⟩]
  | other v hv =>
    cases v with
    | object es => exact nomatch hv
    | null => exact (Except.ok.inj h).symm
    | _ => exact nomatch h

/-- The leaves of the tree of a document are its conditions. -/
theorem leaves_eq_conditions {v : Value} {found : Option Tree} (h : parse v = .ok found) :
    found.toList.flatMap Tree.leaves = v.conditions := by
  rw [eq_condense_of_parse h, leaves_condense, Value.conditions]

/-- **Exactly the filter documents are read, and all of their conditions.**  What is no
filter document is refused for its first fault; and the leaves of the tree of a document
are its conditions, in their order. -/
theorem parse_reads_conditions (v : Value) :
    ((∃ found, parse v = .ok found) ↔ IsDocument v) ∧
      (∀ e, parse v = .error e ↔ FirstFault v e) ∧
      ∀ found, parse v = .ok found → found.toList.flatMap Tree.leaves = v.conditions := by
  exact ⟨exists_parse_iff v, parse_eq_error_iff v, fun _ h => leaves_eq_conditions h⟩

/-- A document with a connective in mixed case, an empty alternative, and a field with two
operators. -/
def mixedCase : Value := .object
  [("Size", .int 3),
    ("$Or", .list
      [.object [],
        .object [("Rating", .object [("$ne", .text "Hot"), ("$in", .list [.text "Warm"])])]])]

/-- The tree of that document. -/
def mixedCaseTree : Tree :=
  .group .all false
    [.leaf ⟨"Size", .eq, .int 3⟩,
      .group .any true
        [.group .all false
          [.leaf ⟨"Rating", .ne, .text "Hot"⟩, .leaf ⟨"Rating", .isIn, .list [.text "Warm"]⟩]]]

/-- An object with a misspelt operator inside a list. -/
def misspelt : Value := .object
  [("Name", .text "Acme"),
    ("$AND", .list [.null, .object [("Rating", .object [("$eq", .int 1), ("$regx", .text "x")])]])]

/-- `parse_reads_conditions` for those two objects. -/
theorem parse_reads_conditions_mixedCase :
    IsDocument mixedCase ∧
      mixedCase.conditions =
        [⟨"Size", .eq, .int 3⟩, ⟨"Rating", .ne, .text "Hot"⟩,
          ⟨"Rating", .isIn, .list [.text "Warm"]⟩] ∧
      FirstFault misspelt
        (.unknownOperator "$regx" Comparator.sortedKeys (some "condition on 'Rating'")) := by
  have hparse : parse mixedCase = .ok (some mixedCaseTree) := rfl
  obtain ⟨hdocument, -, hconditions⟩ := parse_reads_conditions mixedCase
  obtain ⟨-, hfault, -⟩ := parse_reads_conditions misspelt
  exact ⟨hdocument.1 ⟨_, hparse⟩, (hconditions _ hparse).symm, (hfault _).1 rfl⟩

/-! ### The conditions of an object -/

theorem conditions_object (es : Object) : Value.conditions (.object es) =
    es.flatMap fun e => (plainEntry e.1 e.2 (Value.plainMembers e.2)).leaves := by
  rw [Value.conditions, Value.plain, leaves, leavesAll_eq_flatMap, Value.plainEntries_eq_map,
    List.flatMap_map]

theorem conditions_append (es fs : Object) : Value.conditions (.object (es ++ fs)) =
    Value.conditions (.object es) ++ Value.conditions (.object fs) := by
  rw [conditions_object, conditions_object, conditions_object, List.flatMap_append]

/-- The conditions of an object are those before an entry, those of the entry, and those
behind it. -/
theorem conditions_split (before after : Object) (e : String × Value) :
    Value.conditions (.object (before ++ e :: after)) = Value.conditions (.object before) ++
      (Value.conditions (.object [e]) ++ Value.conditions (.object after)) := by
  rw [conditions_append, ← List.singleton_append, conditions_append]

/-- The conditions under a field are its operators. -/
theorem conditions_operators {field : String} (hfield : isOperatorKey field = false)
    (cs : List (Comparator × Value)) :
    Value.conditions (.object [(field, .object (operators cs))]) =
      cs.map fun c => ⟨field, c.1, c.2⟩ := by
  rw [conditions_object, List.flatMap_singleton, plainEntry, Connective.ofKey?_eq_none hfield,
    plainField_operators, leaves, leavesAll_eq_flatMap, comparisons, List.flatMap_map]
  exact List.flatMap_pure_eq_map _ cs

/-- An object under a field of a document that is read has operators. -/
theorem exists_operators {es condition : Object} {field : String} {found : Option Tree}
    (h : parse (.object es) = .ok found) (hmem : (field, .object condition) ∈ es) :
    isOperatorKey field = false ∧ ∃ cs, condition = operators cs := by
  have hentry := isDocument_object_iff.1 ((exists_parse_iff _).1 ⟨found, h⟩) _ hmem
  cases hentry with
  | group hkey hlist => exact nomatch hlist
  | bare hfield hv => exact nomatch hv
  | operators hfield hne keys =>
    obtain ⟨ts, hts⟩ : ∃ ts, parseOperators field condition = .ok ts :=
      exists_parseOperators_iff.2 keys
    obtain ⟨cs, hcs, -⟩ := parseOperators_eq_ok_iff.1 hts
    exact ⟨hfield, cs, hcs⟩

end Filter
end RecordBridge
