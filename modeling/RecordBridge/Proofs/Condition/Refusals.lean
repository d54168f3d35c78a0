/-
# What a condition fails with

A filter is written leaf by leaf, and it fails as the first leaf does that cannot
be written (`render_eq_error_iff`).  A leaf fails in one of two ways.

| leaf                                              | it            |
| ------------------------------------------------- | ------------- |
| the catalog lacks its field                       | is refused    |
| an expression that has no pattern                 | is refused    |
| a comparison with a list of no operands           | is refused    |
| any other comparison, with a container            | is refused    |
| a field of times, and an operand out of range     | goes astray   |
| the catalog lacks its field and has a name that   | goes astray   |
| is no text, so that none can be proposed          |               |

A leaf that is refused is an error of the directive (`Refused`), and one that
goes astray is a fault (`Astray`).  The two exclude each other, and every other
leaf is written (`renderComparison_eq_filter_iff`, `exists_fault_iff`).
-/

import RecordBridge.Proofs.Condition.Leaves
import RecordBridge.Proofs.Condition.Plain
import RecordBridge.Proofs.Value.Range

namespace RecordBridge
namespace Filter

variable {catalog : Catalog} {c : Comparison} {f : Catalog.Field} {v : Value} {t : Tree}

/-! ### The first leaf that fails -/

theorem renderAll_eq (catalog : Catalog) (ts : List Tree) :
    renderAll catalog ts = ts.mapM (render catalog) := by
  induction ts with
  | nil => rfl
  | cons t ts ih =>
    rw [renderAll, List.mapM_cons, ih]
    rfl

/-- The leaves that come before the first one that cannot be written, and that one. -/
structure FirstUnwritten (catalog : Catalog) (t : Tree) (before : List Comparison)
    (c : Comparison) : Prop where
  split : ∃ after, t.leaves = before ++ c :: after
  before : ∀ b ∈ before, ∃ text, renderComparison catalog b = .ok text
  failed : ∀ text, renderComparison catalog c ≠ .ok text

/-- **A filter fails as the first leaf does that cannot be written.** -/
theorem render_eq_error_iff {e : Failure} : render catalog t = .error e ↔
    ∃ before c, FirstUnwritten catalog t before c ∧ renderComparison catalog c = .error e := by
  have hleaves : render catalog t = .error e ↔
      t.leaves.mapM (renderComparison catalog) = .error e := by
    induction t using Tree.membersInduction generalizing e with
    | leaf c =>
      rw [render, Tree.leaves, List.mapM_cons, List.mapM_nil]
      exact (Outcome.bind_ok_eq_error_iff (f := fun text => [text])).symm
    | group connective grouped members ih =>
      rw [Tree.leaves, Tree.leavesAll_eq_flatMap,
        ← Outcome.mapM_flatMap_eq_error_iff fun t ht _ => ih t ht, ← renderAll_eq]
      exact Outcome.bind_ok_eq_error_iff
  rw [hleaves, Outcome.mapM_eq_error_iff]
  constructor
  · rintro ⟨before, c, after, hsplit, hbefore, hc⟩
    refine ⟨before, c, ⟨⟨after, hsplit⟩, hbefore, fun text htext => ?_⟩, hc⟩
    rw [htext] at hc
    cases hc
  · rintro ⟨before, c, ⟨⟨after, hsplit⟩, hbefore, -⟩, hc⟩
    exact ⟨before, c, after, hsplit, hbefore, hc⟩

/-! ### Literals -/

/-- **An operand has no literal exactly if its field is one of times and it is out of
range.** -/
theorem literal_eq_error_iff {e : Failure} : literal f v = .error e ↔
    (f.isDateTime || f.isDate) = true ∧
      ∃ fault, v.timestamp? = some (.error fault) ∧ e = .time fault := by
  have hbool : ∀ b fault, (Value.bool b).timestamp? ≠ some (.error fault) :=
    fun b fault h => nomatch Value.timestamp?_eq_error_iff.1 ⟨fault, h⟩
  have hform : ∀ {x : Option (Except Time.Fault String)},
      (x.map fun r => r.mapError Failure.time) = some (.error e) ↔
        ∃ fault, x = some (.error fault) ∧ e = .time fault := by
    intro x
    simp only [Option.map_eq_some_iff, Outcome.mapError_eq_error_iff]
    constructor
    · rintro ⟨_, hx, fault, rfl, rfl⟩
      exact ⟨fault, hx, rfl⟩
    · rintro ⟨fault, hx, rfl⟩
      exact ⟨_, hx, fault, rfl, rfl⟩
  have hliteral : literal f v = .error e ↔ temporalLiteral? f v = some (.error e) := by
    unfold literal
    cases temporalLiteral? f v with
    | none => exact iff_of_false nofun nofun
    | some r => rw [Option.getD_some, Option.some.injEq]
  rw [hliteral]
  unfold temporalLiteral?
  cases hdateTime : f.isDateTime with
  | true =>
    cases v with
    | text s => simp [Value.timestamp?, Value.timestampOfMillis?]
    | bool b => simp [hbool]
    | _ => simp [hform, Value.literalDateTime?_eq_error_iff]
  | false =>
    cases hdate : f.isDate with
    | true =>
      cases v with
      | text s => simp [Value.timestamp?, Value.timestampOfMillis?]
      | bool b => simp [hbool]
      | _ => simp [hform, Value.literalDate?_eq_error_iff]
    | false => simp

theorem literals_eq (f : Catalog.Field) (vs : List Value) :
    literals f vs = vs.mapM (literal f) := by
  induction vs with
  | nil => rfl
  | cons v vs ih =>
    rw [literals, List.mapM_cons, ih]
    rfl

/-! ### One leaf -/

theorem renderOperand_matches (h : c.comparator = .matches) : renderOperand f c =
    ((patternOf c.operand).mapError Failure.filter).map fun p => "'" ++ p ++ "'" := by
  unfold renderOperand
  rw [h]
  cases patternOf c.operand <;> rfl

theorem renderOperand_list (h : c.comparator.takesList = true) : renderOperand f c =
    if operandsIn c.operand = [] then .error (.filter (.needsValue c.comparator c.field))
    else (literals f (operandsIn c.operand)).map fun ss => "(" ++ Value.joined "," ss ++ ")" := by
  have hoperands : renderOperand f c = (do
      let vs ← (operands c).mapError Failure.filter
      let ss ← literals f vs
      .ok ("(" ++ Value.joined "," ss ++ ")")) := by
    unfold renderOperand
    cases hc : c.comparator with
    | isIn | notIn => rfl
    | _ => exact nomatch hc ▸ h
  rw [hoperands, operands_eq]
  cases operandsIn c.operand with
  | nil => rfl
  | cons v vs =>
    show (literals f (v :: vs) >>= fun ss => _) = _
    cases literals f (v :: vs) <;> rfl

theorem renderOperand_scalar (hmatches : c.comparator ≠ .matches)
    (h : c.comparator.takesList = false) : renderOperand f c =
      if isContainer c.operand then .error (.filter (.needsScalar c.comparator c.field))
      else literal f c.operand := by
  unfold renderOperand
  cases hc : c.comparator with
  | isIn | notIn => exact nomatch hc ▸ h
  | «matches» => exact absurd hc hmatches
  | _ => rfl

/-- Why a comparison is refused. -/
inductive Refused (catalog : Catalog) (c : Comparison) : Error → Prop
  | unknownField {names : List String} (hf : catalog.get? c.field = none)
    (hnames : catalog.textNames = .ok names) :
    Refused catalog c (.unknownField c.field catalog.name names)
  | pattern {e : Error} (hf : catalog.has c.field = true) (hc : c.comparator = .matches)
    (he : patternOf c.operand = .error e) : Refused catalog c e
  | noOperand (hf : catalog.has c.field = true) (hc : c.comparator.takesList = true)
    (hnil : operandsIn c.operand = []) : Refused catalog c (.needsValue c.comparator c.field)
  | container (hf : catalog.has c.field = true) (hmatches : c.comparator ≠ .matches)
    (hc : c.comparator.takesList = false) (hcontainer : isContainer c.operand = true) :
    Refused catalog c (.needsScalar c.comparator c.field)

/-- Why a comparison goes astray. -/
inductive Astray (catalog : Catalog) (c : Comparison) : Prop
  /-- Its field is not in the catalog, and a name that is in it is no text. -/
  | names {kind : String} (hf : catalog.get? c.field = none)
    (hnames : catalog.textNames = .error kind)
  /-- Its field is one of times, and an operand is out of range. -/
  | operand {f : Catalog.Field} {v : Value} (hf : catalog.get? c.field = some f)
    (htime : (f.isDateTime || f.isDate) = true) (hmatches : c.comparator ≠ .matches)
    (hc : c.comparator.takesList = true ∨ isContainer c.operand = false)
    (hv : v ∈ operandsIn c.operand) (hrange : v.OutOfRange)

/-- The literals of a list fail as the first one does that fails. -/
theorem literals_eq_error_iff {vs : List Value} {e : Failure} : literals f vs = .error e ↔
    ∃ before v after, vs = before ++ v :: after ∧ (∀ u ∈ before, ∃ text, literal f u = .ok text) ∧
      literal f v = .error e := by
  rw [literals_eq, Outcome.mapM_eq_error_iff]

/-- An operand out of range is a fault on a field of times. -/
theorem exists_literal_fault (htime : (f.isDateTime || f.isDate) = true) (h : v.OutOfRange) :
    ∃ fault, literal f v = .error (.fault fault) := by
  obtain ⟨fault, hrange⟩ := Value.timestamp?_eq_error_iff.2 h
  exact ⟨_, literal_eq_error_iff.2 ⟨htime, fault, hrange, rfl⟩⟩

/-- One operand out of range is enough for a fault of the whole list. -/
theorem exists_literals_fault {vs : List Value} (htime : (f.isDateTime || f.isDate) = true)
    (hv : v ∈ vs) (h : v.OutOfRange) : ∃ fault, literals f vs = .error (.fault fault) := by
  cases hliterals : literals f vs with
  | ok ss =>
    obtain ⟨fault, hfault⟩ := exists_literal_fault htime h
    obtain ⟨text, htext⟩ :=
      Outcome.exists_mapM_eq_ok_iff.1 ⟨ss, literals_eq f vs ▸ hliterals⟩ v hv
    exact nomatch hfault.symm.trans htext
  | error e =>
    obtain ⟨_, u, _, -, -, hu⟩ := literals_eq_error_iff.1 hliterals
    obtain ⟨-, fault, -, rfl⟩ := literal_eq_error_iff.1 hu
    exact ⟨_, rfl⟩

/-- **A comparison that fails is refused or goes astray.** -/
theorem refused_or_astray {e : Failure} (h : renderComparison catalog c = .error e) :
    (∃ r, e = .filter r ∧ Refused catalog c r) ∨
      (∃ fault, e = .fault fault) ∧ Astray catalog c := by
  unfold renderComparison at h
  split at h
  · next hf =>
    obtain rfl := Except.error.inj h
    unfold unknownField
    cases hnames : catalog.textNames with
    | ok names => exact .inl ⟨_, rfl, .unknownField hf hnames⟩
    | error kind => exact .inr ⟨⟨_, rfl⟩, .names hf hnames⟩
  · next f hf =>
    have hhas : catalog.has c.field = true := Option.isSome_of_eq_some hf
    rw [Outcome.map_eq_error_iff] at h
    by_cases hmatches : c.comparator = .matches
    · rw [renderOperand_matches hmatches, Outcome.map_eq_error_iff,
        Outcome.mapError_eq_error_iff] at h
      obtain ⟨r, hr, rfl⟩ := h
      exact .inl ⟨r, rfl, .pattern hhas hmatches hr⟩
    · cases hc : c.comparator.takesList with
      | true =>
        rw [renderOperand_list hc] at h
        split at h
        · next hnil =>
          obtain rfl := Except.error.inj h
          exact .inl ⟨_, rfl, .noOperand hhas hc hnil⟩
        · rw [Outcome.map_eq_error_iff, literals_eq_error_iff] at h
          obtain ⟨before, v, after, hsplit, -, hv⟩ := h
          obtain ⟨htime, fault, hrange, rfl⟩ := literal_eq_error_iff.1 hv
          refine .inr ⟨⟨_, rfl⟩, .operand hf htime hmatches (.inl hc) (v := v) ?_
            (Value.timestamp?_eq_error_iff.1 ⟨fault, hrange⟩)⟩
          rw [hsplit]
          exact List.mem_append_right _ List.mem_cons_self
      | false =>
        rw [renderOperand_scalar hmatches hc] at h
        split at h
        · next hcontainer =>
          obtain rfl := Except.error.inj h
          exact .inl ⟨_, rfl, .container hhas hmatches hc hcontainer⟩
        · next hcontainer =>
          have hsingle := eq_false_of_ne_true hcontainer
          obtain ⟨htime, fault, hrange, rfl⟩ := literal_eq_error_iff.1 h
          refine .inr ⟨⟨_, rfl⟩, .operand hf htime hmatches (.inr hsingle) (v := c.operand) ?_
            (Value.timestamp?_eq_error_iff.1 ⟨fault, hrange⟩)⟩
          rw [operandsIn_of_not_isContainer hsingle]
          exact List.mem_cons_self

/-- **A comparison is an error of the filter exactly if it is refused.** -/
theorem renderComparison_eq_filter_iff {r : Error} :
    renderComparison catalog c = .error (.filter r) ↔ Refused catalog c r := by
  constructor
  · intro h
    rcases refused_or_astray h with ⟨_, heq, hr⟩ | ⟨⟨_, heq⟩, -⟩
    · obtain rfl := DirectiveError.filter.inj (Failure.error.inj heq)
      exact hr
    · exact nomatch heq
  · intro h
    have hknown : catalog.has c.field = true → ∃ f, catalog.get? c.field = some f :=
      Option.isSome_iff_exists.1
    unfold renderComparison
    cases h with
    | unknownField hf hnames =>
      rw [hf]
      simp only [unknownField, hnames]
    | pattern hhas hc he =>
      obtain ⟨f, hf⟩ := hknown hhas
      rw [hf]
      simp only [renderOperand_matches hc, he]
      rfl
    | noOperand hhas hc hnil =>
      obtain ⟨f, hf⟩ := hknown hhas
      rw [hf]
      simp only [renderOperand_list hc, hnil, if_true]
      rfl
    | container hhas hmatches hc hcontainer =>
      obtain ⟨f, hf⟩ := hknown hhas
      rw [hf]
      simp only [renderOperand_scalar hmatches hc, hcontainer, if_true]
      rfl

/-- **A comparison is a fault exactly if it goes astray.** -/
theorem exists_fault_iff :
    (∃ fault, renderComparison catalog c = .error (.fault fault)) ↔ Astray catalog c := by
  constructor
  · rintro ⟨fault, h⟩
    rcases refused_or_astray h with ⟨_, heq, -⟩ | ⟨-, hastray⟩
    · exact nomatch heq
    · exact hastray
  · intro h
    unfold renderComparison
    cases h with
    | names hf hnames =>
      rw [hf]
      simp only [unknownField, hnames]
      exact ⟨_, rfl⟩
    | @operand f v hf htime hmatches hc hv hrange =>
      rw [hf]
      simp only [Outcome.map_eq_error_iff]
      cases hlist : c.comparator.takesList with
      | true =>
        rw [renderOperand_list hlist, if_neg (List.ne_nil_of_mem hv)]
        simp only [Outcome.map_eq_error_iff]
        exact exists_literals_fault htime hv hrange
      | false =>
        have hsingle : isContainer c.operand = false :=
          hc.resolve_left (by rw [hlist]; exact Bool.false_ne_true)
        rw [operandsIn_of_not_isContainer hsingle, List.mem_singleton] at hv
        subst hv
        rw [renderOperand_scalar hmatches hlist, if_neg (by rw [hsingle]; exact Bool.false_ne_true)]
        exact exists_literal_fault htime hrange

end Filter
end RecordBridge
