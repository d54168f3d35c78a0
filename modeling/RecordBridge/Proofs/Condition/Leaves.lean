/-
# Comparisons are written as leaves

What `Filter.renderComparison` writes for a comparison is a leaf of the query
language, whatever the operand holds: texts go between quotes with their
quotes and backslashes escaped, patterns likewise, and everything else is a
word.  There is one way around the quotes.  A field of days or of points in
time takes a text over as it stands, so the comparisons that do this are set
apart by `Comparison.hasRawText`.
-/

import RecordBridge.Filter.Render
import RecordBridge.Proofs.Condition.Words
import RecordBridge.Proofs.Outcome

namespace RecordBridge

namespace Catalog

/-- Whether the names in a catalog are identifiers. -/
def HasIdentifiers (catalog : Catalog) : Prop :=
  ∀ name, .text name ∈ catalog.names → Filter.IsIdentifier name

/-- A field that is found stands in the catalog under its name. -/
theorem mem_names_of_get? {catalog : Catalog} {name : String} {f : Field}
    (h : catalog.get? name = some f) : .text name ∈ catalog.names := by
  obtain ⟨e, he, -⟩ := Option.map_eq_some_iff.1 h
  have hname : e.1 = .text name := by simpa using List.find?_some he
  rw [← hname]
  exact List.mem_map_of_mem (List.mem_of_find?_eq_some he)

end Catalog

namespace Filter

/-- Whether a value is a text. -/
def isText : Value → Bool
  | .text _ => true
  | _ => false

/-- The operands in a value: the members of a list, or the value itself. -/
def operandsIn : Value → List Value
  | .list vs | .tuple vs | .set vs => vs
  | v => [v]

/-- Whether an operand is a text, or a list of operands with a text in it. -/
def hasText (operand : Value) : Bool := (operandsIn operand).any isText

/-- Whether a comparison takes a text over without quotes: its field holds days
or points in time, and there is a text in its operand. -/
def Comparison.hasRawText (catalog : Catalog) (c : Comparison) : Bool :=
  (catalog.get? c.field).any (fun f => f.isDateTime || f.isDate) && hasText c.operand

/-! ### Quoted literals -/

theorem isBody_quoteChar (c : Char) : IsBody (quoteChar c) := by
  unfold quoteChar
  split
  · exact .escape .nil
  · next h => exact .plain (fun hq => h (.inr hq)) (fun hs => h (.inl hs)) .nil

/-- A body made up of bodies. -/
theorem isBody_flatMap {α : Type} {f : α → List Char} {xs : List α} (h : ∀ x, IsBody (f x)) :
    IsBody (xs.flatMap f) := by
  induction xs with
  | nil => exact .nil
  | cons x xs ih =>
    rw [List.flatMap_cons]
    exact (h x).append ih

theorem isLiteral_quote (s : String) : IsLiteral (quote s).toList := by
  rw [quote, String.toList_ofList]
  exact .quoted (isBody_flatMap isBody_quoteChar)

theorem isBody_escapeLiteral (c : Char) : IsBody (Pattern.escapeLiteral c) := by
  unfold Pattern.escapeLiteral
  split
  · exact .escape .nil
  split
  · exact .escape .nil
  split
  · exact .escape .nil
  split
  · exact .escape .nil
  split
  · exact .escape .nil
  · next h _ _ _ _ =>
    exact .plain (fun hq => h (.inl hq)) (fun hs => h (.inr (.inr (.inl hs)))) .nil

theorem isBody_wildcard : IsBody ['%'] := .plain (by decide) (by decide) .nil

theorem isBody_itemLike (i : Pattern.Item) : IsBody i.like := by
  cases i with
  | literal c => exact isBody_escapeLiteral c
  | anyChar => exact .plain (by decide) (by decide) .nil
  | anyRun => exact isBody_wildcard
  | someRun => exact .plain (by decide) (by decide) isBody_wildcard

theorem isBody_regexLike (r : Pattern.Regex) : IsBody r.like := by
  refine IsBody.append (IsBody.append ?_ (isBody_flatMap isBody_itemLike)) ?_
  · split
    · exact .nil
    · exact isBody_wildcard
  · split
    · exact .nil
    · exact isBody_wildcard

/-- **A pattern is ready to stand between quotes:** it has no quote that is not
escaped, and no backslash at its end that would escape the closing one. -/
theorem isBody_likeOf {s like : String} (h : Pattern.likeOf s = .ok like) : IsBody like.toList := by
  unfold Pattern.likeOf at h
  split at h
  · rw [← Except.ok.inj h]
    exact isBody_wildcard
  · obtain ⟨r, -, rfl⟩ := Outcome.map_eq_ok_iff.1 h
    rw [String.toList_ofList]
    exact isBody_regexLike r

/-! ### Literals of a field -/

/-- An operand by its own kind is a literal. -/
theorem isLiteral_plainLiteral (v : Value) : IsLiteral (plainLiteral v).toList := by
  unfold plainLiteral
  split
  · exact .word (.of_all (by decide) (by decide))
  · split
    · exact .word (.of_all (by decide) (by decide))
    · exact .word (.of_all (by decide) (by decide))
  · exact .word (isWord_intText _)
  · exact .word (isWord_doubleText _)
  · exact .word (isWord_decimalText _)
  · exact isLiteral_quote _

/-- A number or a time as a point in time is a word. -/
theorem isWord_literalDateTime {v : Value} {s : String}
    (h : v.literalDateTime? = some (.ok s)) : IsWord s.toList := by
  obtain ⟨r, -, hr⟩ := Option.map_eq_some_iff.1 h
  obtain ⟨t, -, rfl⟩ := Outcome.map_eq_ok_iff.1 hr
  exact isWord_timestampLiteral t

/-- A number, a time or a day as a day is a word. -/
theorem isWord_literalDate {v : Value} {s : String} (h : v.literalDate? = some (.ok s)) :
    IsWord s.toList := by
  unfold Value.literalDate? at h
  split at h
  · obtain rfl := Except.ok.inj (Option.some.inj h)
    exact isWord_isoText _
  · obtain ⟨r, -, hr⟩ := Option.map_eq_some_iff.1 h
    obtain ⟨t, -, rfl⟩ := Outcome.map_eq_ok_iff.1 hr
    exact isWord_plainText _

/-- An operand in the form of a field of times is a word, unless it is a text. -/
theorem isWord_temporalLiteral {f : Catalog.Field} {v : Value} {s : String}
    (hv : isText v = false) (h : temporalLiteral? f v = some (.ok s)) : IsWord s.toList := by
  have hform : ∀ {x : Option (Except Time.Fault String)},
      x.map (fun r => r.mapError Failure.time) = some (.ok s) → x = some (.ok s) := by
    intro x hx
    obtain ⟨r, rfl, hr⟩ := Option.map_eq_some_iff.1 hx
    rw [Outcome.mapError_eq_ok_iff.1 hr]
  unfold temporalLiteral? at h
  split at h
  · split at h
    · exact absurd hv (by simp [isText])
    · exact nomatch h
    · exact isWord_literalDateTime (hform h)
  · split at h
    · split at h
      · exact absurd hv (by simp [isText])
      · exact nomatch h
      · exact isWord_literalDate (hform h)
    · exact nomatch h

/-- Only fields of times have a form of their own for an operand. -/
theorem isTemporal_of_temporalLiteral {f : Catalog.Field} {v : Value} {r : Except Failure String}
    (h : temporalLiteral? f v = some r) : (f.isDateTime || f.isDate) = true := by
  unfold temporalLiteral? at h
  split at h
  · next hf => rw [hf, Bool.true_or]
  · split at h
    · next hf => rw [hf, Bool.or_true]
    · exact nomatch h

/-- A text on a field of times is taken over. -/
theorem temporalLiteral?_text {f : Catalog.Field} (htime : (f.isDateTime || f.isDate) = true)
    (s : String) : temporalLiteral? f (.text s) = some (.ok s) := by
  unfold temporalLiteral?
  cases hf : f.isDateTime with
  | true => rfl
  | false =>
    rw [hf, Bool.false_or] at htime
    rw [htime]
    rfl

/-- An operand is written as a literal, unless it is a text on a field of
times. -/
theorem isLiteral_literal {f : Catalog.Field} {v : Value} {s : String}
    (hv : (f.isDateTime || f.isDate) = true → isText v = false) (h : literal f v = .ok s) :
    IsLiteral s.toList := by
  unfold literal at h
  cases ht : temporalLiteral? f v with
  | none =>
    rw [ht, Option.getD_none] at h
    rw [← Except.ok.inj h]
    exact isLiteral_plainLiteral v
  | some r =>
    rw [ht, Option.getD_some] at h
    rw [h] at ht
    exact .word (isWord_temporalLiteral (hv (isTemporal_of_temporalLiteral ht)) ht)

/-- The literals of a list of operands, with commas between them. -/
theorem isLiterals_literals {f : Catalog.Field} {vs : List Value} {ss : List String}
    (hne : vs ≠ []) (hvs : (f.isDateTime || f.isDate) = true → vs.any isText = false)
    (h : literals f vs = .ok ss) : IsLiterals (Value.joined "," ss).toList := by
  induction vs generalizing ss with
  | nil => exact absurd rfl hne
  | cons v vs ih =>
    obtain ⟨s, hs, h⟩ := Outcome.bind_eq_ok_iff.1 h
    obtain ⟨ts, hts, h⟩ := Outcome.bind_eq_ok_iff.1 h
    obtain rfl := Except.ok.inj h
    have hv : IsLiteral s.toList := by
      refine isLiteral_literal (fun hf => ?_) hs
      have := hvs hf
      rw [List.any_cons, Bool.or_eq_false_iff] at this
      exact this.1
    cases vs with
    | nil =>
      obtain rfl := Except.ok.inj hts
      rw [Value.joined, String.intercalate_singleton]
      exact .one hv
    | cons w ws =>
      have hrest := ih (List.cons_ne_nil _ _) (fun hf => by
        have := hvs hf
        rw [List.any_cons, Bool.or_eq_false_iff] at this
        exact this.2) hts
      have hts_ne : ts ≠ [] := by
        rintro rfl
        obtain ⟨x, -, hx⟩ := Outcome.bind_eq_ok_iff.1 hts
        obtain ⟨xs, -, hx⟩ := Outcome.bind_eq_ok_iff.1 hx
        exact nomatch Except.ok.inj hx
      rw [Value.joined, String.intercalate_cons_of_ne_nil hts_ne, String.toList_append,
        String.toList_append, List.append_assoc]
      exact .more hv hrest

/-! ### Comparisons -/

/-- What is written for an operand as a pattern is ready to stand between quotes. -/
theorem isBody_patternOf {operand : Value} {p : String} (h : patternOf operand = .ok p) :
    IsBody p.toList := by
  unfold patternOf at h
  split at h
  · exact isBody_likeOf (Outcome.mapError_eq_ok_iff.1 h)
  · exact isBody_likeOf (Outcome.mapError_eq_ok_iff.1 h)
  · exact nomatch h

/-- A pattern between quotes is a literal. -/
theorem isLiteral_pattern {operand : Value} {p : String} (h : patternOf operand = .ok p) :
    IsLiteral ("'" ++ p ++ "'").toList := by
  rw [String.toList_append, String.toList_append]
  exact .quoted (isBody_patternOf h)

/-- A comparison with a list has the operands in its value, if there are any. -/
theorem operands_eq (c : Comparison) :
    operands c = if (operandsIn c.operand).isEmpty then .error (.needsValue c.comparator c.field)
      else .ok (operandsIn c.operand) := by
  unfold operands operandsIn
  rfl

theorem operandsIn_of_not_isContainer {v : Value} (h : isContainer v = false) :
    operandsIn v = [v] := by
  cases v with
  | list _ | tuple _ | set _ | object _ => exact nomatch h
  | _ => rfl

/-- **What is written behind an operator:** a pattern between quotes, the literals of the
operands in parentheses, or the literal of one operand. -/
theorem renderOperand_cases {f : Catalog.Field} {c : Comparison} {s : String}
    (h : renderOperand f c = .ok s) :
    (c.comparator = .matches ∧ ∃ p, patternOf c.operand = .ok p ∧ s = "'" ++ p ++ "'") ∨
      (c.comparator.takesList = true ∧ operandsIn c.operand ≠ [] ∧
        ∃ ss, literals f (operandsIn c.operand) = .ok ss ∧ s = "(" ++ Value.joined "," ss ++ ")") ∨
      (c.comparator ≠ .matches ∧ c.comparator.takesList = false ∧
        operandsIn c.operand = [c.operand] ∧ literal f c.operand = .ok s) := by
  have hlist : ∀ {s : String}, (do
      let vs ← (operands c).mapError Failure.filter
      let ss ← literals f vs
      .ok ("(" ++ Value.joined "," ss ++ ")")) = Except.ok s → operandsIn c.operand ≠ [] ∧
        ∃ ss, literals f (operandsIn c.operand) = .ok ss ∧
          s = "(" ++ Value.joined "," ss ++ ")" := by
    intro s h
    obtain ⟨vs, hvs, h⟩ := Outcome.bind_eq_ok_iff.1 h
    obtain ⟨ss, hss, hs⟩ := Outcome.bind_eq_ok_iff.1 h
    rw [Outcome.mapError_eq_ok_iff, operands_eq] at hvs
    split at hvs
    · exact nomatch hvs
    · next hne =>
      obtain rfl := Except.ok.inj hvs
      exact ⟨fun hnil => hne (by rw [hnil]; rfl), ss, hss, (Except.ok.inj hs).symm⟩
  unfold renderOperand at h
  split at h
  · next hc =>
    obtain ⟨p, hp, h⟩ := Outcome.bind_eq_ok_iff.1 h
    exact .inl ⟨hc, p, Outcome.mapError_eq_ok_iff.1 hp, (Except.ok.inj h).symm⟩
  · next hc => exact .inr (.inl ⟨by rw [hc]; rfl, hlist h⟩)
  · next hc => exact .inr (.inl ⟨by rw [hc]; rfl, hlist h⟩)
  · next hmatches hin hnotIn =>
    have hscalar : c.comparator.takesList = false := by
      cases hc : c.comparator with
      | isIn => exact absurd hc hin
      | notIn => exact absurd hc hnotIn
      | _ => rfl
    split at h
    · exact nomatch h
    · next hcontainer =>
      have hone := operandsIn_of_not_isContainer (eq_false_of_ne_true hcontainer)
      exact .inr (.inr ⟨hmatches, hscalar, hone, h⟩)

/-- The operand of a comparison with a scalar is a literal. -/
theorem isLiteral_renderOperand {f : Catalog.Field} {c : Comparison} {s : String}
    (hc : c.comparator.takesList = false)
    (hraw : (f.isDateTime || f.isDate) = true → hasText c.operand = false)
    (h : renderOperand f c = .ok s) : IsLiteral s.toList := by
  rcases renderOperand_cases h with ⟨-, p, hp, rfl⟩ | ⟨hlist, -, -⟩ | ⟨-, -, hone, hs⟩
  · exact isLiteral_pattern hp
  · exact absurd (hc.symm.trans hlist) Bool.false_ne_true
  · refine isLiteral_literal (fun hf => ?_) hs
    have htext := hraw hf
    rw [hasText, hone, List.any_cons, List.any_nil, Bool.or_false] at htext
    exact htext

/-- The operands of a comparison with a list are literals in parentheses. -/
theorem isLiterals_renderOperand {f : Catalog.Field} {c : Comparison} {s : String}
    (hc : c.comparator.takesList = true)
    (hraw : (f.isDateTime || f.isDate) = true → hasText c.operand = false)
    (h : renderOperand f c = .ok s) :
    ∃ operands, s.toList = '(' :: operands ++ [')'] ∧ IsLiterals operands := by
  rcases renderOperand_cases h with ⟨hmatches, -⟩ | ⟨-, hne, ss, hss, rfl⟩ | ⟨-, hscalar, -⟩
  · rw [hmatches] at hc
    exact nomatch hc
  · refine ⟨_, ?_, isLiterals_literals hne hraw hss⟩
    rw [String.toList_append, String.toList_append]
    rfl
  · exact absurd (hscalar.symm.trans hc) Bool.false_ne_true

/-- **What is written for a comparison is a leaf**, unless a text is taken over
without quotes. -/
theorem isLeaf_renderComparison {catalog : Catalog} {c : Comparison} {s : String}
    (hcat : catalog.HasIdentifiers) (hraw : c.hasRawText catalog = false)
    (h : renderComparison catalog c = .ok s) : IsLeaf s.toList := by
  unfold renderComparison at h
  split at h
  · exact nomatch h
  · next f hf =>
    obtain ⟨operand, ho, rfl⟩ := Outcome.map_eq_ok_iff.1 h
    have hname : IsIdentifier c.field := hcat c.field (Catalog.mem_names_of_get? hf)
    have htext : (f.isDateTime || f.isDate) = true → hasText c.operand = false := by
      intro htime
      rw [Comparison.hasRawText, hf, Option.any_some, htime, Bool.true_and] at hraw
      exact hraw
    rw [String.toList_append, String.toList_append, List.append_assoc]
    cases hc : c.comparator.takesList with
    | false => exact .scalar hname hc (isLiteral_renderOperand hc htext ho)
    | true =>
      obtain ⟨operands, hop, hlist⟩ := isLiterals_renderOperand hc htext ho
      rw [hop]
      exact .list hname hc hlist

end Filter
end RecordBridge
