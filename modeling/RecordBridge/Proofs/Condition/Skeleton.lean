/-
# Operands do not shape a condition

What is written for a filter has the skeleton of the filter, whatever its
operands hold (`skeletonOf_render`): names, operators, connectives and
parentheses come from the tree, and each operand is one literal in the place
of one.  So two filters that differ in their operands only are written with
one skeleton (`skeletonOf_eq_of_sameShape`).

There is one way for an operand to become more than that.  A field of days or
of points in time takes a text over as it stands, for a literal without
quotes; a text that is no literal brings its own words and marks with it
(`takenOver_reshapes`).
-/

import Mathlib.Algebra.Ring.Nat
import RecordBridge.Proofs.Condition.Meaning
import RecordBridge.Proofs.Condition.Tokens

namespace RecordBridge
namespace Filter

namespace Comparator

/-- The tokens of an operator. -/
def tokens : Comparator → List Token
  | .eq => [.mark '=']
  | .ne => [.mark '!', .mark '=']
  | .gt => [.mark '>']
  | .gte => [.mark '>', .mark '=']
  | .lt => [.mark '<']
  | .lte => [.mark '<', .mark '=']
  | .isIn => [.word "IN".toList]
  | .notIn => [.word "NOT".toList, .word "IN".toList]
  | .matches => [.word "LIKE".toList]

/-- The place behind an operator. -/
def place : Comparator → Place
  | .isIn | .notIn => .behindIn
  | .matches => .condition
  | _ => .operand

end Comparator

/-- The number of operands of a comparison. -/
def Comparison.operandCount (c : Comparison) : Nat :=
  if c.comparator.takesList then (operandsIn c.operand).length else 1

/-- Literals with commas between them, in parentheses. -/
def literalList (n : Nat) : List Token :=
  .mark '(' :: ((List.replicate n Token.literal).intersperse (.mark ',') ++ [.mark ')'])

/-- The skeleton of what stands behind the operator of a comparison. -/
def Comparison.operandSkeleton (c : Comparison) : List Token :=
  if c.comparator.takesList then literalList c.operandCount else [.literal]

/-- The skeleton of a comparison: its field, its operator and one literal for
each operand. -/
def Comparison.skeleton (c : Comparison) : List Token :=
  .word c.field.toList :: (c.comparator.tokens ++ c.operandSkeleton)

namespace Tree

mutual
/-- The skeleton of a filter. -/
def skeleton : Tree → List Token
  | .leaf c => c.skeleton
  | .group connective true members =>
    .mark '(' :: (List.intercalate [connective.token] (skeletons members) ++ [.mark ')'])
  | .group connective false members => List.intercalate [connective.token] (skeletons members)

/-- The skeleton of each filter. -/
def skeletons : List Tree → List (List Token)
  | [] => []
  | t :: ts => skeleton t :: skeletons ts
end

mutual
/-- Whether two filters differ in the values of their operands only: they have
the same groups, fields and operators, and lists of operands of one length. -/
def SameShape : Tree → Tree → Prop
  | .leaf c, .leaf d =>
    c.field = d.field ∧ c.comparator = d.comparator ∧ c.operandCount = d.operandCount
  | .group j g ts, .group k h us => j = k ∧ g = h ∧ SameShapes ts us
  | _, _ => False

/-- Whether filters differ in the values of their operands only. -/
def SameShapes : List Tree → List Tree → Prop
  | [], [] => True
  | t :: ts, u :: us => SameShape t u ∧ SameShapes ts us
  | _, _ => False
end

mutual
/-- The operands are not part of the skeleton. -/
theorem SameShape.skeleton_eq : ∀ {t u : Tree}, t.SameShape u → t.skeleton = u.skeleton
  | .leaf c, .leaf d, h => by
    obtain ⟨hfield, hcomparator, hcount⟩ := h
    rw [skeleton, skeleton, Comparison.skeleton, Comparison.skeleton, Comparison.operandSkeleton,
      Comparison.operandSkeleton, hfield, hcomparator, hcount]
  | .group j g ts, .group k h us, hs => by
    obtain ⟨rfl, rfl, hs⟩ := hs
    cases g with
    | true => rw [skeleton, skeleton, SameShapes.skeletons_eq hs]
    | false => rw [skeleton, skeleton, SameShapes.skeletons_eq hs]
  | .leaf _, .group _ _ _, h => h.elim
  | .group _ _ _, .leaf _, h => h.elim

/-- The operands are not part of the skeletons. -/
theorem SameShapes.skeletons_eq :
    ∀ {ts us : List Tree}, SameShapes ts us → skeletons ts = skeletons us
  | [], [], _ => rfl
  | t :: ts, u :: us, h => by
    rw [skeletons, skeletons, SameShape.skeleton_eq h.1, SameShapes.skeletons_eq h.2]
  | [], _ :: _, h => h.elim
  | _ :: _, [], h => h.elim
end

end Tree

/-! ### Comparisons -/

/-- A text that a comparison takes over without quotes: its field holds days or
points in time, and it is no comparison with a pattern. -/
structure Comparison.TakesOver (catalog : Catalog) (c : Comparison) (s : String) : Prop where
  not_matches : c.comparator ≠ .matches
  isTemporal : (catalog.get? c.field).any (fun f => f.isDateTime || f.isDate) = true
  mem_operands : .text s ∈ operandsIn c.operand

/-- Whether the texts that a comparison takes over are literals. -/
def Comparison.TakesOverLiterals (catalog : Catalog) (c : Comparison) : Prop :=
  ∀ s, c.TakesOver catalog s → IsLiteral s.toList

/-- An operand is written as a literal, if a text on a field of times is one. -/
theorem isLiteral_of_literal {f : Catalog.Field} {v : Value} {s : String}
    (hv : (f.isDateTime || f.isDate) = true → ∀ x, v = .text x → IsLiteral x.toList)
    (h : literal f v = .ok s) : IsLiteral s.toList := by
  by_cases htime : (f.isDateTime || f.isDate) = true
  · cases v with
    | text x =>
      rw [literal, temporalLiteral?_text htime, Option.getD_some] at h
      obtain rfl := Except.ok.inj h
      exact hv htime x rfl
    | _ => exact isLiteral_literal (fun _ => rfl) h
  · exact isLiteral_literal (fun ht => absurd ht htime) h

/-- There are as many literals as operands. -/
theorem isLiteral_of_literals {f : Catalog.Field} {vs : List Value} {ss : List String}
    (hvs : (f.isDateTime || f.isDate) = true → ∀ x, .text x ∈ vs → IsLiteral x.toList)
    (h : literals f vs = .ok ss) : ss.length = vs.length ∧ ∀ s ∈ ss, IsLiteral s.toList := by
  induction vs generalizing ss with
  | nil =>
    obtain rfl := Except.ok.inj h
    exact ⟨rfl, fun _ hs => absurd hs List.not_mem_nil⟩
  | cons v vs ih =>
    obtain ⟨s, hs, h⟩ := Outcome.bind_eq_ok_iff.1 h
    obtain ⟨ts, hts, h⟩ := Outcome.bind_eq_ok_iff.1 h
    obtain rfl := Except.ok.inj h
    obtain ⟨hlength, hall⟩ := ih (fun ht x hx => hvs ht x (List.mem_cons_of_mem _ hx)) hts
    have hliteral : IsLiteral s.toList :=
      isLiteral_of_literal (fun ht x hx => hvs ht x (hx ▸ List.mem_cons_self ..)) hs
    refine ⟨congrArg (· + 1) hlength, fun t ht => ?_⟩
    rcases List.mem_cons.1 ht with rfl | ht
    · exact hliteral
    · exact hall t ht

/-- A word before a blank. -/
theorem tokensFrom_word_blank {w : List Char} (hw : IsWord w) (r : List Char) :
    tokensFrom .between (w ++ ' ' :: r) = .word w :: tokensFrom .between r :=
  tokensFrom_word hw (endsWord_cons r (by decide))

/-- **An operator is read as its tokens**, whatever follows it. -/
theorem tokensFrom_queryText (c : Comparator) (r : List Char) :
    tokensFrom .between (c.queryText.toList ++ r) = c.tokens ++ tokensFrom .between r := by
  have hsign : ∀ x, x = '=' ∨ x = '!' ∨ x = '<' ∨ x = '>' → ∀ s,
      tokensFrom .between (x :: s) = .mark x :: tokensFrom .between s := by
    intro x hx s
    refine tokensFrom_mark ?_ ?_ ?_ s <;> rcases hx with rfl | rfl | rfl | rfl <;> decide
  have hIn : IsWord "IN".toList := .of_all (by decide) (by decide)
  cases c with
  | eq => exact hsign '=' (.inl rfl) r
  | gt => exact hsign '>' (.inr (.inr (.inr rfl))) r
  | lt => exact hsign '<' (.inr (.inr (.inl rfl))) r
  | ne =>
    show tokensFrom .between ('!' :: '=' :: r) = _
    rw [hsign '!' (.inr (.inl rfl)), hsign '=' (.inl rfl)]
    rfl
  | gte =>
    show tokensFrom .between ('>' :: '=' :: r) = _
    rw [hsign '>' (.inr (.inr (.inr rfl))), hsign '=' (.inl rfl)]
    rfl
  | lte =>
    show tokensFrom .between ('<' :: '=' :: r) = _
    rw [hsign '<' (.inr (.inr (.inl rfl))), hsign '=' (.inl rfl)]
    rfl
  | isIn =>
    show tokensFrom .between ("IN".toList ++ ' ' :: r) = _
    rw [tokensFrom_word_blank hIn]
    rfl
  | notIn =>
    show tokensFrom .between ("NOT".toList ++ ' ' :: ("IN".toList ++ ' ' :: r)) = _
    rw [tokensFrom_word_blank (.of_all (by decide) (by decide)), tokensFrom_word_blank hIn]
    rfl
  | «matches» =>
    show tokensFrom .between ("LIKE".toList ++ ' ' :: r) = _
    rw [tokensFrom_word_blank (.of_all (by decide) (by decide))]
    rfl

/-- The tokens of an operator stay, and its operand comes next. -/
theorem eraseFrom_tokens (c : Comparator) {p : Place} (hp : p = .condition ∨ p = .behindIn)
    (ts : List Token) : eraseFrom p (c.tokens ++ ts) = c.tokens ++ eraseFrom c.place ts := by
  rcases hp with rfl | rfl
  · cases c <;> rfl
  · cases c <;> rfl

/-- Field and operator of a comparison stay as they are. -/
theorem skeletonOf_comparison {name : String} (hname : IsIdentifier name) (c : Comparator)
    (r : List Char) :
    skeletonOf (name.toList ++ (c.queryText.toList ++ r))
      = .word name.toList :: (c.tokens ++ eraseFrom c.place (tokensFrom .between r)) := by
  have hword : IsWord name.toList := by
    refine ⟨hname.1, fun x hx => ?_⟩
    rw [isWordChar, hname.2 x hx, Bool.true_or]
  have hends : EndsWord (c.queryText.toList ++ r) := by
    cases c <;> exact endsWord_cons _ (by decide)
  have hplace : (Place.step .condition (.word name.toList)).2 = .condition ∨
      (Place.step .condition (.word name.toList)).2 = .behindIn := by
    by_cases hin : name.toList = ['I', 'N']
    · exact .inr (if_pos hin)
    · exact .inl (if_neg hin)
  rw [skeletonOf, tokensFrom_word hword hends, tokensFrom_queryText]
  show Token.word name.toList :: eraseFrom _ _ = _
  rw [eraseFrom_tokens c hplace]

/-- Literals in parentheses, in the place behind `IN`. -/
theorem eraseFrom_literals {ss : List String} (hne : ss ≠ [])
    (hss : ∀ s ∈ ss, IsLiteral s.toList) (r : List Char) :
    eraseFrom .list (tokensFrom .between ((Value.joined "," ss).toList ++ ')' :: r))
      = (List.replicate ss.length Token.literal).intersperse (.mark ',')
          ++ .mark ')' :: skeletonOf r := by
  induction ss with
  | nil => exact absurd rfl hne
  | cons s ss ih =>
    have hs : IsLiteral s.toList := hss s (List.mem_cons_self ..)
    have hclose : EndsWord (')' :: r) := endsWord_cons r (by decide)
    cases ss with
    | nil =>
      obtain ⟨k, hk, hread⟩ := exists_tokensFrom_literal hs hclose
      rw [Value.joined, String.intercalate_singleton, hread, hk.eraseFrom_list,
        tokensFrom_mark (by decide) (by decide) (by decide)]
      rfl
    | cons t ts =>
      have ih := ih (List.cons_ne_nil _ _) fun u hu => hss u (List.mem_cons_of_mem _ hu)
      have hcomma : EndsWord (',' :: ((Value.joined "," (t :: ts)).toList ++ ')' :: r)) :=
        endsWord_cons _ (by decide)
      obtain ⟨k, hk, hread⟩ := exists_tokensFrom_literal hs hcomma
      have htext : (Value.joined "," (s :: t :: ts)).toList ++ ')' :: r
          = s.toList ++ ',' :: ((Value.joined "," (t :: ts)).toList ++ ')' :: r) := by
        rw [Value.joined, String.intercalate_cons_of_ne_nil (List.cons_ne_nil _ _),
          String.toList_append, String.toList_append, List.append_assoc, List.append_assoc]
        rfl
      rw [htext, hread, hk.eraseFrom_list, tokensFrom_mark (by decide) (by decide) (by decide)]
      show Token.literal :: .mark ',' :: eraseFrom .list _ = _
      rw [ih]
      rfl

/-- A pattern between quotes is one literal. -/
theorem eraseFrom_pattern {operand : Value} {p : String} (h : patternOf operand = .ok p)
    (r : List Char) :
    eraseFrom .condition (tokensFrom .between (("'" ++ p ++ "'").toList ++ r))
      = .literal :: skeletonOf r := by
  rw [String.toList_append, String.toList_append]
  show eraseFrom _ (tokensFrom .between ('\'' :: p.toList ++ ['\''] ++ r)) = _
  rw [tokensFrom_quoted (isBody_patternOf h)]
  rfl

/-- The operands of a comparison with a list are a list of literals. -/
theorem eraseFrom_operands {f : Catalog.Field} {c : Comparison} {ss : List String}
    (hc : c.comparator.takesList = true)
    (htext : (f.isDateTime || f.isDate) = true →
      ∀ x, .text x ∈ operandsIn c.operand → IsLiteral x.toList)
    (hne : operandsIn c.operand ≠ []) (hss : literals f (operandsIn c.operand) = .ok ss)
    (r : List Char) :
    eraseFrom .behindIn (tokensFrom .between (("(" ++ Value.joined "," ss ++ ")").toList ++ r))
      = c.operandSkeleton ++ skeletonOf r := by
  obtain ⟨hlength, hall⟩ := isLiteral_of_literals htext hss
  have hss_ne : ss ≠ [] := by
    rintro rfl
    exact hne (List.eq_nil_of_length_eq_zero hlength.symm)
  have hchars : ("(" ++ Value.joined "," ss ++ ")").toList ++ r
      = '(' :: ((Value.joined "," ss).toList ++ ')' :: r) := by
    rw [String.toList_append, String.toList_append, List.append_assoc]
    rfl
  rw [hchars, tokensFrom_mark (by decide) (by decide) (by decide)]
  show Token.mark '(' :: eraseFrom .list _ = _
  rw [eraseFrom_literals hss_ne hall, Comparison.operandSkeleton, Comparison.operandCount,
    if_pos hc, if_pos hc, literalList, hlength]
  simp only [List.cons_append, List.append_assoc, List.nil_append]

/-- **An operand is one literal for each value in it**, if a text that is taken
over is a literal. -/
theorem eraseFrom_renderOperand {f : Catalog.Field} {c : Comparison} {s : String}
    {r : List Char} (hr : EndsWord r)
    (htext : c.comparator ≠ .matches → (f.isDateTime || f.isDate) = true →
      ∀ x, .text x ∈ operandsIn c.operand → IsLiteral x.toList)
    (h : renderOperand f c = .ok s) :
    eraseFrom c.comparator.place (tokensFrom .between (s.toList ++ r))
      = c.operandSkeleton ++ skeletonOf r := by
  rcases renderOperand_cases h with
    ⟨hc, p, hp, rfl⟩ | ⟨hc, hne, ss, hss, rfl⟩ | ⟨hmatches, hc, hone, hs⟩
  · rw [Comparison.operandSkeleton, hc]
    exact eraseFrom_pattern hp r
  · have hplace : c.comparator ≠ .matches ∧ c.comparator.place = .behindIn := by
      revert hc
      cases c.comparator <;> decide
    rw [hplace.2]
    exact eraseFrom_operands hc (htext hplace.1) hne hss r
  · have hplace : c.comparator.place = .operand := by
      revert hc hmatches
      cases c.comparator <;> decide
    have hliteral : IsLiteral s.toList := by
      refine isLiteral_of_literal (fun ht x hx => htext hmatches ht x ?_) hs
      rw [hone, hx]
      exact List.mem_singleton_self _
    obtain ⟨k, hk, hread⟩ := exists_tokensFrom_literal hliteral hr
    rw [hplace, hread, hk.eraseFrom_operand, Comparison.operandSkeleton, hc]
    rfl

/-- **What is written for a comparison has its skeleton.** -/
theorem skeletonOf_renderComparison {catalog : Catalog} {c : Comparison} {s : String}
    {r : List Char} (hcat : catalog.HasIdentifiers)
    (htext : c.TakesOverLiterals catalog)
    (h : renderComparison catalog c = .ok s) (hr : EndsWord r) :
    skeletonOf (s.toList ++ r) = c.skeleton ++ skeletonOf r := by
  unfold renderComparison at h
  split at h
  · exact nomatch h
  · next f hf =>
    obtain ⟨operand, ho, rfl⟩ := Outcome.map_eq_ok_iff.1 h
    have hname : IsIdentifier c.field := hcat c.field (Catalog.mem_names_of_get? hf)
    have hoperand := eraseFrom_renderOperand hr
      (fun hm ht x hx => htext x ⟨hm, by rw [hf]; exact ht, hx⟩) ho
    rw [String.toList_append, String.toList_append, List.append_assoc, List.append_assoc,
      skeletonOf_comparison hname, hoperand, Comparison.skeleton, List.cons_append,
      List.append_assoc]

/-! ### Filters -/

theorem endsWord_connective (connective : Connective) (r : List Char) :
    EndsWord (connective.queryText.toList ++ r) := by
  cases connective <;> exact endsWord_cons _ (by decide)

mutual
/-- **What is written for a filter has its skeleton.**  The induction is on the
tree, before any text that does not go on with a word. -/
theorem skeletonOf_render {catalog : Catalog} (hcat : catalog.HasIdentifiers) :
    ∀ (t : Tree) {text : String} {r : List Char},
      (∀ c ∈ t.leaves, c.TakesOverLiterals catalog) →
        render catalog t = .ok text → EndsWord r →
          skeletonOf (text.toList ++ r) = t.skeleton ++ skeletonOf r
  | .leaf c, text, r, htext, h, hr => by
    rw [render] at h
    exact skeletonOf_renderComparison hcat (htext c (List.mem_singleton_self c)) h hr
  | .group connective grouped members, text, r, htext, h, hr => by
    rw [render] at h
    obtain ⟨parts, hparts, h⟩ := Outcome.bind_eq_ok_iff.1 h
    obtain rfl := Except.ok.inj h
    cases grouped with
    | false => exact skeletonOf_renderAll hcat connective members htext hparts hr
    | true =>
      have hclose : EndsWord (')' :: r) := endsWord_cons r (by decide)
      have hbody := skeletonOf_renderAll hcat connective members htext hparts hclose
      have hchars : (joinConditions connective true parts).toList ++ r
          = '(' :: ((joinConditions connective false parts).toList ++ ')' :: r) := by
        rw [joinConditions_grouped, String.toList_append, String.toList_append, List.append_assoc]
        rfl
      rw [hchars, skeletonOf_open, hbody, skeletonOf_close, Tree.skeleton]
      simp only [List.cons_append, List.append_assoc, List.nil_append]

/-- Filters joined by a connective have their skeletons, with the connective
between them. -/
theorem skeletonOf_renderAll {catalog : Catalog} (hcat : catalog.HasIdentifiers)
    (connective : Connective) :
    ∀ (ts : List Tree) {parts : List String} {r : List Char},
      (∀ c ∈ Tree.leavesAll ts, c.TakesOverLiterals catalog) →
        renderAll catalog ts = .ok parts → EndsWord r →
          skeletonOf ((joinConditions connective false parts).toList ++ r)
            = List.intercalate [connective.token] (Tree.skeletons ts) ++ skeletonOf r
  | [], parts, r, _, h, _ => by
    obtain rfl := Except.ok.inj h
    rfl
  | t :: ts, parts, r, htext, h, hr => by
    rw [renderAll] at h
    obtain ⟨s, hs, h⟩ := Outcome.bind_eq_ok_iff.1 h
    obtain ⟨ss, hss, h⟩ := Outcome.bind_eq_ok_iff.1 h
    obtain rfl := Except.ok.inj h
    have ht := fun c hc => htext c (List.mem_append_left _ hc)
    have hts := fun c hc => htext c (List.mem_append_right _ hc)
    cases ts with
    | nil =>
      obtain rfl := Except.ok.inj hss
      rw [joinConditions_singleton, skeletonOf_render hcat t ht hs hr, Tree.skeletons,
        Tree.skeletons, List.intercalate_singleton]
    | cons u us =>
      rw [toList_joinConditions_cons _ _ (renderAll_ne_nil hss), List.append_assoc,
        List.append_assoc, skeletonOf_render hcat t ht hs (endsWord_connective _ _),
        skeletonOf_connective, skeletonOf_renderAll hcat connective (u :: us) hts hss hr]
      simp only [Tree.skeletons, List.intercalate_cons_cons, List.append_assoc, List.cons_append,
        List.nil_append]
end

/-! ### The number of literals -/

theorem count_literalList (n : Nat) : (literalList n).count .literal = n := by
  have hcommas : ∀ n, ((List.replicate n Token.literal).intersperse (.mark ',')).count .literal
      = n := by
    intro n
    induction n with
    | zero => rfl
    | succ n ih =>
      cases n with
      | zero => rfl
      | succ n => simpa [List.replicate_succ] using ih
  simp [literalList, List.count_append, hcommas]

theorem Comparison.count_skeleton (c : Comparison) :
    c.skeleton.count .literal = c.operandCount := by
  have htokens : c.comparator.tokens.count .literal = 0 := by cases c.comparator <;> rfl
  have hoperands : c.operandSkeleton.count .literal = c.operandCount := by
    unfold Comparison.operandSkeleton
    split
    · exact count_literalList _
    · next h => rw [Comparison.operandCount, if_neg h]; rfl
  rw [Comparison.skeleton, List.count_cons_of_ne (by simp), List.count_append, htokens, hoperands,
    Nat.zero_add]

theorem count_intercalate (connective : Connective) (parts : List (List Token)) :
    (List.intercalate [connective.token] parts).count .literal
      = (parts.map (·.count .literal)).sum := by
  induction parts with
  | nil => rfl
  | cons part parts ih =>
    cases parts with
    | nil => simp
    | cons next parts =>
      have htoken : [connective.token].count .literal = 0 := by cases connective <;> rfl
      rw [List.intercalate_cons_cons, List.count_append, List.count_append, htoken, ih]
      simp only [List.map_cons, List.sum_cons, Nat.add_zero]

mutual
/-- The literals of a skeleton are the operands of the filter. -/
theorem Tree.count_skeleton : ∀ t : Tree,
    t.skeleton.count .literal = (t.leaves.map Comparison.operandCount).sum
  | .leaf c => by
    rw [Tree.skeleton, Tree.leaves, c.count_skeleton, List.map_singleton, List.sum_singleton]
  | .group connective true members => by
    rw [Tree.skeleton, Tree.leaves, List.count_cons_of_ne (by simp), List.count_append,
      count_intercalate, Tree.sum_count_skeletons members]
    rfl
  | .group connective false members => by
    rw [Tree.skeleton, Tree.leaves, count_intercalate, Tree.sum_count_skeletons members]

/-- The literals of several skeletons are the operands of the filters. -/
theorem Tree.sum_count_skeletons : ∀ ts : List Tree,
    ((Tree.skeletons ts).map (·.count .literal)).sum
      = ((Tree.leavesAll ts).map Comparison.operandCount).sum
  | [] => rfl
  | t :: ts => by
    rw [Tree.skeletons, Tree.leavesAll, List.map_cons, List.sum_cons, List.map_append,
      List.sum_append, Tree.count_skeleton t, Tree.sum_count_skeletons ts]
end

/-- **Operands do not shape a condition.**  Take two filters that differ in the
values of their operands only, and a catalog whose fields have identifiers for
names; and let each text that is taken over on a field of times be a literal.
If both are rendered, the two conditions have one skeleton.  It is the skeleton
of the filters, in which there are as many literals as operands. -/
theorem skeletonOf_eq_of_sameShape {catalog : Catalog} {t u : Tree} {x y : String}
    (hcat : catalog.HasIdentifiers) (hshape : t.SameShape u)
    (ht : ∀ c ∈ t.leaves, c.TakesOverLiterals catalog)
    (hu : ∀ c ∈ u.leaves, c.TakesOverLiterals catalog) (hx : render catalog t = .ok x)
    (hy : render catalog u = .ok y) :
    skeletonOf x.toList = skeletonOf y.toList ∧ skeletonOf x.toList = t.skeleton ∧
      (skeletonOf x.toList).count .literal = (t.leaves.map Comparison.operandCount).sum := by
  have hskeleton : ∀ {v : Tree} {text : String}, (∀ c ∈ v.leaves, c.TakesOverLiterals catalog) →
      render catalog v = .ok text → skeletonOf text.toList = v.skeleton := by
    intro v text hv hrender
    have h := skeletonOf_render hcat v hv hrender endsWord_nil
    rwa [List.append_nil, show skeletonOf [] = [] from rfl, List.append_nil] at h
  refine ⟨?_, hskeleton ht hx, ?_⟩
  · rw [hskeleton ht hx, hskeleton hu hy, hshape.skeleton_eq]
  · rw [hskeleton ht hx, t.count_skeleton]

/-- A disjunction over a list of two texts and a point in time. -/
def eitherFilter (first second since : String) : Tree :=
  .group .any true
    [.leaf ⟨"Name", .notIn, .list [.text first, .text second]⟩,
      .leaf ⟨"ReviewedAt", .gt, .text since⟩]

theorem eitherFilter_sameShape (a b c x y z : String) :
    (eitherFilter a b c).SameShape (eitherFilter x y z) := by
  simp [eitherFilter, Tree.SameShape, Tree.SameShapes, Comparison.operandCount, operandsIn]

theorem eitherFilter_takesOverLiterals {first second since : String} (h : IsLiteral since.toList) :
    ∀ c ∈ (eitherFilter first second since).leaves, c.TakesOverLiterals kindsCatalog := by
  intro c hc s hs
  have hleaf : c = ⟨"Name", .notIn, .list [.text first, .text second]⟩ ∨
      c = ⟨"ReviewedAt", .gt, .text since⟩ := by
    simpa [eitherFilter, Tree.leaves, Tree.leavesAll] using hc
  rcases hleaf with rfl | rfl
  · have hname : (kindsCatalog.get? "Name").any (fun f => f.isDateTime || f.isDate) = false := by
      decide
    exact nomatch hname.symm.trans hs.isTemporal
  · have hsince : s = since := by simpa [operandsIn] using hs.mem_operands
    rw [hsince]
    exact h

/-- What is written for the filter with plain operands. -/
def plainText : String := "(Name NOT IN ('a','b') OR ReviewedAt>2024-05-17)"

/-- What is written for it with operands that look like syntax. -/
def quotedText : String :=
  "(Name NOT IN ('\\') OR (Name!=\\'','\\\\') OR ReviewedAt>TODAY)"

/-- What is written for it with a text on the field of times that is no literal. -/
def smuggledText : String :=
  "(Name NOT IN ('a','b') OR ReviewedAt>2024-05-17 OR Employees!=null)"

/-- `skeletonOf_eq_of_sameShape` where the operands of one filter look like
syntax. -/
theorem skeletonOf_eq_of_sameShape_hostile :
    (eitherFilter "a" "b" "2024-05-17").SameShape (eitherFilter "') OR (Name!='" "\\" "TODAY") ∧
      render kindsCatalog (eitherFilter "a" "b" "2024-05-17") = .ok plainText ∧
      render kindsCatalog (eitherFilter "') OR (Name!='" "\\" "TODAY") = .ok quotedText ∧
      skeletonOf plainText.toList = skeletonOf quotedText.toList ∧
      skeletonOf plainText.toList = (eitherFilter "a" "b" "2024-05-17").skeleton ∧
      (skeletonOf plainText.toList).count .literal
        = ((eitherFilter "a" "b" "2024-05-17").leaves.map Comparison.operandCount).sum := by
  have hshape := eitherFilter_sameShape "a" "b" "2024-05-17" "') OR (Name!='" "\\" "TODAY"
  have hplain : render kindsCatalog (eitherFilter "a" "b" "2024-05-17") = .ok plainText := rfl
  have hquoted : render kindsCatalog (eitherFilter "') OR (Name!='" "\\" "TODAY")
      = .ok quotedText := rfl
  have hday : IsLiteral "2024-05-17".toList := .word (.of_all (by decide) (by decide))
  have htoday : IsLiteral "TODAY".toList := .word (.of_all (by decide) (by decide))
  exact ⟨hshape, hplain, hquoted, skeletonOf_eq_of_sameShape kindsCatalog_hasIdentifiers hshape
    (eitherFilter_takesOverLiterals hday) (eitherFilter_takesOverLiterals htoday) hplain hquoted⟩

/-- **A text that is taken over can reshape a condition.**  On a field of times
it stands without quotes, so one that is no literal brings a condition of its
own: two filters that differ in this operand only are written with different
skeletons. -/
theorem takenOver_reshapes :
    kindsCatalog.HasIdentifiers ∧
      (eitherFilter "a" "b" "2024-05-17").SameShape
        (eitherFilter "a" "b" "2024-05-17 OR Employees!=null") ∧
      render kindsCatalog (eitherFilter "a" "b" "2024-05-17") = .ok plainText ∧
      render kindsCatalog (eitherFilter "a" "b" "2024-05-17 OR Employees!=null")
        = .ok smuggledText ∧
      skeletonOf plainText.toList ≠ skeletonOf smuggledText.toList :=
  ⟨kindsCatalog_hasIdentifiers, eitherFilter_sameShape .., rfl, rfl, by decide⟩

end Filter
end RecordBridge
