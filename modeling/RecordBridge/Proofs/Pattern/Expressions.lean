/-
# The expressions that have a pattern

An expression has a pattern exactly if it is an item after another one, between
anchors or not:

    expression = ["^"] item* ["$"]
    item       = "\" c | "." | ".*" | ".+" | c

where an escaped `c` is no letter and no numeral, and a bare one is no syntax
(`IsExpression`).  Every other expression is refused, and the refusal carries
it as it was given (`patternOf_accepts`).

The items are read from the left and the trailing anchor is looked for from the
right, by counting backslashes.  Both see the same: an expression is read in
steps, of which a backslash takes the character behind it along, and the count
is odd exactly if the last step is a backslash that finds none
(`odd_backslashes_iff`).
-/

import RecordBridge.Filter.Render
import RecordBridge.Proofs.Pattern.Lossless

namespace RecordBridge
namespace Pattern

/-- An item of an expression as it is written. -/
inductive IsItem : List Char → Prop
  | escape {c : Char} (h : Text.isAlphanumeric c = false) : IsItem ['\\', c]
  | anyChar : IsItem ['.']
  | anyRun : IsItem ['.', '*']
  | someRun : IsItem ['.', '+']
  | plain {c : Char} (h : c ∉ syntaxChars) : IsItem [c]

/-- An expression between its anchors: one item after another. -/
inductive IsItems : List Char → Prop
  | nil : IsItems []
  | cons {i cs : List Char} (hi : IsItem i) (h : IsItems cs) : IsItems (i ++ cs)

/-- An expression that has a pattern. -/
inductive IsExpression : List Char → Prop
  | intro {front items back : List Char} (hfront : front = [] ∨ front = ['^'])
    (hitems : IsItems items) (hback : back = [] ∨ back = ['$']) :
    IsExpression (front ++ (items ++ back))

/-- The steps in which an expression is read from the left: a backslash takes the
character behind it along. -/
def steps : List Char → List (List Char)
  | [] => []
  | [c] => [[c]]
  | c :: d :: cs => if c = '\\' then [c, d] :: steps cs else [c] :: steps (d :: cs)

/-! ### Steps and backslashes -/

theorem steps_escape (c : Char) (cs : List Char) :
    steps ('\\' :: c :: cs) = ['\\', c] :: steps cs := by
  rw [steps, if_pos rfl]

theorem steps_cons {c : Char} (h : c ≠ '\\') (cs : List Char) :
    steps (c :: cs) = [c] :: steps cs := by
  cases cs with
  | nil => rfl
  | cons d cs => rw [steps, if_neg h]

/-- What is last behind another element is last without it. -/
theorem getLast?_cons_eq_some_iff {α : Type} {a b : α} (h : a ≠ b) (l : List α) :
    (a :: l).getLast? = some b ↔ l.getLast? = some b := by
  rw [List.getLast?_cons]
  cases hl : l.getLast? with
  | none => exact ⟨fun he => absurd (Option.some.inj he) h, fun he => nomatch he⟩
  | some x => rw [Option.getD_some]

/-- A character that is no backslash is a step of its own in front of the others. -/
theorem getLast?_steps_cons_iff {c d : Char} (hescape : d ≠ '\\') (h : d ≠ c) (cs : List Char) :
    (steps (d :: cs)).getLast? = some [c] ↔ (steps cs).getLast? = some [c] := by
  rw [steps_cons hescape, getLast?_cons_eq_some_iff]
  intro he
  exact h (List.singleton_inj.1 he)

/-- One more character joins a backslash that has found none. -/
theorem getLast?_steps_concat (cs : List Char) (c : Char) :
    (steps (cs ++ [c])).getLast?
      = some (if (steps cs).getLast? = some ['\\'] then ['\\', c] else [c]) := by
  fun_induction steps cs with
  | case1 => rfl
  | case2 d =>
    by_cases hd : d = '\\'
    · subst hd
      rfl
    · rw [List.singleton_append, steps_cons hd, if_neg]
      · rfl
      · intro h
        exact hd (List.singleton_inj.1 (Option.some.inj h))
  | case3 e cs ih =>
    rw [List.cons_append, List.cons_append, steps_escape, List.getLast?_cons, ih, Option.getD_some]
    simp only [getLast?_cons_eq_some_iff (show ['\\', e] ≠ ['\\'] by simp)]
  | case4 d e cs hd ih =>
    rw [List.cons_append, steps_cons hd, List.getLast?_cons, ih, Option.getD_some]
    simp only [getLast?_cons_eq_some_iff (show [d] ≠ ['\\'] by simpa using hd)]

/-- **Backslashes counted from the right are steps read from the left.**  Their
number at the end of a text is odd exactly if the last step is a backslash
alone. -/
theorem odd_backslashes_iff (cs : List Char) :
    (cs.reverse.takeWhile (· = '\\')).length % 2 = 1 ↔ (steps cs).getLast? = some ['\\'] := by
  induction cs using List.reverseRecOn with
  | nil => decide
  | append_singleton cs c ih =>
    rw [getLast?_steps_concat, List.reverse_append, List.reverse_singleton, List.singleton_append]
    by_cases hc : c = '\\'
    · subst hc
      rw [List.takeWhile_cons_of_pos (by decide), List.length_cons]
      split
      · next h =>
        have hodd := ih.2 h
        simp only [Option.some.injEq]
        constructor
        · intro heven
          omega
        · exact fun h => absurd h (by decide)
      · next h =>
        have heven := mt ih.1 h
        simp only [iff_true]
        omega
    · rw [List.takeWhile_cons_of_neg (by simpa using hc)]
      split <;> simp [hc]

theorem endsEscaped_concat (cs : List Char) (c : Char) :
    endsEscaped (cs ++ [c]) = true ↔ (steps cs).getLast? = some ['\\'] := by
  rw [endsEscaped, List.dropLast_concat, decide_eq_true_iff]
  exact odd_backslashes_iff cs

/-- **A trailing anchor is a last step of its own.** -/
theorem dropEndAnchor_iff (cs : List Char) :
    (dropEndAnchor cs).1 = true ↔ (steps cs).getLast? = some ['$'] := by
  unfold dropEndAnchor
  obtain rfl | ⟨front, c, rfl⟩ := List.eq_nil_or_concat' cs
  · decide
  · rw [getLast?_steps_concat, List.getLast?_concat]
    by_cases hc : c = '$'
    · subst hc
      by_cases h : (steps front).getLast? = some ['\\']
      · rw [if_pos h, (endsEscaped_concat front '$').2 h]
        simp
      · rw [if_neg h, Bool.eq_false_iff.2 (mt (endsEscaped_concat front '$').1 h)]
        simp
    · split <;> split <;> simp_all

/-! ### Items -/

theorem IsItems.head {cs : List Char} (h : IsItems cs) :
    ∀ c ∈ cs.head?, c = '\\' ∨ c = '.' ∨ c ∉ syntaxChars := by
  cases h with
  | nil => exact fun _ h => nomatch h
  | cons hi _ =>
    intro c hc
    cases hi with
    | escape _ => exact .inl (Option.some.inj hc).symm
    | anyChar | anyRun | someRun => exact .inr (.inl (Option.some.inj hc).symm)
    | plain h => exact .inr (.inr (Option.some.inj hc ▸ h))

/-- Items do not begin with syntax other than a backslash or a dot. -/
theorem IsItems.head?_ne {cs : List Char} (h : IsItems cs) {c : Char} (hc : c ∈ syntaxChars)
    (hescape : c ≠ '\\') (hdot : c ≠ '.') : cs.head? ≠ some c := by
  intro hhead
  obtain h | h | h := h.head c hhead
  · exact hescape h
  · exact hdot h
  · exact h hc

theorem itemsOf_dot {cs : List Char} (hstar : cs.head? ≠ some '*') (hplus : cs.head? ≠ some '+') :
    itemsOf ('.' :: cs) = (itemsOf cs).map (.anyChar :: ·) := by
  rw [itemsOf.eq_6]
  · rintro rest rfl
    exact hstar rfl
  · rintro rest rfl
    exact hplus rfl

/-- A character that is no syntax is an item by itself. -/
theorem itemsOf_plain {c : Char} (h : c ∉ syntaxChars) (cs : List Char) :
    itemsOf (c :: cs) = (itemsOf cs).map (.literal c :: ·) := by
  have hne : ∀ d ∈ syntaxChars, c ≠ d := by
    rintro d hd rfl
    exact h hd
  have hmeta : isMeta c = false := by
    refine Bool.eq_false_iff.2 fun hmeta => h ?_
    exact List.mem_cons_of_mem _ (List.mem_cons_of_mem _ (List.contains_iff_mem.1 hmeta))
  rw [itemsOf.eq_7, hmeta]
  · rfl
  · exact fun hescape _ => absurd hescape (hne '\\' (by decide))
  · exact fun _ _ hescape _ => absurd hescape (hne '\\' (by decide))
  · exact fun _ hdot _ => absurd hdot (hne '.' (by decide))
  · exact fun _ hdot _ => absurd hdot (hne '.' (by decide))
  · exact hne '.' (by decide)

/-- **The items of an expression are read exactly if it is written in items.** -/
theorem exists_itemsOf_iff {cs : List Char} : (∃ items, itemsOf cs = .ok items) ↔ IsItems cs := by
  constructor
  · rintro ⟨items, h⟩
    fun_induction itemsOf cs generalizing items with
    | case1 => exact .nil
    | case2 => cases h
    | case3 => cases h
    | case4 c rest halnum ih =>
      obtain ⟨is, his, -⟩ := Outcome.map_eq_ok_iff.1 h
      exact .cons (.escape (Bool.eq_false_iff.2 halnum)) (ih is his)
    | case5 rest ih =>
      obtain ⟨is, his, -⟩ := Outcome.map_eq_ok_iff.1 h
      exact .cons .anyRun (ih is his)
    | case6 rest ih =>
      obtain ⟨is, his, -⟩ := Outcome.map_eq_ok_iff.1 h
      exact .cons .someRun (ih is his)
    | case7 rest _ _ ih =>
      obtain ⟨is, his, -⟩ := Outcome.map_eq_ok_iff.1 h
      exact .cons .anyChar (ih is his)
    | case8 => cases h
    | case9 c rest hdangling hescape _ _ hdot hmeta ih =>
      obtain ⟨is, his, -⟩ := Outcome.map_eq_ok_iff.1 h
      have hne : c ≠ '\\' := by
        rintro rfl
        cases rest with
        | nil => exact hdangling rfl rfl
        | cons d rest => exact hescape d rest rfl rfl
      exact .cons (.plain (not_mem_syntaxChars hne hdot (Bool.eq_false_iff.2 hmeta))) (ih is his)
  · intro h
    induction h with
    | nil => exact ⟨[], rfl⟩
    | @cons i cs hi h ih =>
      obtain ⟨is, his⟩ := ih
      cases hi with
      | @escape c halnum =>
        refine ⟨.literal c :: is, ?_⟩
        show itemsOf ('\\' :: c :: cs) = _
        rw [itemsOf, halnum, his]
        rfl
      | anyChar =>
        have hstar := h.head?_ne (c := '*') (by decide) (by decide) (by decide)
        have hplus := h.head?_ne (c := '+') (by decide) (by decide) (by decide)
        refine ⟨.anyChar :: is, ?_⟩
        rw [List.singleton_append, itemsOf_dot hstar hplus, his]
        rfl
      | anyRun =>
        refine ⟨.anyRun :: is, ?_⟩
        show itemsOf ('.' :: '*' :: cs) = _
        rw [itemsOf, his]
        rfl
      | someRun =>
        refine ⟨.someRun :: is, ?_⟩
        show itemsOf ('.' :: '+' :: cs) = _
        rw [itemsOf, his]
        rfl
      | @plain c hc =>
        refine ⟨.literal c :: is, ?_⟩
        rw [List.singleton_append, itemsOf_plain hc, his]
        rfl

/-- The last step of items is neither a backslash nor a sign of an anchor alone. -/
theorem IsItems.getLast?_steps_ne {cs : List Char} (h : IsItems cs) {c : Char}
    (hc : c = '\\' ∨ c = '$') : (steps cs).getLast? ≠ some [c] := by
  induction h with
  | nil => exact fun h => nomatch h
  | @cons i cs hi _ ih =>
    have hcons : ∀ {d : Char} {ds : List Char}, d ≠ '\\' → d ≠ '$' →
        (steps ds).getLast? ≠ some [c] → (steps (d :: ds)).getLast? ≠ some [c] := by
      intro d ds hescape hanchor
      refine mt (getLast?_steps_cons_iff hescape ?_ ds).1
      rintro rfl
      exact hc.elim hescape hanchor
    cases hi with
    | @escape d _ =>
      show ¬ (steps ('\\' :: d :: cs)).getLast? = some [c]
      rw [steps_escape, getLast?_cons_eq_some_iff (by simp)]
      exact ih
    | anyChar => exact hcons (by decide) (by decide) ih
    | anyRun => exact hcons (by decide) (by decide) (hcons (by decide) (by decide) ih)
    | someRun => exact hcons (by decide) (by decide) (hcons (by decide) (by decide) ih)
    | @plain d hd =>
      refine hcons ?_ ?_ ih
      · rintro rfl
        exact hd (by decide)
      · rintro rfl
        exact hd (by decide)

/-! ### Anchors -/

theorem dropStartAnchor_append (cs : List Char) :
    (if (dropStartAnchor cs).1 then ['^'] else []) ++ (dropStartAnchor cs).2 = cs := by
  unfold dropStartAnchor
  split <;> rfl

theorem append_dropEndAnchor (cs : List Char) :
    (dropEndAnchor cs).2 ++ (if (dropEndAnchor cs).1 then ['$'] else []) = cs := by
  unfold dropEndAnchor
  split
  · next h =>
    obtain ⟨hlast, -⟩ := Bool.and_eq_true_iff.1 h
    obtain ⟨front, rfl⟩ := List.getLast?_eq_some_iff.1 (of_decide_eq_true hlast)
    rw [List.dropLast_concat]
    rfl
  · exact List.append_nil cs

/-- The leading anchor is what stands in front of items. -/
theorem dropStartAnchor_of_isExpression {front items back : List Char}
    (hfront : front = [] ∨ front = ['^']) (hitems : IsItems items)
    (hback : back = [] ∨ back = ['$']) :
    (dropStartAnchor (front ++ (items ++ back))).2 = items ++ back := by
  obtain rfl | rfl := hfront
  · have hhead : (items ++ back).head? ≠ some '^' := by
      refine head?_append_ne (fun rest hrest => ?_) ?_
      · exact hitems.head?_ne (c := '^') (by decide) (by decide) (by decide)
          (by rw [hrest, List.head?_cons])
      · rcases hback with rfl | rfl <;> decide
    unfold dropStartAnchor
    split
    · next rest hrest => exact absurd (by rw [← List.nil_append (items ++ back), hrest]; rfl) hhead
    · rfl
  · rfl

/-- The trailing anchor is what stands behind items. -/
theorem dropEndAnchor_of_isItems {items back : List Char} (hitems : IsItems items)
    (hback : back = [] ∨ back = ['$']) : (dropEndAnchor (items ++ back)).2 = items := by
  have hparts := append_dropEndAnchor (items ++ back)
  have hanchored : (dropEndAnchor (items ++ back)).1 = true ↔ back = ['$'] := by
    rw [dropEndAnchor_iff]
    obtain rfl | rfl := hback
    · rw [List.append_nil]
      exact iff_of_false (hitems.getLast?_steps_ne (.inr rfl)) (by decide)
    · rw [getLast?_steps_concat, if_neg (hitems.getLast?_steps_ne (.inl rfl))]
      exact iff_of_true rfl rfl
  obtain rfl | rfl := hback
  · rw [if_neg (mt hanchored.1 (by decide))] at hparts
    exact List.append_cancel_right hparts
  · rw [if_pos (hanchored.2 rfl)] at hparts
    exact List.append_cancel_right hparts

theorem exists_ofChars_iff {cs : List Char} : (∃ r, Regex.ofChars cs = .ok r) ↔ IsExpression cs := by
  have hread : (∃ r, Regex.ofChars cs = .ok r) ↔
      IsItems (dropEndAnchor (dropStartAnchor cs).2).2 := by
    rw [← exists_itemsOf_iff]
    constructor
    · rintro ⟨r, hr⟩
      obtain ⟨items, h, -⟩ := Outcome.map_eq_ok_iff.1 hr
      exact ⟨items, h⟩
    · rintro ⟨items, h⟩
      exact ⟨_, Outcome.map_eq_ok_iff.2 ⟨items, h, rfl⟩⟩
  rw [hread]
  constructor
  · intro h
    rw [← dropStartAnchor_append cs, ← append_dropEndAnchor (dropStartAnchor cs).2]
    refine .intro ?_ h ?_
    · split
      · exact .inr rfl
      · exact .inl rfl
    · split
      · exact .inr rfl
      · exact .inl rfl
  · rintro ⟨hfront, hitems, hback⟩
    rw [dropStartAnchor_of_isExpression hfront hitems hback, dropEndAnchor_of_isItems hitems hback]
    exact hitems

theorem exists_likeOf_iff {p : String} : (∃ like, likeOf p = .ok like) ↔ IsExpression p.toList := by
  unfold likeOf
  split
  · next hempty =>
    rw [String.isEmpty_iff.1 hempty]
    exact iff_of_true ⟨_, rfl⟩ (.intro (.inl rfl) .nil (.inl rfl))
  · rw [← exists_ofChars_iff]
    constructor
    · rintro ⟨like, h⟩
      obtain ⟨r, hr, -⟩ := Outcome.map_eq_ok_iff.1 h
      exact ⟨r, hr⟩
    · rintro ⟨r, hr⟩
      exact ⟨_, Outcome.map_eq_ok_iff.2 ⟨r, hr, rfl⟩⟩

/-- A leading anchor changes nothing about the last step, unless there is no other. -/
theorem dropEndAnchor_dropStartAnchor_iff (cs : List Char) :
    (dropEndAnchor (dropStartAnchor cs).2).1 = true ↔ (steps cs).getLast? = some ['$'] := by
  rw [dropEndAnchor_iff]
  unfold dropStartAnchor
  split
  · exact (getLast?_steps_cons_iff (by decide) (by decide) _).symm
  · rfl

/-- The count of backslashes decides as the reader of items would have to: with the
other decision it refuses the expression. -/
theorem itemsOf_ne_ok_otherwise (front : List Char) :
    (endsEscaped (front ++ ['$']) = true → ∀ items, itemsOf front ≠ .ok items) ∧
    (endsEscaped (front ++ ['$']) = false → ∀ items, itemsOf (front ++ ['$']) ≠ .ok items) := by
  constructor
  · intro hescaped items h
    have hitems : IsItems front := exists_itemsOf_iff.1 ⟨items, h⟩
    exact hitems.getLast?_steps_ne (.inl rfl) ((endsEscaped_concat front '$').1 hescaped)
  · intro hbare items h
    have hitems : IsItems (front ++ ['$']) := exists_itemsOf_iff.1 ⟨items, h⟩
    have hlast : (steps front).getLast? ≠ some ['\\'] :=
      mt (endsEscaped_concat front '$').2 (Bool.eq_false_iff.1 hbare)
    refine hitems.getLast?_steps_ne (.inr rfl) ?_
    rw [getLast?_steps_concat, if_neg hlast]

/-- **The expressions that have a pattern are those of the grammar.**  Any other
one is refused, and the refusal carries it whole.  An expression has a trailing
anchor exactly if it ends in one when it is read from the left; and whatever the
count of backslashes decides about a trailing `$`, the reader of items takes no
expression with the other decision. -/
theorem patternOf_accepts (p : String) :
    ((∃ like, Filter.patternOf (.text p) = .ok like) ↔ IsExpression p.toList) ∧
    ((∃ reason, Filter.patternOf (.text p) = .error (.unsupportedPattern (.text p) (some reason)))
      ↔ ¬ IsExpression p.toList) ∧
    ((dropEndAnchor (dropStartAnchor p.toList).2).1 = true
      ↔ (steps p.toList).getLast? = some ['$']) ∧
    ∀ front : List Char,
      (endsEscaped (front ++ ['$']) = true → ∀ items, itemsOf front ≠ .ok items) ∧
      (endsEscaped (front ++ ['$']) = false → ∀ items, itemsOf (front ++ ['$']) ≠ .ok items) := by
  refine ⟨?_, ?_, dropEndAnchor_dropStartAnchor_iff p.toList, itemsOf_ne_ok_otherwise⟩
  · rw [← exists_likeOf_iff]
    exact exists_congr fun like => Outcome.mapError_eq_ok_iff
  · rw [← exists_likeOf_iff]
    cases h : likeOf p with
    | ok like =>
      refine iff_of_false ?_ (fun hnone => hnone ⟨like, rfl⟩)
      rintro ⟨reason, hreason⟩
      obtain ⟨r, hr, -⟩ := Outcome.mapError_eq_error_iff.1 hreason
      exact nomatch h.symm.trans hr
    | error r =>
      refine iff_of_true ⟨r.reason, ?_⟩ ?_
      · exact Outcome.mapError_eq_error_iff.2 ⟨r, h, rfl⟩
      · rintro ⟨like, hlike⟩
        exact nomatch hlike

/-- Two backslashes are one step, and so the anchor behind them is none of them. -/
example : steps "a\\\\$".toList = [['a'], ['\\', '\\'], ['$']] := by decide

end Pattern
end RecordBridge
