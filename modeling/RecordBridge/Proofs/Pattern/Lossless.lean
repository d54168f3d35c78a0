/-
# Nothing is lost between an expression and its pattern

The pattern of a regular expression matches exactly the texts in which the
expression is found (`mem_likeLanguage_iff`).  Both are compared with the
language of the items that the expression is read to: `matchLanguage_append`
takes the expression to its items, `likeLanguage_items` the items to the
pattern.

At an open end there may be any run, and the pattern has a `%` there.  Where it
is left out the outermost item takes the run in: a run and a run are a run, at
the back also one of at least one character and a run.
-/

import RecordBridge.Pattern.Like
import RecordBridge.Proofs.Outcome
import RecordBridge.Proofs.Pattern.Language

namespace RecordBridge
namespace Pattern

/-- The texts that an item matches. -/
def Item.language : Item → Language Char
  | .literal c => {[c]}
  | .anyChar => anyOne
  | .anyRun => ⊤
  | .someRun => nonEmpty

/-- The texts that items match one after another. -/
def itemsLanguage (items : List Item) : Language Char := (items.map Item.language).prod

theorem itemsLanguage_cons (i : Item) (items : List Item) :
    itemsLanguage (i :: items) = i.language * itemsLanguage items := List.prod_cons

theorem itemsLanguage_concat (items : List Item) (i : Item) :
    itemsLanguage (items ++ [i]) = itemsLanguage items * i.language := by
  rw [itemsLanguage, List.map_append, List.prod_append, List.map_singleton, List.prod_singleton,
    itemsLanguage]

/-- What may stand at an end: nothing if it is anchored, any run if it is open. -/
def endLanguage : Bool → Language Char
  | true => 1
  | false => ⊤

/-- The texts in which the items of an expression are found. -/
def Regex.language (r : Regex) : Language Char :=
  endLanguage r.anchoredStart * itemsLanguage r.items * endLanguage r.anchoredEnd

/-- An escaped literal is matched by the literal. -/
theorem likeLanguage_escapeLiteral (c : Char) (p : List Char) :
    likeLanguage (escapeLiteral c ++ p) = {[c]} * likeLanguage p := by
  unfold escapeLiteral
  split
  · next h =>
    rcases h with rfl | rfl | rfl | rfl | rfl <;> rfl
  · next h =>
    split
    · next h => exact h ▸ rfl
    · split
      · next h => exact h ▸ rfl
      · split
        · next h => exact h ▸ rfl
        · split
          · next h => exact h ▸ rfl
          · exact likeLanguage_plain (by tauto) (by tauto) (by tauto)

theorem likeLanguage_item (i : Item) (p : List Char) :
    likeLanguage (i.like ++ p) = i.language * likeLanguage p := by
  cases i with
  | literal c => exact likeLanguage_escapeLiteral c p
  | anyChar => rfl
  | anyRun => rfl
  | someRun =>
    show anyOne * (⊤ * likeLanguage p) = nonEmpty * likeLanguage p
    rw [← mul_assoc, anyOne_mul_top]

/-- **The pattern of items matches what the items match.** -/
theorem likeLanguage_items (items : List Item) (p : List Char) :
    likeLanguage (items.flatMap Item.like ++ p) = itemsLanguage items * likeLanguage p := by
  induction items with
  | nil => exact (one_mul _).symm
  | cons i items ih =>
    rw [List.flatMap_cons, List.append_assoc, likeLanguage_item, ih, itemsLanguage_cons, mul_assoc]

/-- The first item takes in the run before it. -/
theorem top_mul_itemsLanguage {items : List Item} (h : items.head? = some .anyRun) :
    ⊤ * itemsLanguage items = itemsLanguage items := by
  obtain ⟨rest, rfl⟩ := List.head?_eq_some_iff.1 h
  rw [itemsLanguage_cons, Item.language, ← mul_assoc, top_mul_top]

/-- The last item takes in the run behind it. -/
theorem itemsLanguage_mul_top {items : List Item}
    (h : items.getLast? = some .anyRun ∨ items.getLast? = some .someRun) :
    itemsLanguage items * ⊤ = itemsLanguage items := by
  rcases h with h | h
  · obtain ⟨front, rfl⟩ := List.getLast?_eq_some_iff.1 h
    rw [itemsLanguage_concat, Item.language, mul_assoc, top_mul_top]
  · obtain ⟨front, rfl⟩ := List.getLast?_eq_some_iff.1 h
    rw [itemsLanguage_concat, Item.language, mul_assoc, nonEmpty_mul_top]

/-- **At the back of a pattern stands what may follow the items.** -/
theorem itemsLanguage_mul_back (r : Regex) :
    itemsLanguage r.items * likeLanguage (if coversBack r then [] else ['%'])
      = itemsLanguage r.items * endLanguage r.anchoredEnd := by
  cases hend : r.anchoredEnd with
  | true =>
    have hcovers : coversBack r = true := by rw [coversBack, hend]; rfl
    rw [if_pos hcovers, endLanguage, likeLanguage]
  | false =>
    by_cases hcovers : coversBack r = true
    · have hlast : r.items.getLast? = some .anyRun ∨ r.items.getLast? = some .someRun := by
        simpa [coversBack, hend] using hcovers
      rw [if_pos hcovers, likeLanguage, mul_one, endLanguage, itemsLanguage_mul_top hlast]
    · rw [if_neg hcovers, likeLanguage_run, endLanguage]

/-- **The pattern of an expression matches the texts in which its items are
found.** -/
theorem likeLanguage_like (r : Regex) : likeLanguage r.like = r.language := by
  rw [Regex.like, List.append_assoc, Regex.language, mul_assoc, ← itemsLanguage_mul_back,
    ← likeLanguage_items]
  cases hstart : r.anchoredStart with
  | true =>
    have hcovers : coversFront r = true := by rw [coversFront, hstart]; rfl
    rw [if_pos hcovers, List.nil_append, endLanguage, one_mul]
  | false =>
    by_cases hcovers : coversFront r = true
    · have hhead : r.items.head? = some .anyRun := by
        simpa [coversFront, hstart] using hcovers
      rw [if_pos hcovers, List.nil_append, endLanguage, likeLanguage_items, ← mul_assoc,
        top_mul_itemsLanguage hhead]
    · rw [if_neg hcovers, List.singleton_append, likeLanguage, endLanguage]

/-- A character that may stand for itself is no syntax. -/
theorem not_mem_syntaxChars {c : Char} (hescape : c ≠ '\\') (hdot : c ≠ '.')
    (hmeta : isMeta c = false) : c ∉ syntaxChars := by
  intro h
  have hchars : syntaxChars = '\\' :: '.' :: "*+?()[]\x7b\x7d|^$".toList := by decide
  rw [hchars, List.mem_cons, List.mem_cons] at h
  rcases h with rfl | rfl | h
  · exact hescape rfl
  · exact hdot rfl
  · have hcontains := List.contains_iff_mem.2 h
    rw [isMeta, hcontains] at hmeta
    exact Bool.false_ne_true hmeta.symm

/-- A character that begins neither of two texts does not begin both together. -/
theorem head?_append_ne {cs p : List Char} {c : Char} (hcs : ∀ rest, cs = c :: rest → False)
    (hp : p.head? ≠ some c) : (cs ++ p).head? ≠ some c := by
  cases cs with
  | nil => exact hp
  | cons d cs =>
    intro h
    obtain rfl := Option.some.inj h
    exact hcs cs rfl

/-- **An expression matches what its items match, and then what is behind
them.**  That must not turn a dot at the end of the expression into a run. -/
theorem matchLanguage_append {cs : List Char} {items : List Item} (h : itemsOf cs = .ok items)
    {p : List Char} (hstar : p.head? ≠ some '*') (hplus : p.head? ≠ some '+') :
    matchLanguage (cs ++ p) = itemsLanguage items * matchLanguage p := by
  fun_induction itemsOf cs generalizing items with
  | case1 =>
    obtain rfl := Except.ok.inj h
    exact (one_mul _).symm
  | case2 => cases h
  | case3 => cases h
  | case4 c rest halnum ih =>
    obtain ⟨is, his, rfl⟩ := Outcome.map_eq_ok_iff.1 h
    rw [List.cons_append, List.cons_append, matchLanguage, if_neg halnum, ih his,
      itemsLanguage_cons, Item.language, mul_assoc]
  | case5 rest ih =>
    obtain ⟨is, his, rfl⟩ := Outcome.map_eq_ok_iff.1 h
    rw [List.cons_append, List.cons_append, matchLanguage, ih his, itemsLanguage_cons,
      Item.language, mul_assoc]
  | case6 rest ih =>
    obtain ⟨is, his, rfl⟩ := Outcome.map_eq_ok_iff.1 h
    rw [List.cons_append, List.cons_append, matchLanguage, ih his, itemsLanguage_cons,
      Item.language, mul_assoc]
  | case7 rest hnostar hnoplus ih =>
    obtain ⟨is, his, rfl⟩ := Outcome.map_eq_ok_iff.1 h
    rw [List.cons_append, matchLanguage_dot (head?_append_ne hnostar hstar)
      (head?_append_ne hnoplus hplus), ih his, itemsLanguage_cons, Item.language, mul_assoc]
  | case8 => cases h
  | case9 c rest hdangling hescape _ _ hdot hmeta ih =>
    obtain ⟨is, his, rfl⟩ := Outcome.map_eq_ok_iff.1 h
    have hne : c ≠ '\\' := by
      rintro rfl
      cases rest with
      | nil => exact hdangling rfl rfl
      | cons d rest => exact hescape d rest rfl rfl
    have hplain := not_mem_syntaxChars hne hdot (Bool.eq_false_iff.2 hmeta)
    rw [List.cons_append, matchLanguage_plain hplain, ih his, itemsLanguage_cons, Item.language,
      mul_assoc]

/-- What stands behind the items of an expression: its trailing anchor. -/
theorem matchLanguage_dropEndAnchor {cs : List Char} {items : List Item}
    (h : itemsOf (dropEndAnchor cs).2 = .ok items) :
    matchLanguage cs = itemsLanguage items * endLanguage (dropEndAnchor cs).1 := by
  unfold dropEndAnchor at h ⊢
  split
  · next hanchor =>
    rw [if_pos hanchor] at h
    obtain ⟨hlast, -⟩ := Bool.and_eq_true_iff.1 hanchor
    obtain ⟨front, rfl⟩ := List.getLast?_eq_some_iff.1 (of_decide_eq_true hlast)
    rw [List.dropLast_concat] at h
    exact matchLanguage_append h (by decide) (by decide)
  · next hopen =>
    rw [if_neg hopen] at h
    rw [← List.append_nil cs]
    exact matchLanguage_append h (by decide) (by decide)

/-- **An expression is found where its items are.** -/
theorem searchLanguage_eq {cs : List Char} {r : Regex} (h : Regex.ofChars cs = .ok r) :
    searchLanguage cs = r.language := by
  obtain ⟨items, hitems, rfl⟩ := Outcome.map_eq_ok_iff.1 h
  rw [Regex.language, mul_assoc, ← matchLanguage_dropEndAnchor hitems]
  unfold dropStartAnchor
  split
  · exact (one_mul _).symm
  · next hopen =>
    refine searchLanguage_open fun hhead => ?_
    obtain ⟨rest, rfl⟩ := List.head?_eq_some_iff.1 hhead
    exact hopen rest rfl

/-- **Nothing is lost between an expression and its pattern.**  The pattern of
an expression matches a text exactly if the expression is found in it. -/
theorem mem_likeLanguage_iff {p l : String} (h : likeOf p = .ok l) (s : String) :
    s.toList ∈ likeLanguage l.toList ↔ s.toList ∈ searchLanguage p.toList := by
  have heq : likeLanguage l.toList = searchLanguage p.toList := by
    unfold likeOf at h
    split at h
    · next hempty =>
      obtain rfl := Except.ok.inj h
      rw [String.isEmpty_iff.1 hempty]
      show likeLanguage ['%'] = ⊤ * ⊤
      rw [likeLanguage_run, top_mul_top]
    · obtain ⟨r, hr, rfl⟩ := Outcome.map_eq_ok_iff.1 h
      rw [String.toList_ofList, likeLanguage_like, searchLanguage_eq hr]
  rw [heq]

/-- `mem_likeLanguage_iff` for an expression with an anchor, an escaped anchor
and both runs. -/
theorem mem_likeLanguage_iff_price :
    likeOf "^.+\\.%.*\\$" = .ok "_%.\\%%$%" ∧ ∀ s : String,
      s.toList ∈ likeLanguage "_%.\\%%$%".toList
        ↔ s.toList ∈ searchLanguage "^.+\\.%.*\\$".toList :=
  ⟨rfl, mem_likeLanguage_iff rfl⟩

end Pattern
end RecordBridge
