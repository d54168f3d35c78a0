/-
# The leaves of a condition

A condition of the query language is built from leaves, and a leaf is a field,
an operator and an operand:

    leaf     = name operator literal | name list-operator "(" literals ")"
    literals = literal ("," literal)*
    literal  = word | "'" body "'"
    body     = (plain | "\" c)*        plain: neither a quote nor a backslash

A name is an identifier; a word may hold signs, points and colons besides.
Blanks, parentheses, commas and quotes are neither, so a word ends where they
begin, and a quoted literal ends at its first quote that is not escaped.
`IsLeaf.append_inj` is what follows from that: a leaf is told from the text
behind it, whatever the operands hold.
-/

import RecordBridge.Filter.Operator
import RecordBridge.Text.Alphanumeric

namespace RecordBridge
namespace Filter

/-- The comparisons that take a list of operands. -/
def Comparator.takesList : Comparator → Bool
  | .isIn | .notIn => true
  | _ => false

/-- Whether a character may stand in a name. -/
def isIdentifierChar (c : Char) : Bool := Text.isAlphanumeric c || c = '_'

/-- A name of letters, numerals and underscores. -/
def IsIdentifier (name : String) : Prop :=
  name.toList ≠ [] ∧ ∀ c ∈ name.toList, isIdentifierChar c = true

/-- Whether a character may stand in a literal without quotes. -/
def isWordChar (c : Char) : Bool := isIdentifierChar c || "+-.:".toList.contains c

/-- A literal without quotes. -/
def IsWord (cs : List Char) : Prop := cs ≠ [] ∧ ∀ c ∈ cs, isWordChar c = true

theorem IsIdentifier.of_all {name : String} (hne : name.toList ≠ [])
    (h : name.toList.all isIdentifierChar = true) : IsIdentifier name :=
  ⟨hne, List.all_eq_true.1 h⟩

theorem IsWord.of_all {cs : List Char} (hne : cs ≠ []) (h : cs.all isWordChar = true) :
    IsWord cs :=
  ⟨hne, List.all_eq_true.1 h⟩

/-- What stands between quotes. -/
inductive IsBody : List Char → Prop
  | nil : IsBody []
  | plain {c : Char} {cs : List Char} : c ≠ '\'' → c ≠ '\\' → IsBody cs → IsBody (c :: cs)
  | escape {c : Char} {cs : List Char} : IsBody cs → IsBody ('\\' :: c :: cs)

/-- A literal. -/
inductive IsLiteral : List Char → Prop
  | word {cs : List Char} : IsWord cs → IsLiteral cs
  | quoted {cs : List Char} : IsBody cs → IsLiteral ('\'' :: cs ++ ['\''])

/-- Literals with commas between them. -/
inductive IsLiterals : List Char → Prop
  | one {cs : List Char} : IsLiteral cs → IsLiterals cs
  | more {cs ds : List Char} : IsLiteral cs → IsLiterals ds → IsLiterals (cs ++ ',' :: ds)

/-- A comparison of a field with its operand, or with a list of operands in
parentheses. -/
inductive IsLeaf : List Char → Prop
  | scalar {name : String} {c : Comparator} {operand : List Char} : IsIdentifier name →
      c.takesList = false → IsLiteral operand →
        IsLeaf (name.toList ++ (c.queryText.toList ++ operand))
  | list {name : String} {c : Comparator} {operands : List Char} : IsIdentifier name →
      c.takesList = true → IsLiterals operands →
        IsLeaf (name.toList ++ (c.queryText.toList ++ ('(' :: operands ++ [')'])))

/-- A text that does not go on with a word: it is over, or its first character
is none of a word. -/
def EndsWord (cs : List Char) : Prop := ∀ c ∈ cs.head?, isWordChar c = false

theorem endsWord_nil : EndsWord [] := fun _ h => by simp at h

theorem endsWord_cons {c : Char} (cs : List Char) (h : isWordChar c = false) :
    EndsWord (c :: cs) := by
  intro d hd
  obtain rfl : c = d := by simpa using hd
  exact h

/-- **A run of characters ends where the class does.**  Two runs of one class,
each before a text that does not begin with the class, are the same run. -/
theorem run_append_inj {p : Char → Bool} {a b r s : List Char} (ha : ∀ c ∈ a, p c = true)
    (hb : ∀ c ∈ b, p c = true) (hr : ∀ c ∈ r.head?, p c = false) (hs : ∀ c ∈ s.head?, p c = false)
    (h : a ++ r = b ++ s) : a = b ∧ r = s := by
  induction a generalizing b with
  | nil =>
    cases b with
    | nil => exact ⟨rfl, h⟩
    | cons d b =>
      have hd : p d = false := hr d (by rw [List.nil_append] at h; simp [h])
      rw [hb d (List.mem_cons_self ..)] at hd
      exact absurd hd (by simp)
  | cons c a ih =>
    cases b with
    | nil =>
      have hc : p c = false := hs c (by rw [List.nil_append] at h; simp [← h])
      rw [ha c (List.mem_cons_self ..)] at hc
      exact absurd hc (by simp)
    | cons d b =>
      rw [List.cons_append, List.cons_append] at h
      obtain ⟨hcd, h⟩ := List.cons.inj h
      obtain ⟨hab, hrs⟩ := ih (fun x hx => ha x (List.mem_cons_of_mem _ hx))
        (fun x hx => hb x (List.mem_cons_of_mem _ hx)) h
      exact ⟨by rw [hcd, hab], hrs⟩

/-- **A quoted literal ends at its closing quote**, whatever stands behind it. -/
theorem IsBody.append_inj {a b r s : List Char} (ha : IsBody a) (hb : IsBody b)
    (h : a ++ '\'' :: r = b ++ '\'' :: s) : a = b ∧ r = s := by
  induction ha generalizing b with
  | nil =>
    cases hb with
    | nil => exact ⟨rfl, (List.cons.inj h).2⟩
    | plain hq _ _ => exact absurd (List.cons.inj h).1.symm hq
    | escape _ => exact absurd (List.cons.inj h).1 (by decide)
  | plain hq hs _ ih =>
    cases hb with
    | nil => exact absurd (List.cons.inj h).1 hq
    | plain _ _ hb =>
      obtain ⟨hc, h⟩ := List.cons.inj h
      obtain ⟨hab, hrs⟩ := ih hb h
      exact ⟨by rw [hc, hab], hrs⟩
    | escape _ => exact absurd (List.cons.inj h).1 hs
  | escape _ ih =>
    cases hb with
    | nil => exact absurd (List.cons.inj h).1 (by decide)
    | plain _ hs _ => exact absurd (List.cons.inj h).1.symm hs
    | escape hb =>
      obtain ⟨hc, h⟩ := List.cons.inj (List.cons.inj h).2
      obtain ⟨hab, hrs⟩ := ih hb h
      exact ⟨by rw [hc, hab], hrs⟩

/-- Two bodies behind one another are a body. -/
theorem IsBody.append {a b : List Char} (ha : IsBody a) (hb : IsBody b) : IsBody (a ++ b) := by
  induction ha with
  | nil => exact hb
  | plain hq hs _ ih => exact .plain hq hs ih
  | escape _ ih => exact .escape ih

/-- A literal begins with a quote or with a character of a word. -/
theorem IsLiteral.head {cs : List Char} (h : IsLiteral cs) (r : List Char) :
    ∃ c t, cs ++ r = c :: t ∧ (c = '\'' ∨ isWordChar c = true) := by
  cases h with
  | word h =>
    obtain ⟨c, t, rfl⟩ := List.exists_cons_of_ne_nil h.1
    exact ⟨c, t ++ r, rfl, .inr (h.2 c (List.mem_cons_self ..))⟩
  | quoted _ => exact ⟨'\'', _, rfl, .inl rfl⟩

/-- A literal is told from a text behind it that does not go on with a word. -/
theorem IsLiteral.append_inj {a b r s : List Char} (ha : IsLiteral a) (hb : IsLiteral b)
    (hr : EndsWord r) (hs : EndsWord s) (h : a ++ r = b ++ s) : a = b ∧ r = s := by
  cases ha with
  | word ha =>
    cases hb with
    | word hb => exact run_append_inj ha.2 hb.2 hr hs h
    | quoted _ =>
      obtain ⟨c, t, rfl⟩ := List.exists_cons_of_ne_nil ha.1
      have hc := ha.2 c (List.mem_cons_self ..)
      rw [show c = '\'' from (List.cons.inj h).1] at hc
      exact absurd hc (by decide)
  | quoted ha =>
    cases hb with
    | word hb =>
      obtain ⟨c, t, rfl⟩ := List.exists_cons_of_ne_nil hb.1
      have hc := hb.2 c (List.mem_cons_self ..)
      rw [← show '\'' = c from (List.cons.inj h).1] at hc
      exact absurd hc (by decide)
    | quoted hb =>
      simp only [List.cons_append, List.append_assoc, List.nil_append] at h
      obtain ⟨hab, hrs⟩ := ha.append_inj hb (List.cons.inj h).2
      exact ⟨by rw [hab], hrs⟩

/-- A list of literals is told from a closing parenthesis behind it. -/
theorem IsLiterals.append_inj {a b r s : List Char} (ha : IsLiterals a) (hb : IsLiterals b)
    (h : a ++ ')' :: r = b ++ ')' :: s) : a = b ∧ r = s := by
  induction ha generalizing b with
  | one ha =>
    cases hb with
    | one hb =>
      obtain ⟨hab, hrs⟩ := ha.append_inj hb (endsWord_cons _ (by decide))
        (endsWord_cons _ (by decide)) h
      exact ⟨hab, (List.cons.inj hrs).2⟩
    | more hb _ =>
      rw [List.append_assoc] at h
      have hrs := (ha.append_inj hb (endsWord_cons _ (by decide))
        (endsWord_cons _ (by decide)) h).2
      exact absurd (List.cons.inj hrs).1 (by decide)
  | more ha _ ih =>
    rw [List.append_assoc] at h
    cases hb with
    | one hb =>
      have hrs := (ha.append_inj hb (endsWord_cons _ (by decide))
        (endsWord_cons _ (by decide)) h).2
      exact absurd (List.cons.inj hrs).1 (by decide)
    | more hb hbs =>
      rw [List.append_assoc] at h
      obtain ⟨hab, hrs⟩ := ha.append_inj hb (endsWord_cons _ (by decide))
        (endsWord_cons _ (by decide)) h
      obtain ⟨hds, hrs⟩ := ih hbs (List.cons.inj hrs).2
      exact ⟨by rw [hab, hds], hrs⟩

/-- The first character of an operator text belongs to no name. -/
theorem Comparator.queryText_head (c : Comparator) (r : List Char) :
    ∀ x ∈ (c.queryText.toList ++ r).head?, isIdentifierChar x = false := by
  cases c <;> simp [Comparator.queryText] <;> decide

/-- An operator text is told from an operand behind it, which does not begin
with an equals sign. -/
theorem Comparator.queryText_append_inj {c d : Comparator} {x y : List Char}
    (hx : x.head? ≠ some '=') (hy : y.head? ≠ some '=')
    (h : c.queryText.toList ++ x = d.queryText.toList ++ y) : c = d ∧ x = y := by
  cases c <;> cases d <;> simp [Comparator.queryText] at h ⊢ <;> grind

/-- Name and operator of a comparison are told from its operand. -/
theorem comparison_append_inj {m n : String} {c d : Comparator} {x y : List Char}
    (hm : IsIdentifier m) (hn : IsIdentifier n) (hx : x.head? ≠ some '=')
    (hy : y.head? ≠ some '=')
    (h : m.toList ++ (c.queryText.toList ++ x) = n.toList ++ (d.queryText.toList ++ y)) :
    m = n ∧ c = d ∧ x = y := by
  obtain ⟨hmn, hrest⟩ := run_append_inj hm.2 hn.2 (c.queryText_head x) (d.queryText_head y) h
  exact ⟨String.toList_inj.1 hmn, Comparator.queryText_append_inj hx hy hrest⟩

theorem IsLiteral.head_ne_equals {cs : List Char} (h : IsLiteral cs) (r : List Char) :
    (cs ++ r).head? ≠ some '=' := by
  obtain ⟨c, t, ht, hc⟩ := h.head r
  rw [ht, List.head?_cons]
  rintro he
  obtain rfl := Option.some.inj he
  exact absurd hc (by decide)

/-- **A leaf is told from the text behind it** if that does not go on with a
word.  Names, operators and operands are read from left to right, each as far
as it goes. -/
theorem IsLeaf.append_inj {a b r s : List Char} (ha : IsLeaf a) (hb : IsLeaf b)
    (hr : EndsWord r) (hs : EndsWord s) (h : a ++ r = b ++ s) : a = b ∧ r = s := by
  cases ha with
  | scalar hm hc ho =>
    cases hb with
    | scalar hn hd hp =>
      simp only [List.append_assoc] at h
      obtain ⟨rfl, rfl, hrest⟩ := comparison_append_inj hm hn (ho.head_ne_equals r)
        (hp.head_ne_equals s) h
      obtain ⟨rfl, hrs⟩ := ho.append_inj hp hr hs hrest
      exact ⟨rfl, hrs⟩
    | list hn hd hp =>
      simp only [List.append_assoc] at h
      obtain ⟨-, rfl, -⟩ := comparison_append_inj hm hn (ho.head_ne_equals r) (by simp) h
      exact absurd (hc.symm.trans hd) (by decide)
  | list hm hc ho =>
    cases hb with
    | scalar hn hd hp =>
      simp only [List.append_assoc] at h
      obtain ⟨-, rfl, -⟩ := comparison_append_inj hm hn (by simp) (hp.head_ne_equals s) h
      exact absurd (hd.symm.trans hc) (by decide)
    | list hn hd hp =>
      simp only [List.append_assoc, List.cons_append, List.nil_append] at h
      obtain ⟨rfl, rfl, hrest⟩ := comparison_append_inj hm hn (by simp) (by simp) h
      obtain ⟨rfl, hrs⟩ := ho.append_inj hp (List.cons.inj hrest).2
      exact ⟨rfl, hrs⟩

/-- A leaf begins with a character of a name. -/
theorem IsLeaf.head {cs : List Char} (h : IsLeaf cs) (r : List Char) :
    ∃ c t, cs ++ r = c :: t ∧ isIdentifierChar c = true := by
  cases h with
  | scalar hn _ _ | list hn _ _ =>
    obtain ⟨c, t, ht⟩ := List.exists_cons_of_ne_nil hn.1
    have hc := hn.2 c (by rw [ht]; exact List.mem_cons_self ..)
    rw [ht]
    exact ⟨c, _, rfl, hc⟩

end Filter
end RecordBridge
