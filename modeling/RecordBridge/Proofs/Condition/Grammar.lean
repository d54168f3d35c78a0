/-
# The grammar of conditions

A condition of the query language mixes two connectives, of which AND binds
tighter, and parentheses:

    any-of  = all-of (" OR " all-of)*
    all-of  = primary (" AND " primary)*
    primary = "(" any-of ")" | leaf

A derivation of this grammar is a tree with one constructor for each
alternative, and its text is what it derives.  To read a text is to find the
derivations with that text whose leaves are leaves (`Filter.IsLeaf`).  There
is at most one (`AnyOf.text_inj`): quotes hide what they enclose, a leaf ends
where a word cannot go on, and what follows a leaf decides the alternative.
-/

import RecordBridge.Proofs.Condition.Lexis

namespace RecordBridge
namespace Filter

mutual
/-- A derivation of a condition: alternatives joined by OR. -/
inductive AnyOf
  | one (a : AllOf)
  | more (a : AllOf) (d : AnyOf)

/-- A derivation of an alternative: parts joined by AND. -/
inductive AllOf
  | one (p : Primary)
  | more (p : Primary) (a : AllOf)

/-- A derivation of a part: a leaf, or a condition in parentheses. -/
inductive Primary
  | leaf (text : String)
  | group (d : AnyOf)
end

mutual
/-- The text that is derived. -/
def AnyOf.text : AnyOf → List Char
  | .one a => a.text
  | .more a d => a.text ++ (Connective.any.queryText.toList ++ d.text)

/-- The text that is derived. -/
def AllOf.text : AllOf → List Char
  | .one p => p.text
  | .more p a => p.text ++ (Connective.all.queryText.toList ++ a.text)

/-- The text that is derived. -/
def Primary.text : Primary → List Char
  | .leaf s => s.toList
  | .group d => '(' :: (d.text ++ [')'])
end

mutual
/-- The leaves of a condition, from left to right. -/
def AnyOf.leaves : AnyOf → List String
  | .one a => a.leaves
  | .more a d => a.leaves ++ d.leaves

/-- The leaves of an alternative, from left to right. -/
def AllOf.leaves : AllOf → List String
  | .one p => p.leaves
  | .more p a => p.leaves ++ a.leaves

/-- The leaves of a part, from left to right. -/
def Primary.leaves : Primary → List String
  | .leaf s => [s]
  | .group d => d.leaves
end

mutual
/-- Whether a condition holds where its leaves hold as given: one of its
alternatives does. -/
def AnyOf.holds (v : String → Bool) : AnyOf → Bool
  | .one a => a.holds v
  | .more a d => a.holds v || d.holds v

/-- Whether an alternative holds: all of its parts do. -/
def AllOf.holds (v : String → Bool) : AllOf → Bool
  | .one p => p.holds v
  | .more p a => p.holds v && a.holds v

/-- Whether a part holds. -/
def Primary.holds (v : String → Bool) : Primary → Bool
  | .leaf s => v s
  | .group d => d.holds v
end

/-- Whether all leaves of a condition are leaves of the query language. -/
def AnyOf.WellFormed (d : AnyOf) : Prop := ∀ s ∈ d.leaves, IsLeaf s.toList

/-- Whether all leaves of an alternative are leaves of the query language. -/
def AllOf.WellFormed (a : AllOf) : Prop := ∀ s ∈ a.leaves, IsLeaf s.toList

/-- Whether all leaves of a part are leaves of the query language. -/
def Primary.WellFormed (p : Primary) : Prop := ∀ s ∈ p.leaves, IsLeaf s.toList

/-- The derivation reads the text. -/
def AnyOf.Reads (d : AnyOf) (text : List Char) : Prop := d.WellFormed ∧ d.text = text

/-- A text in which a condition cannot go on. -/
def ClosesAny (r : List Char) : Prop := r = [] ∨ ∃ t, r = ')' :: t

/-- A text in which an alternative cannot go on. -/
def ClosesAll (r : List Char) : Prop :=
  ClosesAny r ∨ ∃ t, r = Connective.any.queryText.toList ++ t

/-- A text in which a part cannot go on. -/
def ClosesPrimary (r : List Char) : Prop :=
  ClosesAll r ∨ ∃ t, r = Connective.all.queryText.toList ++ t

theorem ClosesPrimary.endsWord {r : List Char} (h : ClosesPrimary r) : EndsWord r := by
  obtain ((rfl | ⟨t, rfl⟩) | ⟨t, rfl⟩) | ⟨t, rfl⟩ := h
  · exact endsWord_nil
  · exact endsWord_cons t (by decide)
  · exact endsWord_cons _ (by decide)
  · exact endsWord_cons _ (by decide)

/-- Where an alternative cannot go on, there is no AND. -/
theorem ClosesAll.ne_and {r : List Char} (h : ClosesAll r) (t : List Char) :
    r ≠ Connective.all.queryText.toList ++ t := by
  rintro rfl
  obtain (h | ⟨s, h⟩) | ⟨s, h⟩ := h
  · exact absurd h (by simp [Connective.queryText])
  · exact absurd (List.cons.inj h).1 (by decide)
  · exact absurd (List.cons.inj (List.cons.inj h).2).1 (by decide)

/-- Where a condition cannot go on, there is no OR. -/
theorem ClosesAny.ne_or {r : List Char} (h : ClosesAny r) (t : List Char) :
    r ≠ Connective.any.queryText.toList ++ t := by
  rintro rfl
  obtain h | ⟨s, h⟩ := h
  · exact absurd h (by simp [Connective.queryText])
  · exact absurd (List.cons.inj h).1 (by decide)

mutual
/-- **A text has at most one derivation.**  The induction is on the first
derivation, with a rest behind the text in which the condition cannot go on;
that rest is a closing parenthesis inside a group. -/
theorem AnyOf.text_inj : ∀ (d e : AnyOf) {r s : List Char}, d.WellFormed → e.WellFormed →
    ClosesAny r → ClosesAny s → d.text ++ r = e.text ++ s → d = e ∧ r = s
  | .one a, .one b, r, s, ha, hb, hr, hs, h => by
    obtain ⟨hab, hrs⟩ := AllOf.text_inj a b ha hb (.inl hr) (.inl hs) h
    exact ⟨by rw [hab], hrs⟩
  | .one a, .more b e, r, s, ha, hb, hr, hs, h => by
    rw [AnyOf.text, AnyOf.text, List.append_assoc, List.append_assoc] at h
    have hrs := (AllOf.text_inj a b ha (fun x hx => hb x (List.mem_append_left _ hx)) (.inl hr)
      (.inr ⟨_, rfl⟩) h).2
    exact absurd hrs (hr.ne_or _)
  | .more a d, .one b, r, s, ha, hb, hr, hs, h => by
    rw [AnyOf.text, AnyOf.text, List.append_assoc, List.append_assoc] at h
    have hrs := (AllOf.text_inj a b (fun x hx => ha x (List.mem_append_left _ hx)) hb
      (.inr ⟨_, rfl⟩) (.inl hs) h).2
    exact absurd hrs.symm (hs.ne_or _)
  | .more a d, .more b e, r, s, ha, hb, hr, hs, h => by
    rw [AnyOf.text, AnyOf.text, List.append_assoc, List.append_assoc, List.append_assoc,
      List.append_assoc] at h
    obtain ⟨hab, hrest⟩ := AllOf.text_inj a b (fun x hx => ha x (List.mem_append_left _ hx))
      (fun x hx => hb x (List.mem_append_left _ hx)) (.inr ⟨_, rfl⟩) (.inr ⟨_, rfl⟩) h
    obtain ⟨hde, hrs⟩ := AnyOf.text_inj d e (fun x hx => ha x (List.mem_append_right _ hx))
      (fun x hx => hb x (List.mem_append_right _ hx)) hr hs (List.append_cancel_left hrest)
    exact ⟨by rw [hab, hde], hrs⟩

/-- An alternative is told from a text behind it in which it cannot go on. -/
theorem AllOf.text_inj : ∀ (a b : AllOf) {r s : List Char}, a.WellFormed → b.WellFormed →
    ClosesAll r → ClosesAll s → a.text ++ r = b.text ++ s → a = b ∧ r = s
  | .one p, .one q, r, s, hp, hq, hr, hs, h => by
    obtain ⟨hpq, hrs⟩ := Primary.text_inj p q hp hq (.inl hr) (.inl hs) h
    exact ⟨by rw [hpq], hrs⟩
  | .one p, .more q b, r, s, hp, hq, hr, hs, h => by
    rw [AllOf.text, AllOf.text, List.append_assoc, List.append_assoc] at h
    have hrs := (Primary.text_inj p q hp (fun x hx => hq x (List.mem_append_left _ hx)) (.inl hr)
      (.inr ⟨_, rfl⟩) h).2
    exact absurd hrs (hr.ne_and _)
  | .more p a, .one q, r, s, hp, hq, hr, hs, h => by
    rw [AllOf.text, AllOf.text, List.append_assoc, List.append_assoc] at h
    have hrs := (Primary.text_inj p q (fun x hx => hp x (List.mem_append_left _ hx)) hq
      (.inr ⟨_, rfl⟩) (.inl hs) h).2
    exact absurd hrs.symm (hs.ne_and _)
  | .more p a, .more q b, r, s, hp, hq, hr, hs, h => by
    rw [AllOf.text, AllOf.text, List.append_assoc, List.append_assoc, List.append_assoc,
      List.append_assoc] at h
    obtain ⟨hpq, hrest⟩ := Primary.text_inj p q (fun x hx => hp x (List.mem_append_left _ hx))
      (fun x hx => hq x (List.mem_append_left _ hx)) (.inr ⟨_, rfl⟩) (.inr ⟨_, rfl⟩) h
    obtain ⟨hab, hrs⟩ := AllOf.text_inj a b (fun x hx => hp x (List.mem_append_right _ hx))
      (fun x hx => hq x (List.mem_append_right _ hx)) hr hs (List.append_cancel_left hrest)
    exact ⟨by rw [hpq, hab], hrs⟩

/-- A part is told from a text behind it in which it cannot go on. -/
theorem Primary.text_inj : ∀ (p q : Primary) {r s : List Char}, p.WellFormed → q.WellFormed →
    ClosesPrimary r → ClosesPrimary s → p.text ++ r = q.text ++ s → p = q ∧ r = s
  | .leaf x, .leaf y, r, s, hp, hq, hr, hs, h => by
    obtain ⟨hxy, hrs⟩ := (hp x (List.mem_singleton_self x)).append_inj
      (hq y (List.mem_singleton_self y)) hr.endsWord hs.endsWord h
    exact ⟨by rw [String.toList_inj.1 hxy], hrs⟩
  | .leaf x, .group e, r, s, hp, hq, hr, hs, h => by
    obtain ⟨c, t, ht, hc⟩ := (hp x (List.mem_singleton_self x)).head r
    rw [Primary.text, Primary.text, ht] at h
    rw [(List.cons.inj h).1] at hc
    exact absurd hc (by decide)
  | .group d, .leaf y, r, s, hp, hq, hr, hs, h => by
    obtain ⟨c, t, ht, hc⟩ := (hq y (List.mem_singleton_self y)).head s
    rw [Primary.text, Primary.text, ht] at h
    rw [← (List.cons.inj h).1] at hc
    exact absurd hc (by decide)
  | .group d, .group e, r, s, hp, hq, hr, hs, h => by
    rw [Primary.text, Primary.text, List.cons_append, List.cons_append, List.append_assoc,
      List.append_assoc] at h
    obtain ⟨hde, hrest⟩ := AnyOf.text_inj d e hp hq (.inr ⟨r, rfl⟩) (.inr ⟨s, rfl⟩)
      (List.cons.inj h).2
    exact ⟨by rw [hde], (List.cons.inj hrest).2⟩
end

/-- **The grammar is unambiguous:** two derivations that read one text are one. -/
theorem AnyOf.Reads.unique {d e : AnyOf} {text : List Char} (hd : d.Reads text)
    (he : e.Reads text) : d = e := by
  have h : d.text ++ [] = e.text ++ [] := by rw [hd.2, he.2]
  exact (AnyOf.text_inj d e hd.1 he.1 (.inl rfl) (.inl rfl) h).1

end Filter
end RecordBridge
