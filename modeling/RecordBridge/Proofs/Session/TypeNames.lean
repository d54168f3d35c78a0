/-
# What is let through as the name of a type

A proper name is one ASCII letter followed by ASCII letters, digits and
underscores.  The session lets every proper name through, and also a proper name
with one line end behind it; nothing else (`isTypeName_iff`).
-/

import RecordBridge.Session.Types

namespace RecordBridge
namespace Session

/-- Whether a character is an ASCII letter. -/
def IsLetter (c : Char) : Prop := 'A' ≤ c ∧ c ≤ 'Z' ∨ 'a' ≤ c ∧ c ≤ 'z'

/-- Whether a character is an ASCII digit. -/
def IsDigit (c : Char) : Prop := '0' ≤ c ∧ c ≤ '9'

/-- Whether the whole of a text is one ASCII letter followed by ASCII letters, digits
and underscores. -/
def IsProperName (name : String) : Prop :=
  ∃ c cs, name.toList = c :: cs ∧ IsLetter c ∧ ∀ d ∈ cs, IsLetter d ∨ IsDigit d ∨ d = '_'

theorem isAlpha_iff {c : Char} : c.isAlpha = true ↔ IsLetter c := by
  delta Char.isAlpha Char.isUpper Char.isLower IsLetter
  simp only [Bool.or_eq_true, Bool.and_eq_true, decide_eq_true_eq, ge_iff_le, Char.le_def]

theorem isDigit_iff {c : Char} : c.isDigit = true ↔ IsDigit c := by
  delta Char.isDigit IsDigit
  simp only [Bool.and_eq_true, decide_eq_true_eq, ge_iff_le, Char.le_def]

theorem isNameChar_iff {c : Char} : isNameChar c = true ↔ IsLetter c ∨ IsDigit c ∨ c = '_' := by
  rw [isNameChar, Char.isAlphanum, Bool.or_eq_true, Bool.or_eq_true, isAlpha_iff, isDigit_iff,
    decide_eq_true_eq, or_assoc]

instance : DecidablePred IsProperName := fun name =>
  match h : name.toList with
  | [] => isFalse fun ⟨_, _, hname, _⟩ => List.cons_ne_nil _ _ (hname.symm.trans h)
  | c :: cs =>
    decidable_of_iff (c.isAlpha = true ∧ cs.all isNameChar = true) <| by
      simp only [isAlpha_iff, List.all_eq_true, isNameChar_iff]
      constructor
      · exact fun ⟨hc, hcs⟩ => ⟨c, cs, h, hc, hcs⟩
      · rintro ⟨_, _, hname, hcs⟩
        obtain ⟨rfl, rfl⟩ := List.cons.inj (h.symm.trans hname)
        exact hcs

/-- Whether a text is a proper name with a line end behind it. -/
def HasLineEnd (name : String) : Prop := ∃ front, IsProperName front ∧ name = front ++ "\n"

/-- Nothing else stands in a proper name. -/
theorem IsProperName.notMem {name : String} (h : IsProperName name) {c : Char}
    (hc : isNameChar c = false) : c ∉ name.toList := by
  obtain ⟨first, cs, hname, hfirst, hcs⟩ := h
  rw [hname]
  intro hmem
  have hchar : isNameChar c = true := by
    rw [isNameChar_iff]
    obtain rfl | hmem := List.mem_cons.1 hmem
    · exact .inl hfirst
    · exact hcs _ hmem
  exact Bool.false_ne_true (hc.symm.trans hchar)

/-! ### The line end -/

theorem dropLineEnd_concat (cs : List Char) : dropLineEnd (cs ++ ['\n']) = cs := by
  simp [dropLineEnd]

/-- What is left out is one line end at the end, or nothing. -/
theorem dropLineEnd_cases (cs : List Char) :
    cs = dropLineEnd cs ++ ['\n'] ∨ dropLineEnd cs = cs := by
  unfold dropLineEnd
  split
  · next rest hrest =>
    rw [← List.reverse_reverse cs, hrest, List.reverse_cons]
    exact .inl rfl
  · exact .inr rfl

theorem isTypeName_iff_dropLineEnd {name : String} :
    isTypeName name = true ↔ IsProperName (String.ofList (dropLineEnd name.toList)) := by
  unfold isTypeName IsProperName
  rw [String.toList_ofList]
  cases dropLineEnd name.toList with
  | nil => exact iff_of_false Bool.false_ne_true fun ⟨_, _, h, _⟩ => List.cons_ne_nil _ _ h.symm
  | cons c cs =>
    simp only [Bool.and_eq_true, isAlpha_iff, List.all_eq_true, isNameChar_iff]
    constructor
    · rintro ⟨hc, hcs⟩
      exact ⟨c, cs, rfl, hc, hcs⟩
    · rintro ⟨_, _, hcons, hc, hcs⟩
      obtain ⟨rfl, rfl⟩ := List.cons.inj hcons
      exact ⟨hc, hcs⟩

/-- **A name is let through if it is proper, or proper but for a line end behind it.** -/
theorem isTypeName_iff {name : String} :
    isTypeName name = true ↔ IsProperName name ∨ HasLineEnd name := by
  rw [isTypeName_iff_dropLineEnd]
  constructor
  · intro h
    obtain hname | hname := dropLineEnd_cases name.toList
    · refine .inr ⟨_, h, ?_⟩
      rw [← String.toList_inj, String.toList_append, String.toList_ofList]
      exact hname
    · rw [hname, String.ofList_toList] at h
      exact .inl h
  · rintro (h | ⟨front, h, rfl⟩)
    · obtain hname | hname := dropLineEnd_cases name.toList
      · refine absurd ?_ (h.notMem (c := '\n') (by decide))
        rw [hname]
        exact List.mem_append_right _ (List.mem_singleton_self _)
      · rwa [hname, String.ofList_toList]
    · have hchars : (front ++ "\n").toList = front.toList ++ ['\n'] := String.toList_append
      rwa [hchars, dropLineEnd_concat, String.ofList_toList]

end Session
end RecordBridge
