/-
# Literals without quotes are words

Numbers, points in time, days, truth values and null stand in a condition
without quotes.  Whatever their value, they are written with digits, letters,
signs, points and colons only, so each is one word of the query language
(`Filter.IsWord`): none of them can bring a blank, a quote, a comma or a
parenthesis into a condition.
-/

import RecordBridge.Filter.Literal
import RecordBridge.Proofs.Condition.Lexis

namespace RecordBridge
namespace Filter

/-- A run of characters that may stand in a word; it may be empty. -/
def WordChars (cs : List Char) : Prop := ∀ c ∈ cs, isWordChar c = true

namespace WordChars

theorem nil : WordChars [] := fun _ h => absurd h List.not_mem_nil

theorem cons {c : Char} {cs : List Char} (hc : isWordChar c = true) (h : WordChars cs) :
    WordChars (c :: cs) := by
  intro d hd
  rcases List.mem_cons.1 hd with rfl | hd
  · exact hc
  · exact h d hd

theorem append {a b : List Char} (ha : WordChars a) (hb : WordChars b) : WordChars (a ++ b) := by
  intro c hc
  rcases List.mem_append.1 hc with hc | hc
  · exact ha c hc
  · exact hb c hc

/-- Texts put behind one another. -/
theorem text_append {s t : String} (hs : WordChars s.toList) (ht : WordChars t.toList) :
    WordChars (s ++ t).toList := by
  rw [String.toList_append]
  exact hs.append ht

theorem ofList {cs : List Char} (h : WordChars cs) : WordChars (String.ofList cs).toList := by
  rw [String.toList_ofList]
  exact h

theorem replicate {c : Char} (n : Nat) (hc : isWordChar c = true) :
    WordChars (List.replicate n c) := by
  intro d hd
  rw [List.eq_of_mem_replicate hd]
  exact hc

/-- A part of a run is a run. -/
theorem sublist {a b : List Char} (h : WordChars b) (hab : a.Sublist b) : WordChars a :=
  fun c hc => h c (hab.subset hc)

theorem isWord {cs : List Char} (h : WordChars cs) (hne : cs ≠ []) : IsWord cs := ⟨hne, h⟩

end WordChars

theorem isWordChar_of_isDigit {c : Char} (h : c.isDigit = true) : isWordChar c = true := by
  have hlt : c.toNat < 128 := by
    simp only [Char.isDigit, Bool.and_eq_true, decide_eq_true_eq] at h
    have h9 : c.toNat ≤ '9'.toNat := h.2
    exact Nat.lt_of_le_of_lt h9 (by decide)
  rw [isWordChar, isIdentifierChar, Text.isAlphanumeric_of_ascii hlt, Char.isAlphanum, h]
  simp

/-! ### Integers -/

theorem wordChars_toDigits (n : Nat) : WordChars (Nat.toDigits 10 n) := fun _ hc =>
  isWordChar_of_isDigit (Nat.isDigit_of_mem_toDigits (by decide) (by decide) hc)

theorem wordChars_natText (n : Nat) : WordChars (toString n).toList := by
  rw [Nat.toString_eq_ofList_toDigits]
  exact (wordChars_toDigits n).ofList

theorem natText_ne_nil (n : Nat) : (toString n).toList ≠ [] := by
  rw [Nat.toString_eq_ofList_toDigits, String.toList_ofList]
  exact Nat.toDigits_ne_nil

/-- An integer is a word. -/
theorem isWord_intText (n : Int) : IsWord (toString n).toList := by
  rw [Int.toString_eq_repr, Int.repr_eq_if]
  split
  · exact ⟨natText_ne_nil _, wordChars_natText _⟩
  · rw [String.toList_append]
    exact ((WordChars.cons (by decide) .nil).append (wordChars_natText _)).isWord (by simp)

/-! ### Doubles and decimals -/

section
open Numeric

theorem wordChars_padZeros (width : Nat) {s : String} (h : WordChars s.toList) :
    WordChars (Shortest.padZeros width s).toList :=
  (WordChars.ofList (.replicate _ (by decide))).text_append h

theorem wordChars_exponentText (e : Int) :
    WordChars (Shortest.exponentText Shortest.display e).toList := by
  refine WordChars.text_append ?_ (wordChars_padZeros _ (wordChars_natText _))
  split
  · exact .cons (by decide) .nil
  · exact .cons (by decide) .nil

/-- Digits are laid out as a word, wherever the point goes. -/
theorem isWord_layOut {ds : List Char} (h : WordChars ds) (place : Int) :
    IsWord (Shortest.layOut Shortest.display ds place).toList := by
  unfold Shortest.layOut
  split
  · split
    · refine WordChars.isWord (.text_append (.cons (by decide) (.cons (by decide) .nil)) ?_) ?_
      · exact (WordChars.append (.replicate _ (by decide)) h).ofList
      · simp
    · dsimp only
      split
      · refine WordChars.isWord (.text_append ?_ (.cons (by decide) (.cons (by decide) .nil))) ?_
        · exact (h.append (.replicate _ (by decide))).ofList
        · simp [Shortest.display]
      · refine WordChars.isWord (.text_append (.text_append ?_ (.cons (by decide) .nil)) ?_) ?_
        · exact (h.sublist (List.take_sublist ..)).ofList
        · exact (h.sublist (List.drop_sublist ..)).ofList
        · simp
  · dsimp only
    refine WordChars.isWord (.text_append (.text_append (.text_append ?_ ?_)
      (.cons (by decide) .nil)) (wordChars_exponentText _)) ?_
    · exact (h.sublist (List.take_sublist ..)).ofList
    · split
      · exact .nil
      · exact .text_append (.cons (by decide) .nil) (h.sublist (List.drop_sublist ..)).ofList
    · simp [Shortest.display]

theorem wordChars_trimZeros {ds : List Char} (h : WordChars ds) :
    WordChars (Shortest.trimZeros ds) := by
  intro c hc
  rw [Shortest.trimZeros, List.mem_reverse] at hc
  exact h c (List.mem_reverse.1 ((List.dropWhile_sublist _).subset hc))

/-- A text with or without a minus in front of it is a word if it is one. -/
theorem isWord_signed {s : String} (negative : Bool) (h : IsWord s.toList) :
    IsWord ((if negative then "-" else "") ++ s).toList := by
  rw [String.toList_append]
  cases negative
  · exact h
  · exact (WordChars.append (.cons (by decide) .nil) h.2).isWord (by simp)

/-- A double is a word. -/
theorem isWord_doubleText (x : Binary64) : IsWord x.toText.toList := by
  unfold Binary64.toText Shortest.render
  split
  · exact .of_all (by decide) (by decide)
  · exact isWord_signed _ (.of_all (by decide) (by decide))
  · dsimp only
    refine isWord_signed _ ?_
    split
    · exact isWord_layOut (.cons (by decide) .nil) 1
    · split
      · exact isWord_layOut (wordChars_trimZeros (wordChars_toDigits _)) _
      · exact .of_all (by decide) (by decide)

theorem wordChars_pointed {ds : List Char} (h : WordChars ds) (place : Int) :
    WordChars (DecimalDatum.pointed ds place) := by
  unfold DecimalDatum.pointed
  split
  · exact .append (.cons (by decide) (.cons (by decide) (.replicate _ (by decide)))) h
  · split
    · exact h
    · exact (h.sublist (List.take_sublist ..)).append
        (.cons (by decide) (h.sublist (List.drop_sublist ..)))

theorem pointed_ne_nil {ds : List Char} (h : ds ≠ []) (place : Int) :
    DecimalDatum.pointed ds place ≠ [] := by
  unfold DecimalDatum.pointed
  split
  · simp
  · split
    · exact h
    · simp

/-- The magnitude of a finite decimal is a word. -/
theorem isWord_magnitudeText (d : Decimal) : IsWord (DecimalDatum.magnitudeText d) := by
  have hds := wordChars_toDigits d.coefficient
  have hne : Nat.toDigits 10 d.coefficient ≠ [] := Nat.toDigits_ne_nil
  unfold DecimalDatum.magnitudeText
  dsimp only
  split
  · exact ⟨pointed_ne_nil hne _, wordChars_pointed hds _⟩
  · refine WordChars.isWord ((wordChars_pointed hds 1).append (.cons (by decide) (.cons ?_
      (wordChars_toDigits _)))) (List.append_ne_nil_of_left_ne_nil (pointed_ne_nil hne 1) _)
    split
    · decide
    · decide

/-- A decimal is a word. -/
theorem isWord_decimalText (d : DecimalDatum) : IsWord d.text.toList := by
  have hbody : IsWord d.unsignedText := by
    unfold DecimalDatum.unsignedText
    split
    · exact isWord_magnitudeText _
    · exact .of_all (by decide) (by decide)
    · refine WordChars.isWord (.append ?_ ?_) ?_
      · split
        · exact (IsWord.of_all (by decide) (by decide)).2
        · exact (IsWord.of_all (by decide) (by decide)).2
      · split
        · exact .nil
        · exact wordChars_toDigits _
      · refine List.append_ne_nil_of_left_ne_nil ?_ _
        split
        · decide
        · decide
  rw [DecimalDatum.text, String.toList_ofList]
  refine WordChars.isWord (.append ?_ hbody.2) (List.append_ne_nil_of_right_ne_nil _ hbody.1)
  split
  · exact .cons (by decide) .nil
  · exact .nil

end

/-! ### Days and points in time -/

section
open Time

theorem wordChars_twoDigits (n : Nat) : WordChars (twoDigits n).toList := by
  unfold twoDigits
  split
  · exact .text_append (.cons (by decide) .nil) (wordChars_natText n)
  · exact wordChars_natText n

theorem wordChars_fourDigits (n : Int) : WordChars (fourDigits n).toList :=
  .text_append (WordChars.ofList (.replicate _ (by decide))) (isWord_intText n).2

/-- A year, a month and a day with hyphens between them are a word. -/
theorem isWord_dateText {year month day : String} (hy : WordChars year.toList)
    (hm : WordChars month.toList) (hd : WordChars day.toList) :
    IsWord (year ++ "-" ++ month ++ "-" ++ day).toList := by
  have hyphen : WordChars "-".toList := .cons (by decide) .nil
  refine WordChars.isWord ((((hy.text_append hyphen).text_append hm).text_append hyphen).text_append
    hd) ?_
  simp

theorem isWord_plainText (d : Date) : IsWord d.plainText.toList :=
  isWord_dateText (isWord_intText _).2 (wordChars_twoDigits _) (wordChars_twoDigits _)

theorem isWord_isoText (d : Date) : IsWord d.isoText.toList :=
  isWord_dateText (wordChars_fourDigits _) (wordChars_twoDigits _) (wordChars_twoDigits _)

/-- A point in time is a word. -/
theorem isWord_timestampLiteral (t : Timestamp) : IsWord t.literal.toList := by
  have hclock : WordChars t.clockText.toList := by
    have colon : WordChars ":".toList := .cons (by decide) .nil
    exact ((((wordChars_twoDigits _).text_append colon).text_append
      (wordChars_twoDigits _)).text_append colon).text_append (wordChars_twoDigits _)
  have hT : WordChars "T".toList := .cons (by decide) .nil
  have hZ : WordChars "Z".toList := .cons (by decide) .nil
  have hdate : WordChars t.date.plainText.toList := (isWord_plainText t.date).2
  refine WordChars.isWord (((hdate.text_append hT).text_append hclock).text_append hZ) ?_
  simp [Timestamp.literal]

end

end Filter
end RecordBridge
