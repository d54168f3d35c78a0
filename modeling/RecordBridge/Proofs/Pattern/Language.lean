/-
# What a pattern matches and where an expression is found

A pattern and a regular expression are each a language of texts, given here on
what is written and read from the left, with no items in between.

    pattern   %       any run                  expression   .       any one
              _       any one                               .*      any run
              \ c     n, r, t, f: a control;                .+      any run but the empty one
                      c itself otherwise                    \ c     c itself, no letter or numeral
              c       c itself                              c       c itself, no syntax

A pattern matches the whole of a text (`likeLanguage`).  An expression matches
from some place on (`matchLanguage`), and anything may follow unless it ends in
an anchor; where it does not begin with an anchor the place is any
(`searchLanguage`).
-/

import Mathlib.Computability.Language
import RecordBridge.Text.Alphanumeric

namespace RecordBridge
namespace Pattern

/-- The texts of one character. -/
def anyOne : Language Char := {w | w.length = 1}

/-- The texts of at least one character. -/
def nonEmpty : Language Char := {w | w ≠ []}

/-- The character that a pattern means by an escaped one. -/
def escapeMeaning : Char → Char
  | 'n' => '\n'
  | 'r' => '\r'
  | 't' => '\t'
  | 'f' => '\x0c'
  | c => c

/-- The texts that a pattern matches. -/
def likeLanguage : List Char → Language Char
  | [] => 1
  | '%' :: p => ⊤ * likeLanguage p
  | '_' :: p => anyOne * likeLanguage p
  | '\\' :: c :: p => {[escapeMeaning c]} * likeLanguage p
  | c :: p => {[c]} * likeLanguage p

/-- The characters that are syntax in an expression. -/
def syntaxChars : List Char := "\\.*+?()[]\x7b\x7d|^$".toList

/-- The texts that an expression without a leading anchor matches from their
first character on.  What is none of the expressions above matches nothing. -/
def matchLanguage : List Char → Language Char
  | [] => ⊤
  | ['$'] => 1
  | '\\' :: c :: p => if Text.isAlphanumeric c then 0 else {[c]} * matchLanguage p
  | '.' :: '*' :: p => ⊤ * matchLanguage p
  | '.' :: '+' :: p => nonEmpty * matchLanguage p
  | '.' :: p => anyOne * matchLanguage p
  | c :: p => if c ∈ syntaxChars then 0 else {[c]} * matchLanguage p

/-- The texts in which an expression is found. -/
def searchLanguage : List Char → Language Char
  | '^' :: p => matchLanguage p
  | p => ⊤ * matchLanguage p

theorem top_mul_top : (⊤ : Language Char) * ⊤ = ⊤ := by
  ext w
  constructor
  · intro _
    exact Set.mem_univ w
  · intro _
    exact Language.mem_mul.2 ⟨w, Set.mem_univ w, [], Set.mem_univ [], List.append_nil w⟩

/-- A run of at least one character is one character and a run. -/
theorem anyOne_mul_top : anyOne * ⊤ = nonEmpty := by
  ext w
  constructor
  · intro hw
    obtain ⟨u, hu, v, -, rfl⟩ := Language.mem_mul.1 hw
    intro hnil
    obtain ⟨rfl, -⟩ := List.append_eq_nil_iff.1 hnil
    exact absurd hu Nat.zero_ne_one
  · intro hw
    obtain ⟨c, v, rfl⟩ := List.exists_cons_of_ne_nil hw
    exact Language.mem_mul.2 ⟨[c], rfl, v, Set.mem_univ v, rfl⟩

theorem nonEmpty_mul_top : nonEmpty * ⊤ = nonEmpty := by
  rw [← anyOne_mul_top, mul_assoc, top_mul_top]

theorem likeLanguage_run : likeLanguage ['%'] = ⊤ := by
  rw [likeLanguage, likeLanguage, mul_one]

/-- A character that is no wildcard and no escape is matched by itself. -/
theorem likeLanguage_plain {c : Char} {p : List Char} (hrun : c ≠ '%') (hone : c ≠ '_')
    (hescape : c ≠ '\\') : likeLanguage (c :: p) = {[c]} * likeLanguage p := by
  rw [likeLanguage.eq_5]
  · exact hrun
  · exact hone
  · rintro e q rfl
    exact absurd rfl hescape

/-- A character that is no syntax is matched by itself. -/
theorem matchLanguage_plain {c : Char} {p : List Char} (h : c ∉ syntaxChars) :
    matchLanguage (c :: p) = {[c]} * matchLanguage p := by
  have hne : ∀ d ∈ syntaxChars, c ≠ d := by
    rintro d hd rfl
    exact h hd
  rw [matchLanguage.eq_7, if_neg h]
  · intro hanchor
    exact absurd hanchor (hne '$' (by decide))
  · intro _ _ hescape
    exact absurd hescape (hne '\\' (by decide))
  · intro _ hdot
    exact absurd hdot (hne '.' (by decide))
  · intro _ hdot
    exact absurd hdot (hne '.' (by decide))
  · exact hne '.' (by decide)

/-- A dot that no sign of repetition follows is matched by any one character. -/
theorem matchLanguage_dot {p : List Char} (hstar : p.head? ≠ some '*')
    (hplus : p.head? ≠ some '+') : matchLanguage ('.' :: p) = anyOne * matchLanguage p := by
  rw [matchLanguage.eq_6]
  · rintro q rfl
    exact hstar rfl
  · rintro q rfl
    exact hplus rfl

/-- An expression without a leading anchor is found anywhere. -/
theorem searchLanguage_open {p : List Char} (h : p.head? ≠ some '^') :
    searchLanguage p = ⊤ * matchLanguage p := by
  rw [searchLanguage.eq_2]
  rintro q rfl
  exact h rfl

end Pattern
end RecordBridge
