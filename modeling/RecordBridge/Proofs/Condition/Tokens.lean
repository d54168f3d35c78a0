/-
# The tokens of a condition

Read without regard to its grammar, a condition is a line of tokens: words,
marks of one character, and literals between quotes, each of which is one
token whatever it holds.  `tokensFrom` reads them one character at a time, and
`eraseFrom` makes literals of the words that stand in the place of an operand,
which are those behind `=`, `<` or `>` and those in the parentheses behind
`IN`.  What is left is the `skeletonOf` a condition: the names, operators,
connectives, parentheses and commas as they are, and nothing of the operands
but where they stand.
-/

import RecordBridge.Proofs.Condition.Lexis

namespace RecordBridge
namespace Filter

/-- A token of a condition.  The word and the mark are as they were read; of a
quoted literal nothing is kept. -/
inductive Token
  | word (chars : List Char)
  | literal
  | mark (c : Char)
  /-- A quote that is never closed. -/
  | unclosed
  deriving DecidableEq, Repr

/-- Where a reader of tokens stands. -/
inductive LexState
  | between
  | inWord (done : List Char)
  | inQuotes
  /-- Behind a backslash between quotes. -/
  | escaped
  deriving DecidableEq, Repr

namespace LexState

/-- The first character of a token, or a blank. -/
def start (c : Char) : List Token × LexState :=
  if c = ' ' then ([], .between)
  else if c = '\'' then ([], .inQuotes)
  else if isWordChar c then ([], .inWord [c])
  else ([.mark c], .between)

/-- The tokens that end with a character, and where the reader stands then. -/
def step : LexState → Char → List Token × LexState
  | .between, c => start c
  | .inWord done, c =>
    if isWordChar c then ([], .inWord (done ++ [c])) else (.word done :: (start c).1, (start c).2)
  | .inQuotes, c =>
    if c = '\\' then ([], .escaped)
    else if c = '\'' then ([.literal], .between)
    else ([], .inQuotes)
  | .escaped, _ => ([], .inQuotes)

/-- The token that ends with the text. -/
def finish : LexState → List Token
  | .between => []
  | .inWord done => [.word done]
  | .inQuotes | .escaped => [.unclosed]

end LexState

/-- The tokens of a text, read on from a state. -/
def tokensFrom : LexState → List Char → List Token
  | s, [] => s.finish
  | s, c :: cs => (s.step c).1 ++ tokensFrom (s.step c).2 cs

/-- What the next word of a condition is. -/
inductive Place
  /-- A name, an operator or a connective. -/
  | condition
  /-- The same, behind the word `IN`; a parenthesis opens a list. -/
  | behindIn
  | operand
  /-- An operand in a list. -/
  | list
  deriving DecidableEq, Repr

/-- A token with its operand erased, and the place behind it. -/
def Place.step : Place → Token → Token × Place
  | .operand, .word _ => (.literal, .condition)
  | .list, .word _ => (.literal, .list)
  | .list, .mark c => (.mark c, if c = ')' then .condition else .list)
  | .list, t => (t, .list)
  | _, .word w => (.word w, if w = ['I', 'N'] then .behindIn else .condition)
  | .behindIn, .mark '(' => (.mark '(', .list)
  | _, .mark c => (.mark c, if c = '=' ∨ c = '<' ∨ c = '>' then .operand else .condition)
  | _, t => (t, .condition)

/-- Tokens with the words in the places of operands made literals. -/
def eraseFrom : Place → List Token → List Token
  | _, [] => []
  | p, t :: ts => (p.step t).1 :: eraseFrom (p.step t).2 ts

/-- The tokens of a condition with its operands erased. -/
def skeletonOf (cs : List Char) : List Token := eraseFrom .condition (tokensFrom .between cs)

/-! ### Reading -/

theorem tokensFrom_blank (r : List Char) : tokensFrom .between (' ' :: r) = tokensFrom .between r :=
  rfl

/-- A character that is no blank, no quote and not of a word is a mark. -/
theorem tokensFrom_mark {c : Char} (hblank : c ≠ ' ') (hquote : c ≠ '\'')
    (hword : isWordChar c = false) (r : List Char) :
    tokensFrom .between (c :: r) = .mark c :: tokensFrom .between r := by
  have hstart : LexState.start c = ([.mark c], .between) := by
    rw [LexState.start, if_neg hblank, if_neg hquote, hword]
    rfl
  rw [tokensFrom, LexState.step, hstart]
  rfl

/-- A word goes on as far as its characters do. -/
theorem tokensFrom_inWord {w r : List Char} (hw : ∀ c ∈ w, isWordChar c = true) (hr : EndsWord r)
    (done : List Char) :
    tokensFrom (.inWord done) (w ++ r) = .word (done ++ w) :: tokensFrom .between r := by
  induction w generalizing done with
  | nil =>
    rw [List.nil_append, List.append_nil]
    cases r with
    | nil => rfl
    | cons c r =>
      have hc : isWordChar c = false := hr c rfl
      rw [tokensFrom, LexState.step, hc]
      rfl
  | cons c w ih =>
    have hc : isWordChar c = true := hw c (List.mem_cons_self ..)
    rw [List.cons_append, tokensFrom, LexState.step, if_pos hc]
    show tokensFrom (.inWord (done ++ [c])) (w ++ r) = _
    rw [ih (fun d hd => hw d (List.mem_cons_of_mem _ hd)), List.append_assoc]
    rfl

/-- **A word is one token.** -/
theorem tokensFrom_word {w r : List Char} (hw : IsWord w) (hr : EndsWord r) :
    tokensFrom .between (w ++ r) = .word w :: tokensFrom .between r := by
  obtain ⟨c, w, rfl⟩ := List.exists_cons_of_ne_nil hw.1
  have hc : isWordChar c = true := hw.2 c (List.mem_cons_self ..)
  have hblank : c ≠ ' ' := by
    rintro rfl
    exact absurd hc (by decide)
  have hquote : c ≠ '\'' := by
    rintro rfl
    exact absurd hc (by decide)
  have hstart : LexState.start c = ([], .inWord [c]) := by
    rw [LexState.start, if_neg hblank, if_neg hquote, if_pos hc]
  rw [List.cons_append, tokensFrom, LexState.step, hstart]
  exact tokensFrom_inWord (fun d hd => hw.2 d (List.mem_cons_of_mem _ hd)) hr [c]

theorem tokensFrom_inQuotes {b : List Char} (hb : IsBody b) (r : List Char) :
    tokensFrom .inQuotes (b ++ '\'' :: r) = .literal :: tokensFrom .between r := by
  induction hb with
  | nil => rfl
  | plain hq hs _ ih =>
    rw [List.cons_append, tokensFrom, LexState.step, if_neg hs, if_neg hq]
    exact ih
  | escape _ ih => exact ih

/-- **A quoted literal is one token**, whatever stands between the quotes. -/
theorem tokensFrom_quoted {b : List Char} (hb : IsBody b) (r : List Char) :
    tokensFrom .between ('\'' :: b ++ ['\''] ++ r) = .literal :: tokensFrom .between r := by
  rw [List.append_assoc]
  exact tokensFrom_inQuotes hb r

/-- A token that is an operand in the place of one. -/
inductive Token.IsOperand : Token → Prop
  | word (w : List Char) : IsOperand (.word w)
  | literal : IsOperand .literal

/-- A literal is one token, quoted or not. -/
theorem exists_tokensFrom_literal {l r : List Char} (hl : IsLiteral l) (hr : EndsWord r) :
    ∃ k : Token, k.IsOperand ∧ tokensFrom .between (l ++ r) = k :: tokensFrom .between r := by
  cases hl with
  | word hw => exact ⟨_, .word _, tokensFrom_word hw hr⟩
  | quoted hb => exact ⟨_, .literal, tokensFrom_quoted hb r⟩

/-! ### Erasing -/

theorem Token.IsOperand.eraseFrom_operand {k : Token} (h : k.IsOperand) (ts : List Token) :
    eraseFrom .operand (k :: ts) = .literal :: eraseFrom .condition ts := by
  cases h with
  | word _ | literal => rfl

theorem Token.IsOperand.eraseFrom_list {k : Token} (h : k.IsOperand) (ts : List Token) :
    eraseFrom .list (k :: ts) = .literal :: eraseFrom .list ts := by
  cases h with
  | word _ | literal => rfl

/-- A parenthesis around conditions stays. -/
theorem skeletonOf_open (r : List Char) : skeletonOf ('(' :: r) = .mark '(' :: skeletonOf r := by
  rw [skeletonOf, tokensFrom_mark (by decide) (by decide) (by decide)]
  rfl

theorem skeletonOf_close (r : List Char) : skeletonOf (')' :: r) = .mark ')' :: skeletonOf r := by
  rw [skeletonOf, tokensFrom_mark (by decide) (by decide) (by decide)]
  rfl

/-- The token of a connective. -/
def Connective.token : Connective → Token
  | .all => .word "AND".toList
  | .any => .word "OR".toList

/-- A connective between two conditions stays. -/
theorem skeletonOf_connective (connective : Connective) (r : List Char) :
    skeletonOf (connective.queryText.toList ++ r) = connective.token :: skeletonOf r := by
  have hblank : EndsWord (' ' :: r) := endsWord_cons r (by decide)
  cases connective with
  | all =>
    show skeletonOf (' ' :: ("AND".toList ++ ' ' :: r)) = _
    rw [skeletonOf, tokensFrom_blank, tokensFrom_word (.of_all (by decide) (by decide)) hblank]
    rfl
  | any =>
    show skeletonOf (' ' :: ("OR".toList ++ ' ' :: r)) = _
    rw [skeletonOf, tokensFrom_blank, tokensFrom_word (.of_all (by decide) (by decide)) hblank]
    rfl

end Filter
end RecordBridge
