/-
# Quoted literals delimit themselves

A reader that starts at an opening quote takes a backslash together with the
character behind it, and stops at the first quote that is left (`lexQuoted`).
Between the quotes it has read a body (`IsBody`), and it needs nothing of what
follows to find its end (`lexBody_eq_some_iff`).

A text that is quoted is read back as it was when the backslashes are taken out
again, and a pattern ends where it should.  So the text of a filter is made up of
pieces with literals between them, one for each operand that is quoted, and they
stand for the operands in order (`carries_render`).  Outside of them there is a
quote only where a text is taken over without quotes, or in the name of a field.
-/

import Mathlib.Data.List.Forall2
import RecordBridge.Proofs.Condition.Plain
import RecordBridge.Proofs.Condition.Skeleton

namespace RecordBridge
namespace Filter

/-- The characters up to the first quote that is not escaped, and those behind it. -/
def lexBody : List Char → Option (List Char × List Char)
  | [] => none
  | '\'' :: cs => some ([], cs)
  | '\\' :: c :: cs => (lexBody cs).map fun p => ('\\' :: c :: p.1, p.2)
  | c :: cs => (lexBody cs).map fun p => (c :: p.1, p.2)

/-- What stands between the quotes at the front of a text, and what stands behind
them. -/
def lexQuoted : List Char → Option (List Char × List Char)
  | '\'' :: cs => lexBody cs
  | _ => none

/-- The characters that a body stands for: a backslash means the character behind
it. -/
def unescape : List Char → List Char
  | '\\' :: c :: cs => c :: unescape cs
  | c :: cs => c :: unescape cs
  | [] => []

/-- A text with a backslash before every occurrence of a character. -/
def escapeAll (mark : Char) (cs : List Char) : List Char :=
  cs.flatMap fun c => if c = mark then ['\\', c] else [c]

/-! ### Reading -/

/-- **What is read is a body and its closing quote.** -/
theorem lexBody_eq_some_iff {cs body rest : List Char} :
    lexBody cs = some (body, rest) ↔ IsBody body ∧ cs = body ++ '\'' :: rest := by
  constructor
  · intro h
    fun_induction lexBody cs generalizing body with
    | case1 => exact nomatch h
    | case2 cs =>
      obtain ⟨rfl, rfl⟩ := Prod.mk.inj (Option.some.inj h)
      exact ⟨.nil, rfl⟩
    | case3 c cs ih =>
      obtain ⟨⟨front, back⟩, hfront, heq⟩ := Option.map_eq_some_iff.1 h
      obtain ⟨rfl, rfl⟩ := Prod.mk.inj heq
      obtain ⟨hbody, rfl⟩ := ih hfront
      exact ⟨.escape hbody, rfl⟩
    | case4 c cs hquote hescape ih =>
      obtain ⟨⟨front, back⟩, hfront, heq⟩ := Option.map_eq_some_iff.1 h
      obtain ⟨rfl, rfl⟩ := Prod.mk.inj heq
      obtain ⟨hbody, rfl⟩ := ih hfront
      refine ⟨.plain hquote ?_ hbody, rfl⟩
      intro hc
      obtain ⟨d, ds, hds⟩ := List.exists_cons_of_ne_nil (List.append_ne_nil_of_right_ne_nil front
        (List.cons_ne_nil '\'' back))
      exact hescape d ds hc hds
  · rintro ⟨hbody, rfl⟩
    induction hbody with
    | nil => rfl
    | plain hquote hescape _ ih =>
      rw [List.cons_append, lexBody.eq_4, ih]
      · rfl
      · exact hquote
      · exact fun _ _ hc _ => hescape hc
    | escape _ ih =>
      rw [List.cons_append, List.cons_append, lexBody, ih]
      rfl

theorem lexQuoted_eq_some_iff {cs body rest : List Char} :
    lexQuoted cs = some (body, rest) ↔ IsBody body ∧ cs = '\'' :: body ++ '\'' :: rest := by
  unfold lexQuoted
  split
  · next cs => rw [lexBody_eq_some_iff, List.cons_append, List.cons.injEq, eq_self, true_and]
  · next hopen =>
    constructor
    · exact fun h => nomatch h
    · rintro ⟨-, rfl⟩
      exact absurd rfl (hopen _)

/-- What follows does not matter. -/
theorem lexQuoted_append {cs body rest : List Char} (h : lexQuoted cs = some (body, rest))
    (more : List Char) : lexQuoted (cs ++ more) = some (body, rest ++ more) := by
  obtain ⟨hbody, rfl⟩ := lexQuoted_eq_some_iff.1 h
  refine lexQuoted_eq_some_iff.2 ⟨hbody, ?_⟩
  rw [List.append_assoc]
  rfl

/-! ### Texts between quotes -/

/-- Backslashes are escaped first and quotes then, and a quote that is put in does not
bring in backslashes of its own. -/
theorem flatMap_quoteChar (cs : List Char) :
    cs.flatMap quoteChar = escapeAll '\'' (escapeAll '\\' cs) := by
  rw [escapeAll, escapeAll, List.flatMap_assoc]
  refine List.flatMap_congr fun c _ => ?_
  unfold quoteChar
  by_cases hescape : c = '\\'
  · subst hescape
    rfl
  · by_cases hquote : c = '\''
    · subst hquote
      rfl
    · simp [hescape, hquote]

theorem unescape_quoteChar (c : Char) (cs : List Char) :
    unescape (quoteChar c ++ cs) = c :: unescape cs := by
  unfold quoteChar
  split
  · rfl
  · next h =>
    rw [List.singleton_append, unescape.eq_2]
    rintro d ds rfl _
    exact h (.inl rfl)

theorem unescape_flatMap_quoteChar (cs : List Char) : unescape (cs.flatMap quoteChar) = cs := by
  induction cs with
  | nil => rfl
  | cons c cs ih => rw [List.flatMap_cons, unescape_quoteChar, ih]

theorem quote_eq (s : String) :
    (quote s).toList = '\'' :: s.toList.flatMap quoteChar ++ ['\''] := by
  rw [quote, String.toList_ofList]
  rfl

theorem lexQuoted_body {body : List Char} (h : IsBody body) (r : List Char) :
    lexQuoted ('\'' :: body ++ ['\''] ++ r) = some (body, r) := by
  refine lexQuoted_eq_some_iff.2 ⟨h, ?_⟩
  rw [List.append_assoc]
  rfl

/-- **A quoted text is read back**, whatever follows. -/
theorem lexQuoted_quote (s : String) (r : List Char) :
    lexQuoted ((quote s).toList ++ r) = some (s.toList.flatMap quoteChar, r) := by
  rw [quote_eq]
  exact lexQuoted_body (isBody_flatMap isBody_quoteChar) r

theorem quote_injective : Function.Injective quote := by
  intro s t h
  have hs := lexQuoted_quote s []
  rw [h, lexQuoted_quote t [], Option.some.injEq, Prod.mk.injEq] at hs
  rw [← String.toList_inj, ← unescape_flatMap_quoteChar s.toList, ← hs.1, unescape_flatMap_quoteChar]

/-! ### Literals in a text -/

/-- What a literal between quotes stands for: a text, or a pattern, whose own escapes
stay as they are. -/
inductive Quoted
  | text (s : String)
  | pattern (like : String)
  deriving DecidableEq

/-- Whether a body between quotes is that of a literal. -/
def Quoted.IsBodyOf : Quoted → List Char → Prop
  | .text s, body => unescape body = s.toList
  | .pattern like, body => body = like.toList

/-- A text that is made up of pieces with literals between them. -/
inductive Interleaves : List String → List Quoted → List Char → Prop
  | last (piece : String) : Interleaves [piece] [] piece.toList
  | next {piece : String} {pieces : List String} {q : Quoted} {qs : List Quoted}
    {cs body rest : List Char} (hlex : lexQuoted cs = some (body, rest)) (hq : q.IsBodyOf body)
    (h : Interleaves pieces qs rest) : Interleaves (piece :: pieces) (q :: qs) (piece.toList ++ cs)

/-- A quoted text behind a piece. -/
theorem Interleaves.quote {pieces : List String} {qs : List Quoted} {rest : List Char}
    (piece s : String) (h : Interleaves pieces qs rest) :
    Interleaves (piece :: pieces) (.text s :: qs)
      (piece.toList ++ ((quote s).toList ++ rest)) :=
  .next (lexQuoted_quote s rest) (unescape_flatMap_quoteChar s.toList) h

/-- Nothing behind the last literal. -/
theorem Interleaves.nothing : Interleaves [""] [] [] := .last ""

/-- A text that has literals in it, one behind another; if there is a quote outside of
them, then for a reason. -/
def Carries (reason : Prop) (qs : List Quoted) (cs : List Char) : Prop :=
  ∃ pieces, Interleaves pieces qs cs ∧ ∀ piece ∈ pieces, '\'' ∈ piece.toList → reason

namespace Carries

variable {reason : Prop} {q : Quoted} {qs rs : List Quoted} {cs ds : List Char}

/-- A text without literals. -/
theorem text {s : String} (h : '\'' ∈ s.toList → reason) : Carries reason [] s.toList :=
  ⟨[s], .last s, List.forall_mem_singleton.2 h⟩

theorem quoted {body : List Char} (hbody : IsBody body) (hq : q.IsBodyOf body) :
    Carries reason [q] ('\'' :: body ++ ['\'']) := by
  have hlex := lexQuoted_body hbody []
  rw [List.append_nil] at hlex
  refine ⟨["", ""], .next hlex hq .nothing, ?_⟩
  exact List.forall_mem_cons.2 ⟨fun h => absurd h List.not_mem_nil,
    List.forall_mem_singleton.2 fun h => absurd h List.not_mem_nil⟩

theorem mem_toList_append {s t : String} (hs : '\'' ∈ s.toList → reason)
    (ht : '\'' ∈ t.toList → reason) (h : '\'' ∈ (s ++ t).toList) : reason := by
  rw [String.toList_append] at h
  exact (List.mem_append.1 h).elim hs ht

/-- The literals of two texts are those of both together: where the one ends and the
other begins, two pieces become one. -/
theorem append (h : Carries reason qs cs) (h' : Carries reason rs ds) :
    Carries reason (qs ++ rs) (cs ++ ds) := by
  obtain ⟨pieces, h, hpieces⟩ := h
  induction h with
  | last piece =>
    have hpiece := List.forall_mem_singleton.1 hpieces
    obtain ⟨more, h', hmore⟩ := h'
    cases h' with
    | last other =>
      rw [← String.toList_append]
      exact text (mem_toList_append hpiece (List.forall_mem_singleton.1 hmore))
    | @next other pieces q qs cs body rest hlex hq h' =>
      obtain ⟨hother, hrest⟩ := List.forall_mem_cons.1 hmore
      rw [← List.append_assoc, ← String.toList_append]
      exact ⟨_, .next hlex hq h',
        List.forall_mem_cons.2 ⟨mem_toList_append hpiece hother, hrest⟩⟩
  | next hlex hq _ ih =>
    obtain ⟨hpiece, hrest⟩ := List.forall_mem_cons.1 hpieces
    obtain ⟨more, hmore, hbehind⟩ := ih hrest
    rw [List.append_assoc]
    exact ⟨_, .next (lexQuoted_append hlex ds) hq hmore,
      List.forall_mem_cons.2 ⟨hpiece, hbehind⟩⟩

/-- The literals of joined texts are those of the texts, in order. -/
theorem joined {separator : String} (hseparator : '\'' ∉ separator.toList)
    {qss : List (List Quoted)} {ss : List String}
    (h : List.Forall₂ (fun qs s => Carries reason qs s.toList) qss ss) :
    Carries reason qss.flatten (Value.joined separator ss).toList := by
  induction h with
  | nil => exact text fun h => absurd h List.not_mem_nil
  | @cons qs s qss ss hs hrest ih =>
    rw [List.flatten_cons]
    cases hrest with
    | nil =>
      rw [List.flatten_nil, List.append_nil, Value.joined, String.intercalate_singleton]
      exact hs
    | cons _ _ =>
      rw [Value.joined, String.intercalate_cons_of_ne_nil (List.cons_ne_nil _ _),
        String.toList_append, String.toList_append]
      have hfront := hs.append (text fun h => absurd h hseparator)
      rw [List.append_nil] at hfront
      exact hfront.append ih

theorem parenthesized {s : String} (h : Carries reason qs s.toList) :
    Carries reason qs ("(" ++ s ++ ")").toList := by
  have hopen : '\'' ∉ "(".toList := by decide
  have hclose : '\'' ∉ ")".toList := by decide
  rw [String.toList_append, String.toList_append]
  have hall := ((text fun h => absurd h hopen).append h).append (text fun h => absurd h hclose)
  rwa [List.nil_append, List.append_nil] at hall

/-- A word has no quote in it. -/
theorem word {s : String} (h : IsWord s.toList) : Carries reason [] s.toList :=
  text fun hquote => absurd (h.2 _ hquote) (by decide)

end Carries

/-! ### Operands -/

/-- Whether an operand by its own kind is quoted. -/
def isQuoted : Value → Bool
  | .null | .bool _ | .int _ | .float _ | .decimal _ => false
  | _ => true

/-- The literals between quotes for an operand: its text, unless its field or its kind
has a literal without quotes for it. -/
def quotedOperand (f : Catalog.Field) (v : Value) : List Quoted :=
  if (temporalLiteral? f v).isNone && isQuoted v then [.text v.display] else []

/-- The literals between quotes for a comparison, in order. -/
def quotedIn (catalog : Catalog) (c : Comparison) : List Quoted :=
  match catalog.get? c.field with
  | none => []
  | some f =>
    match c.comparator with
    | .matches => ((patternOf c.operand).toOption.map Quoted.pattern).toList
    | _ => (operandsIn c.operand).flatMap (quotedOperand f)

/-- A quote outside of the literals of a comparison: in the name of its field, or in a
text that is taken over. -/
def Comparison.HasBareQuote (catalog : Catalog) (c : Comparison) : Prop :=
  '\'' ∈ c.field.toList ∨ ∃ s, c.TakesOver catalog s ∧ '\'' ∈ s.toList

theorem not_hasBareQuote {catalog : Catalog} {c : Comparison} (hfield : '\'' ∉ c.field.toList)
    (hraw : c.hasRawText catalog = false) : ¬ c.HasBareQuote catalog := by
  rintro (hquote | ⟨s, htaken, -⟩)
  · exact hfield hquote
  · have htext : hasText c.operand = true := List.any_eq_true.2 ⟨_, htaken.mem_operands, rfl⟩
    rw [Comparison.hasRawText, htaken.isTemporal, htext] at hraw
    exact Bool.false_ne_true hraw.symm

section
variable {reason : Prop} {catalog : Catalog} {f : Catalog.Field}

theorem carries_quote (s : String) : Carries reason [.text s] (quote s).toList := by
  rw [quote_eq]
  exact .quoted (isBody_flatMap isBody_quoteChar) (unescape_flatMap_quoteChar s.toList)

theorem carries_plainLiteral (v : Value) :
    Carries reason (if isQuoted v then [.text v.display] else []) (plainLiteral v).toList := by
  cases v with
  | null => exact .word (.of_all (by decide) (by decide))
  | bool b => cases b <;> exact .word (.of_all (by decide) (by decide))
  | int n => exact .word (isWord_intText n)
  | float x => exact .word (isWord_doubleText x)
  | decimal d => exact .word (isWord_decimalText d)
  | _ => exact carries_quote _

/-- A text on a field of times is taken over, and every other operand is a word or
between quotes. -/
theorem carries_literal {v : Value} {s : String}
    (hbare : ∀ x, v = .text x → (f.isDateTime || f.isDate) = true → '\'' ∈ x.toList → reason)
    (h : literal f v = .ok s) : Carries reason (quotedOperand f v) s.toList := by
  unfold literal at h
  unfold quotedOperand
  cases ht : temporalLiteral? f v with
  | none =>
    rw [ht, Option.getD_none] at h
    obtain rfl := Except.ok.inj h
    exact carries_plainLiteral v
  | some r =>
    rw [ht, Option.getD_some] at h
    obtain rfl := h
    have htime := isTemporal_of_temporalLiteral ht
    cases v with
    | text x =>
      rw [temporalLiteral?_text htime] at ht
      obtain rfl := Except.ok.inj (Option.some.inj ht)
      exact .text (hbare x rfl htime)
    | _ => exact .word (isWord_temporalLiteral rfl ht)

theorem forall₂_of_literals {vs : List Value} {ss : List String}
    (h : literals f vs = .ok ss) : List.Forall₂ (fun v s => literal f v = .ok s) vs ss :=
  Outcome.forall₂_of_steps (literals f) rfl (fun _ _ => rfl) h

/-- The literals of a list of operands are those of the operands, in order. -/
theorem carries_literals {vs : List Value} {ss : List String}
    (hbare : ∀ x, .text x ∈ vs → (f.isDateTime || f.isDate) = true → '\'' ∈ x.toList → reason)
    (h : literals f vs = .ok ss) :
    Carries reason (vs.flatMap (quotedOperand f)) (Value.joined "," ss).toList := by
  refine Carries.joined (by decide) ?_
  rw [List.forall₂_map_left_iff]
  refine ((List.forall₂_and_left _ _).2 ⟨fun v hv => hv, forall₂_of_literals h⟩).imp ?_
  rintro v s ⟨hv, hs⟩
  exact carries_literal (fun x hx => hbare x (hx ▸ hv)) hs

/-! ### Filters -/

/-- A comparison with a pattern quotes the pattern. -/
theorem quotedIn_of_matches {c : Comparison} {p : String}
    (hf : catalog.get? c.field = some f) (hc : c.comparator = .matches)
    (hp : patternOf c.operand = .ok p) : quotedIn catalog c = [.pattern p] := by
  unfold quotedIn
  rw [hf, hc, hp]
  rfl

/-- A comparison with a list, or with a scalar, quotes what its operands quote. -/
theorem quotedIn_of_ne_matches {c : Comparison}
    (hf : catalog.get? c.field = some f) (hc : c.comparator ≠ .matches) :
    quotedIn catalog c = (operandsIn c.operand).flatMap (quotedOperand f) := by
  unfold quotedIn
  rw [hf]
  dsimp only
  split
  · next h => exact absurd h hc
  · rfl

/-- The text behind the operator has the literals of the comparison in it. -/
theorem carries_renderOperand {c : Comparison} {s : String} (hf : catalog.get? c.field = some f)
    (hbare : c.HasBareQuote catalog → reason) (h : renderOperand f c = .ok s) :
    Carries reason (quotedIn catalog c) s.toList := by
  have htaken : c.comparator ≠ .matches → ∀ x, .text x ∈ operandsIn c.operand →
      (f.isDateTime || f.isDate) = true → '\'' ∈ x.toList → reason :=
    fun hc x hx htime hquote => hbare (.inr ⟨x, ⟨hc, by rw [hf]; exact htime, hx⟩, hquote⟩)
  rcases renderOperand_cases h with
    ⟨hc, p, hp, rfl⟩ | ⟨hc, -, ss, hss, rfl⟩ | ⟨hc, -, hone, hs⟩
  · rw [quotedIn_of_matches hf hc hp, String.toList_append, String.toList_append]
    exact .quoted (isBody_patternOf hp) rfl
  · have hmatches : c.comparator ≠ .matches := by
      intro hmatches
      rw [hmatches] at hc
      exact Bool.false_ne_true hc
    rw [quotedIn_of_ne_matches hf hmatches]
    exact (carries_literals (htaken hmatches) hss).parenthesized
  · rw [quotedIn_of_ne_matches hf hc, hone, List.flatMap_singleton]
    refine carries_literal (fun x hx => htaken hc x ?_) hs
    rw [hone, hx]
    exact List.mem_singleton_self _

theorem carries_renderComparison {c : Comparison} {s : String}
    (hbare : c.HasBareQuote catalog → reason) (h : renderComparison catalog c = .ok s) :
    Carries reason (quotedIn catalog c) s.toList := by
  unfold renderComparison at h
  split at h
  · cases h
  · next f hf =>
    obtain ⟨operand, ho, rfl⟩ := Outcome.map_eq_ok_iff.1 h
    have hoperator : '\'' ∉ c.comparator.queryText.toList := by
      cases c.comparator <;> decide
    rw [String.toList_append]
    exact (Carries.text (Carries.mem_toList_append (fun hname => hbare (.inl hname))
      fun h => absurd h hoperator)).append (carries_renderOperand hf hbare ho)

theorem forall₂_of_renderAll {ts : List Tree} {parts : List String}
    (h : renderAll catalog ts = .ok parts) :
    List.Forall₂ (fun t s => render catalog t = .ok s) ts parts :=
  Outcome.forall₂_of_steps (renderAll catalog) rfl (fun _ _ => rfl) h

end

/-- **The text of a filter has the literals of its comparisons in it**, in order.  The
induction is on the tree; the members of a group are joined, and parentheses around them
change nothing. -/
theorem carries_render {reason : Prop} {catalog : Catalog} {t : Tree} {text : String}
    (hbare : ∀ c ∈ t.leaves, c.HasBareQuote catalog → reason)
    (h : render catalog t = .ok text) :
    Carries reason (t.leaves.flatMap (quotedIn catalog)) text.toList := by
  induction t using Tree.membersInduction generalizing text with
  | leaf c =>
    rw [Tree.leaves, List.flatMap_singleton]
    exact carries_renderComparison (hbare c (List.mem_singleton_self c)) h
  | group connective grouped members ih =>
    obtain ⟨parts, hparts, h⟩ := Outcome.bind_eq_ok_iff.1 h
    obtain rfl := Except.ok.inj h
    rw [Tree.leaves, Tree.leavesAll_eq_flatMap] at hbare ⊢
    have hseparator : '\'' ∉ connective.queryText.toList := by
      cases connective <;> decide
    have hmembers : List.Forall₂ (fun qs s => Carries reason qs s.toList)
        (members.map fun t => t.leaves.flatMap (quotedIn catalog)) parts := by
      rw [List.forall₂_map_left_iff]
      refine ((List.forall₂_and_left _ _).2 ⟨fun t ht => ht, forall₂_of_renderAll hparts⟩).imp ?_
      rintro t s ⟨ht, hs⟩
      exact ih t ht (fun c hc => hbare c (List.mem_flatMap.2 ⟨t, ht, hc⟩)) hs
    have hbody := Carries.joined hseparator hmembers
    rw [List.flatMap_assoc, List.flatMap_def]
    unfold joinConditions
    split
    · exact hbody.parenthesized
    · exact hbody

end Filter
end RecordBridge
