/-
# Percent encoding read back

The value of a query is written with characters that stand for themselves and
with percent triples (`IsQueryValue`).  `bytes?` reads such a text as the bytes
it stands for and refuses every other text, and `decode?` takes these bytes for
UTF-8.  What is encoded as the value of a query reads back as what it was
(`decode?_encodeQuery`), and so does what is encoded as one segment of a path
(`decode?_encodeSegment`), which has nothing in it that parts an address
(`isSegment_encodeSegment`).
-/

import RecordBridge.Text.Percent

namespace RecordBridge
namespace Text
namespace Percent

/-- Whether a character stands for itself in the value of a query. -/
def isPlain (c : Char) : Bool := c.isAlphanum || "-_.!~*'()".toList.contains c

/-- The value of a hexadecimal digit in upper case. -/
def hexValue? (c : Char) : Option Nat :=
  if '0' ≤ c ∧ c ≤ '9' then some (c.toNat - '0'.toNat)
  else if 'A' ≤ c ∧ c ≤ 'F' then some (c.toNat - 'A'.toNat + 10)
  else none

/-- A text of characters that stand for themselves and of percent triples. -/
inductive IsQueryValue : List Char → Prop
  | nil : IsQueryValue []
  | plain {c : Char} {rest : List Char} (hc : isPlain c) (h : IsQueryValue rest) :
    IsQueryValue (c :: rest)
  | triple {high low : Char} {rest : List Char} (hhigh : (hexValue? high).isSome)
    (hlow : (hexValue? low).isSome) (h : IsQueryValue rest) :
    IsQueryValue ('%' :: high :: low :: rest)

/-- The bytes that a text of plain characters and percent triples stands for. -/
def bytes? : List Char → Option (List UInt8)
  | [] => some []
  | '%' :: high :: low :: rest => do
    let h ← hexValue? high
    let l ← hexValue? low
    let bs ← bytes? rest
    some (UInt8.ofNat (16 * h + l) :: bs)
  | c :: rest =>
    if isPlain c then (bytes? rest).map (UInt8.ofNat c.toNat :: ·) else none

/-- The text that the value of a query stands for. -/
def decode? (s : String) : Option String :=
  (bytes? s.toList).bind fun bs => String.fromUTF8? bs.toByteArray

/-- Only the value of a query is read. -/
theorem isQueryValue_of_bytes? {cs : List Char} {bs : List UInt8} (h : bytes? cs = some bs) :
    IsQueryValue cs := by
  fun_induction bytes? cs generalizing bs with
  | case1 => exact .nil
  | case2 high low rest ih =>
    obtain ⟨x, hx, h⟩ := Option.bind_eq_some_iff.1 h
    obtain ⟨y, hy, h⟩ := Option.bind_eq_some_iff.1 h
    obtain ⟨bs, hbs, -⟩ := Option.bind_eq_some_iff.1 h
    exact .triple (Option.isSome_of_eq_some hx) (Option.isSome_of_eq_some hy) (ih hbs)
  | case3 c rest _ hc ih =>
    obtain ⟨bs, hbs, -⟩ := Option.map_eq_some_iff.1 h
    exact .plain hc (ih hbs)
  | case4 => exact nomatch h

/-! ### One character -/

theorem hexValue?_hexDigit {n : Nat} (h : n < 16) : hexValue? (hexDigit n) = some n := by
  have hall : ∀ m : Fin 16, hexValue? (hexDigit m) = some m.1 := by decide
  exact hall ⟨n, h⟩

theorem bytes?_triple (b : UInt8) (rest : List Char) :
    bytes? (triple b ++ rest) = (bytes? rest).map (b :: ·) := by
  have hb : b.toNat < 256 := b.toNat_lt
  have hbyte : UInt8.ofNat (16 * (b.toNat / 16) + b.toNat % 16) = b := by
    rw [Nat.div_add_mod, UInt8.ofNat_toNat]
  show bytes? ('%' :: hexDigit (b.toNat / 16) :: hexDigit (b.toNat % 16) :: rest) = _
  rw [bytes?, hexValue?_hexDigit (by omega), hexValue?_hexDigit (by omega)]
  cases hrest : bytes? rest with
  | none => rfl
  | some bs => exact congrArg (fun x => some (x :: bs)) hbyte

theorem bytes?_triples (bs : List UInt8) (rest : List Char) :
    bytes? (bs.flatMap triple ++ rest) = (bytes? rest).map (bs ++ ·) := by
  induction bs with
  | nil => simp
  | cons b bs ih =>
    rw [List.flatMap_cons, List.append_assoc, bytes?_triple, ih, Option.map_map]
    rfl

theorem bytes?_plain {c : Char} (hc : isPlain c) (rest : List Char) :
    bytes? (c :: rest) = (bytes? rest).map (UInt8.ofNat c.toNat :: ·) := by
  have hne : c ≠ '%' := by
    rintro rfl
    exact absurd hc (by decide)
  rw [bytes?.eq_3 c rest fun _ _ _ h _ => hne h, if_pos hc]

/-- What is taken over stands for itself. -/
theorem isPlain_of_kept {allowed : List Char} (hallowed : allowed.all isPlain = true) {c : Char}
    (h : (isUnreserved c || allowed.contains c) = true) : isPlain c := by
  obtain h | h := Bool.or_eq_true _ _ ▸ h
  · simp only [isUnreserved, Bool.or_eq_true, decide_eq_true_eq] at h
    rw [isPlain, Bool.or_eq_true]
    obtain (((h | rfl) | rfl) | rfl) | rfl := h
    · exact .inl h
    · exact .inr (by decide)
    · exact .inr (by decide)
    · exact .inr (by decide)
    · exact .inr (by decide)
  · exact List.all_eq_true.1 hallowed c (List.contains_iff_mem.1 h)

theorem toNat_lt_of_isPlain {c : Char} (hc : isPlain c) : c.toNat < 128 := by
  obtain h | h := Bool.or_eq_true _ _ ▸ hc
  · delta Char.isAlphanum Char.isAlpha Char.isUpper Char.isLower Char.isDigit at h
    simp only [Bool.or_eq_true, Bool.and_eq_true, decide_eq_true_eq, ge_iff_le,
      UInt32.le_iff_toNat_le, Char.toNat_val, Char.reduceToNat] at h
    omega
  · have hall : "-_.!~*'()".toList.all (·.toNat < 128) = true := rfl
    exact of_decide_eq_true (List.all_eq_true.1 hall c (List.contains_iff_mem.1 h))

theorem utf8EncodeChar_of_isPlain {c : Char} (hc : isPlain c) :
    String.utf8EncodeChar c = [UInt8.ofNat c.toNat] := by
  have hlt : c.val ≤ 127 := Nat.le_of_lt_succ (toNat_lt_of_isPlain hc)
  exact String.utf8EncodeChar_eq_singleton (Char.utf8Size_eq_one_iff.2 hlt)

section Encode

variable {allowed : List Char} (hallowed : allowed.all isPlain = true)
include hallowed

theorem bytes?_encodeChar (c : Char) (rest : List Char) :
    bytes? (encodeChar allowed c ++ rest) = (bytes? rest).map (String.utf8EncodeChar c ++ ·) := by
  unfold encodeChar
  split
  · next h =>
    have hc := isPlain_of_kept hallowed h
    rw [List.singleton_append, bytes?_plain hc, utf8EncodeChar_of_isPlain hc]
    rfl
  · exact bytes?_triples _ _

/-! ### A text -/

theorem bytes?_encodeChars (cs : List Char) :
    bytes? (cs.flatMap (encodeChar allowed)) = some (cs.flatMap String.utf8EncodeChar) := by
  induction cs with
  | nil => rfl
  | cons c cs ih => rw [List.flatMap_cons, List.flatMap_cons, bytes?_encodeChar hallowed, ih]; rfl

theorem bytes?_encode (s : String) :
    bytes? (encode allowed s).toList = some (s.toList.flatMap String.utf8EncodeChar) := by
  rw [encode, String.toList_ofList, bytes?_encodeChars hallowed]

/-- **An encoded text reads back as itself.** -/
theorem decode?_encode (s : String) : decode? (encode allowed s) = some s := by
  have hbytes : (s.toList.flatMap String.utf8EncodeChar).toByteArray = s.toByteArray :=
    String.toByteArray_ofList.symm.trans (congrArg String.toByteArray String.ofList_toList)
  rw [decode?, bytes?_encode hallowed, Option.bind_some, hbytes, String.fromUTF8?,
    dif_pos s.isValidUTF8]
  rfl

end Encode

theorem isQueryValue_encodeQuery (s : String) : IsQueryValue (encodeQuery s).toList :=
  isQueryValue_of_bytes? (bytes?_encode (by decide) s)

theorem decode?_encodeQuery (s : String) : decode? (encodeQuery s) = some s :=
  decode?_encode (by decide) s

/-! ### A segment -/

theorem decode?_encodeSegment (s : String) : decode? (encodeSegment s) = some s :=
  decode?_encode (by decide) s

/-- Texts that differ have segments that differ. -/
theorem encodeSegment_injective {s s' : String} (h : encodeSegment s = encodeSegment s') :
    s = s' := by
  have hdecoded := congrArg decode? h
  rw [decode?_encodeSegment, decode?_encodeSegment] at hdecoded
  exact Option.some.inj hdecoded

/-- What is written as it is stands for itself only. -/
theorem encodeSegment_eq_iff {s s' : String} (h : encodeSegment s' = s') :
    encodeSegment s = s' ↔ s = s' := by
  refine ⟨fun hs => encodeSegment_injective (hs.trans h.symm), ?_⟩
  rintro rfl
  exact h

/-- Whether a text is one segment of a path: it is not empty and has only ASCII characters
in it, none of which parts an address. -/
def IsSegment (segment : String) : Prop :=
  segment ≠ "" ∧ ∀ c ∈ segment.toList, c.toNat < 128 ∧ c ∉ ['/', '?', '#', ' ']

theorem isUnreserved_hexDigit {n : Nat} (h : n < 16) : isUnreserved (hexDigit n) = true := by
  have hall : ∀ m : Fin 16, isUnreserved (hexDigit m) = true := by decide
  exact hall ⟨n, h⟩

theorem mem_encodeChar {c d : Char} (h : d ∈ encodeChar [] c) :
    isUnreserved d = true ∨ d = '%' := by
  unfold encodeChar at h
  split at h
  · next hc =>
    rw [List.contains_nil, Bool.or_false] at hc
    exact .inl (List.mem_singleton.1 h ▸ hc)
  · obtain ⟨b, -, h⟩ := List.mem_flatMap.1 h
    have hb : b.toNat < 256 := b.toNat_lt
    simp only [triple, List.mem_cons, List.not_mem_nil, or_false] at h
    obtain rfl | rfl | rfl := h
    · exact .inr rfl
    · exact .inl (isUnreserved_hexDigit (by omega))
    · exact .inl (isUnreserved_hexDigit (by omega))

/-- **What is encoded as a segment is one.** -/
theorem isSegment_encodeSegment {s : String} (h : s ≠ "") : IsSegment (encodeSegment s) := by
  have hempty : encodeSegment "" = "" := rfl
  refine ⟨fun hnone => h (encodeSegment_injective (hnone.trans hempty.symm)), fun c hc => ?_⟩
  rw [encodeSegment, encode, String.toList_ofList] at hc
  obtain ⟨d, -, hc⟩ := List.mem_flatMap.1 hc
  obtain hkept | rfl := mem_encodeChar hc
  · have hplain : isPlain c := @isPlain_of_kept [] rfl c (by rw [hkept]; rfl)
    refine ⟨toNat_lt_of_isPlain hplain, fun hmark => ?_⟩
    have hall : ['/', '?', '#', ' '].all (fun d => !isUnreserved d) = true := by decide
    have hnot := List.all_eq_true.1 hall c hmark
    rw [hkept] at hnot
    exact absurd hnot (by decide)
  · decide

end Percent
end Text
end RecordBridge
