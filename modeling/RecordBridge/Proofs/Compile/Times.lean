/-
# One text for a time

A time in milliseconds leaves the library in two places: as a value in the body
of a write and as an operand in the condition of a query.  It comes back in a
record.  For a field of points in time the unit of the text is the second, for a
field of days it is the day.

The two places write the same text, and it is read as the last whole unit not
after the time (`times_agree`).  So a record that holds what was written, or
what was asked for, is never ahead of the milliseconds that stood in the
directive, and equal to them if they are whole.  The years are those that are
written with four digits.
-/

import RecordBridge.Filter.Literal
import RecordBridge.Proofs.Compile.Writes
import RecordBridge.Proofs.Value.Times

namespace RecordBridge
namespace Compile

open Time (HasFullYear InCalendar)

/-- What becomes of a time in a field: it is written and asked for by one text, which
is read as the last multiple of the unit that is not after it. -/
structure Agrees (f : Catalog.Field) (n : Int) (text : String) (unit : Int) : Prop where
  /-- The value of the field is sent as the text. -/
  sent : remoteValue (some f) (.int n) = .ok (.text text)
  /-- In a body that is sent, whatever else it holds. -/
  inBody : ∀ {catalog : Catalog} {name : String} {values body : Object},
    catalog.get? name = some f → remoteValues catalog values = .ok body →
    (name, .int n) ∈ values → (name, .text text) ∈ body
  /-- The operand of the field is the text. -/
  asked : Filter.literal f (.int n) = .ok text
  /-- The text is read as the last multiple of the unit. -/
  read : (Value.text text).epochMillis = .ok (some (n - n % unit))
  /-- In a record too. -/
  stored : ∀ name, Record.epochField name (.text text) = .ok (.int (n - n % unit))
  /-- A multiple of the unit is read as it was. -/
  exact : unit ∣ n → (Value.text text).epochMillis = .ok (some n)
  /-- No time moves forward, or back by a whole unit. -/
  notAhead : ∀ back, (Value.text text).epochMillis = .ok (some back) → back ≤ n ∧ n < back + unit

variable {f : Catalog.Field} {n unit : Int} {text : String}

/-- A body holds a value in the form in which its field is sent. -/
theorem mem_of_remoteValues {catalog : Catalog} {name : String} {values body : Object}
    {v w : Value} (hfield : catalog.get? name = some f) (hsent : remoteValue (some f) v = .ok w)
    (h : remoteValues catalog values = .ok body) (hmem : (name, v) ∈ values) :
    (name, w) ∈ body := by
  have hall := forall₂_of_remoteValues h
  clear h
  induction hall with
  | nil => cases hmem
  | @cons e e' _ _ he _ ih =>
    rw [List.mem_cons] at hmem ⊢
    rcases hmem with rfl | hmem
    · obtain ⟨hkey, hvalue⟩ := he
      rw [hfield, hsent] at hvalue
      exact Or.inl (Prod.ext hkey.symm (Except.ok.inj hvalue))
    · exact Or.inr (ih hmem)

/-- The text of a field and what it is read as make the rest. -/
theorem Agrees.of_read (hunit : 0 < unit) (hsent : remoteValue (some f) (.int n) = .ok (.text text))
    (hasked : Filter.literal f (.int n) = .ok text)
    (hread : (Value.text text).epochMillis = .ok (some (n - n % unit))) :
    Agrees f n text unit where
  sent := hsent
  inBody hfield hbody hmem := mem_of_remoteValues hfield hsent hbody hmem
  asked := hasked
  read := hread
  stored name := by
    unfold Record.epochField
    rw [hread]
    rfl
  exact hdvd := by rw [hread, Int.emod_eq_zero_of_dvd hdvd, Int.sub_zero]
  notAhead back hback := by
    rw [hread] at hback
    obtain rfl := Option.some.inj (Except.ok.inj hback)
    have hlow := Int.emod_nonneg n hunit.ne'
    have hhigh := Int.emod_lt_of_pos n hunit
    omega

/-- A field of days is none of points in time. -/
theorem isDateTime_of_isDate (hf : f.isDate = true) : f.isDateTime = false := by
  have htype : f.type = "date" := of_decide_eq_true hf
  rw [Catalog.Field.isDateTime, htype]
  decide

/-- **Writes, queries and records agree on times.**  In a field of points in time,
milliseconds are written and asked for by the literal of their second, in a field of
days by their day, with which that literal begins.  The texts are read as the second
and the day. -/
theorem times_agree (h : HasFullYear n) :
    (Value.int n).literalDateTime? = some (.ok (Time.secondLiteral (n / 1000))) ∧
    (Value.int n).literalDate? = some (.ok (Time.dateText (Time.Date.ofDays (n / 86400000)))) ∧
    (Time.dateText (Time.Date.ofDays (n / 86400000))).toList
      = (Time.secondLiteral (n / 1000)).toList.take 10 ∧
    (∀ f : Catalog.Field, f.isDateTime = true →
      Agrees f n (Time.secondLiteral (n / 1000)) 1000) ∧
    (∀ f : Catalog.Field, f.isDate = true →
      Agrees f n (Time.dateText (Time.Date.ofDays (n / 86400000))) 86400000) := by
  have hsecond := Value.literalDateTime?_int h.inCalendar
  have hday := Value.literalDate?_int h
  refine ⟨hsecond, hday, (Value.take_secondLiteral h).symm, fun f hf => ?_, fun f hf => ?_⟩
  · refine .of_read (by decide) ?_ ?_ (Value.epochMillis_secondLiteral h)
    · simp only [remoteValue, Value.isNumber, hf, Bool.and_self, if_true, hsecond]
      rfl
    · simp only [Filter.literal, Filter.temporalLiteral?, hf, if_true, hsecond]
      rfl
  · have htime := isDateTime_of_isDate hf
    refine .of_read (by decide) ?_ ?_ (Value.epochMillis_dateText h.inCalendar)
    · simp only [remoteValue, Value.isNumber, hf, htime, Bool.and_self, Bool.and_false,
        Bool.false_eq_true, if_true, if_false, hday]
      rfl
    · simp only [Filter.literal, Filter.temporalLiteral?, hf, htime, Bool.false_eq_true, if_true,
        if_false, hday]
      rfl

/-- `times_agree` for the last millisecond of February 1900, a year that is no leap
year. -/
theorem times_agree_endOfFebruary :
    HasFullYear (-2203891200001) ∧
    (Value.int (-2203891200001)).literalDateTime? = some (.ok "1900-02-28T23:59:59Z") ∧
    (Value.int (-2203891200001)).literalDate? = some (.ok "1900-02-28") ∧
    (Value.text "1900-02-28T23:59:59Z").epochMillis = .ok (some (-2203891201000)) ∧
    (Value.text "1900-02-28").epochMillis = .ok (some (-2203977600000)) := by
  have hyear : HasFullYear (-2203891200001) := by decide
  have htext : Time.secondLiteral (-2203891200001 / 1000) = "1900-02-28T23:59:59Z" := by
    decide +kernel
  have hdate : Time.dateText (Time.Date.ofDays (-2203891200001 / 86400000)) = "1900-02-28" := by
    decide +kernel
  obtain ⟨hsecond, hday, -, hpoints, hdays⟩ := times_agree hyear
  rw [htext] at hsecond hpoints
  rw [hdate] at hday hdays
  have hread := (hpoints { (default : Catalog.Field) with type := "datetime" } rfl).read
  have hmidnight := (hdays { (default : Catalog.Field) with type := "date" } rfl).read
  exact ⟨hyear, hsecond, hday, hread, hmidnight⟩

end Compile
end RecordBridge
