/-
# What is reported of an answer

The body of an answer describes an error if it is a list that begins with an
object with a code (`Describes`).  The report takes over this code, and it is
generic where there is none (`tellsCode_of_ofAnswer`).

What stands under `fields` is taken apart unseen.  A list is taken over, and
nothing at all counts as an empty one.  But a text falls apart into characters
and an object into keys, and any other value that counts has no members: then
the report is a fault itself, and the status, the code and the message of the
answer are lost with it (`ofAnswer_reports`).
-/

import RecordBridge.Proofs.Bridge.Course
import RecordBridge.Session.Basic

namespace RecordBridge

/-- Whether a value is a list of some kind. -/
inductive Value.IsList : Value → Prop
  | list (vs : List Value) : IsList (.list vs)
  | tuple (vs : List Value) : IsList (.tuple vs)
  | set (vs : List Value) : IsList (.set vs)

/-- Whether a value can be taken apart: lists can, texts and objects. -/
inductive Value.HasMembers : Value → Prop
  | list {v : Value} (h : v.IsList) : HasMembers v
  | text (s : String) : HasMembers (.text s)
  | object (es : Object) : HasMembers (.object es)

namespace Value

/-- The members of a list; anything else has none. -/
def listed : Value → List Value
  | .list vs | .tuple vs | .set vs => vs
  | _ => []

variable {v : Value} {vs : List Value}

/-- A value cannot be taken apart exactly if it has no members. -/
theorem exists_elements_error_iff : (∃ fault, v.elements = .error fault) ↔ ¬ v.HasMembers := by
  cases v with
  | list vs => exact iff_of_false (fun ⟨_, h⟩ => nomatch h) fun h => h (.list (.list vs))
  | tuple vs => exact iff_of_false (fun ⟨_, h⟩ => nomatch h) fun h => h (.list (.tuple vs))
  | set vs => exact iff_of_false (fun ⟨_, h⟩ => nomatch h) fun h => h (.list (.set vs))
  | text s => exact iff_of_false (fun ⟨_, h⟩ => nomatch h) fun h => h (.text s)
  | object es => exact iff_of_false (fun ⟨_, h⟩ => nomatch h) fun h => h (.object es)
  | _ => exact iff_of_true ⟨_, rfl⟩ fun | .list h => nomatch h

theorem listed_of_not_present (h : v.isPresent = false) : v.listed = [] := by
  cases v with
  | list vs | tuple vs | set vs => simpa [isPresent, listed] using h
  | _ => rfl

/-- Taken apart, what does not count has no members. -/
theorem elements_of_not_present (h : v.isPresent = false) (hvs : v.elements = .ok vs) :
    vs = [] := by
  cases v with
  | list xs | tuple xs | set xs =>
    obtain rfl := Except.ok.inj hvs
    simpa [isPresent] using h
  | text s =>
    obtain rfl := Except.ok.inj hvs
    simpa [isPresent] using h
  | object es =>
    obtain rfl := Except.ok.inj hvs
    simpa [isPresent] using h
  | _ => exact nomatch hvs

/-- What counts comes apart into what it lists exactly if it is a list. -/
theorem elements_eq_listed_iff (h : v.isPresent = true) : v.elements = .ok v.listed ↔ v.IsList := by
  constructor
  · intro hvs
    cases v with
    | list vs => exact .list vs
    | tuple vs => exact .tuple vs
    | set vs => exact .set vs
    | text s =>
      have hempty : s = "" := by simpa using List.map_eq_nil_iff.1 (Except.ok.inj hvs)
      subst hempty
      exact nomatch h
    | object es =>
      obtain rfl := List.map_eq_nil_iff.1 (Except.ok.inj hvs)
      exact nomatch h
    | _ => exact nomatch hvs
  · intro hlist
    cases hlist <;> rfl

end Value

namespace UnexpectedStatus

/-! ### What a body says -/

/-- The code of an entry: what counts under `code`, or else under `errorCode`. -/
inductive HasCode (entry : Object) (c : Value) : Prop
  | code (h : entry.get? "code" = some c) (hc : c.isPresent = true)
  | errorCode (hno : ∀ other, entry.get? "code" = some other → other.isPresent = false)
    (h : entry.get? "errorCode" = some c) (hc : c.isPresent = true)

/-- Whether a body describes an error, in an entry with a code. -/
def Describes (body : Value) (entry : Object) (c : Value) : Prop :=
  (∃ rest, body = .list (.object entry :: rest)) ∧ HasCode entry c

/-- What stands for the fields of an entry; null if nothing does. -/
def fieldsValue (entry : Object) : Value := .ofOption (entry.get? "fields")

variable {method resource : String} {status : Int} {body c : Value} {expected : Option Int}
  {entry : Object} {e : UnexpectedStatus}

theorem entry?_eq_some_iff : entry? body = some entry ↔
    ∃ rest, body = .list (.object entry :: rest) := by
  constructor
  · intro h
    unfold entry? at h
    split at h
    · obtain rfl := Option.some.inj h
      exact ⟨_, rfl⟩
    · exact nomatch h
  · rintro ⟨rest, rfl⟩
    rfl

/-- What counts under a key is there. -/
theorem isPresent_ofOption_iff {found : Option Value} :
    (Value.ofOption found).isPresent = true ↔ ∃ v, found = some v ∧ v.isPresent = true := by
  cases found with
  | none => exact iff_of_false nofun nofun
  | some v => exact ⟨fun h => ⟨v, rfl, h⟩, fun ⟨_, h, hv⟩ => Option.some.inj h ▸ hv⟩

theorem entryCode?_eq_some_iff : entryCode? entry = some c ↔ HasCode entry c := by
  unfold entryCode?
  dsimp only
  by_cases hcode : (Value.ofOption (entry.get? "code")).isPresent = true
  · obtain ⟨v, hv, hcounts⟩ := isPresent_ofOption_iff.1 hcode
    rw [if_pos hcode, if_pos hcode, hv, Option.some.injEq]
    constructor
    · rintro rfl
      exact .code hv hcounts
    · intro h
      cases h with
      | code h _ => exact Option.some.inj (hv.symm.trans h)
      | errorCode hno _ _ => exact nomatch hcounts.symm.trans (hno v hv)
  · have hno : ∀ v, entry.get? "code" = some v → v.isPresent = false := fun v hv =>
      eq_false_of_ne_true fun hcounts => hcode (isPresent_ofOption_iff.2 ⟨v, hv, hcounts⟩)
    rw [if_neg hcode]
    constructor
    · intro h
      split at h
      · next herror =>
        obtain ⟨v, hv, hcounts⟩ := isPresent_ofOption_iff.1 herror
        rw [hv] at h
        obtain rfl := Option.some.inj h
        exact .errorCode hno hv hcounts
      · exact nomatch h
    · intro h
      cases h with
      | code h hcounts => exact nomatch hcounts.symm.trans (hno c h)
      | errorCode _ h hcounts => rw [h]; exact if_pos hcounts

theorem describes_iff : Describes body entry c ↔
    entry? body = some entry ∧ entryCode? entry = some c := by
  rw [entry?_eq_some_iff, entryCode?_eq_some_iff, Describes]

theorem Describes.unique {entry' : Object} {c' : Value} (h : Describes body entry c)
    (h' : Describes body entry' c') : entry = entry' ∧ c = c' := by
  obtain ⟨hentry, hcode⟩ := describes_iff.1 h
  obtain ⟨hentry', hcode'⟩ := describes_iff.1 h'
  obtain rfl := Option.some.inj (hentry.symm.trans hentry')
  exact ⟨rfl, Option.some.inj (hcode.symm.trans hcode')⟩

/-! ### What is reported -/

/-- The report of what a body describes. -/
def described (method resource : String) (status : Int) (expected : Option Int) (entry : Object)
    (c : Value) (fields : List Value) : UnexpectedStatus :=
  { method, resource, status, expected, remoteCode := some c.display,
    remoteMessage := .ofOption (entry.get? "message"), fields }

theorem ofAnswer_of_describes (h : Describes body entry c) :
    ofAnswer method resource status body expected =
      (entryFields entry).map (described method resource status expected entry c) := by
  obtain ⟨hentry, hcode⟩ := describes_iff.1 h
  simp only [ofAnswer, hentry, hcode]
  cases entryFields entry <;> rfl

theorem ofAnswer_of_not_describes (h : ∀ entry c, ¬ Describes body entry c) :
    ofAnswer method resource status body expected
      = .ok { method, resource, status, expected } := by
  unfold ofAnswer
  split
  · rfl
  · next entry hentry =>
    split
    · rfl
    · next c hcode => exact absurd (describes_iff.2 ⟨hentry, hcode⟩) (h entry c)

/-- **A report is what the body describes with its fields, or generic.** -/
theorem ofAnswer_eq_ok_iff : ofAnswer method resource status body expected = .ok e ↔
    (∃ entry c fields, Describes body entry c ∧ entryFields entry = .ok fields ∧
      e = described method resource status expected entry c fields) ∨
    (∀ entry c, ¬ Describes body entry c) ∧ e = { method, resource, status, expected } := by
  by_cases hdescribed : ∃ entry c, Describes body entry c
  · obtain ⟨entry, c, hc⟩ := hdescribed
    rw [ofAnswer_of_describes hc, Outcome.map_eq_ok_iff]
    constructor
    · rintro ⟨fields, hfields, rfl⟩
      exact .inl ⟨entry, c, fields, hc, hfields, rfl⟩
    · rintro (⟨entry', c', fields, hc', hfields, rfl⟩ | ⟨hno, -⟩)
      · obtain ⟨rfl, rfl⟩ := hc.unique hc'
        exact ⟨fields, hfields, rfl⟩
      · exact absurd hc (hno entry c)
  · simp only [not_exists] at hdescribed
    rw [ofAnswer_of_not_describes hdescribed]
    constructor
    · intro h
      exact .inr ⟨hdescribed, (Except.ok.inj h).symm⟩
    · rintro (⟨entry, c, _, hc, -⟩ | ⟨-, rfl⟩)
      · exact absurd hc (hdescribed entry c)
      · rfl

/-- There is no report exactly if the fields of a description are lost. -/
theorem ofAnswer_eq_error_iff {fault : ShapeFault} :
    ofAnswer method resource status body expected = .error fault ↔
      ∃ entry c, Describes body entry c ∧ entryFields entry = .error fault := by
  by_cases hdescribed : ∃ entry c, Describes body entry c
  · obtain ⟨entry, c, hc⟩ := hdescribed
    rw [ofAnswer_of_describes hc, Outcome.map_eq_error_iff]
    constructor
    · intro hfields
      exact ⟨entry, c, hc, hfields⟩
    · rintro ⟨entry', c', hc', hfields⟩
      obtain ⟨rfl, rfl⟩ := hc.unique hc'
      exact hfields
  · simp only [not_exists] at hdescribed
    rw [ofAnswer_of_not_describes hdescribed]
    exact iff_of_false nofun fun ⟨entry, c, hc, _⟩ => hdescribed entry c hc

/-! ### Fields -/

theorem entryFields_eq : entryFields entry =
    if (fieldsValue entry).isPresent then (fieldsValue entry).elements else .ok [] := rfl

/-- Fields are lost exactly if what counts for them cannot be taken apart. -/
theorem exists_entryFields_error_iff : (∃ fault, entryFields entry = .error fault) ↔
    (fieldsValue entry).isPresent = true ∧ ¬ (fieldsValue entry).HasMembers := by
  rw [← Value.exists_elements_error_iff, entryFields_eq]
  cases (fieldsValue entry).isPresent with
  | true => simp
  | false => simp

/-- Fields are read as they are listed exactly if nothing else than a list counts for
them. -/
theorem entryFields_eq_listed_iff : entryFields entry = .ok (fieldsValue entry).listed ↔
    ((fieldsValue entry).isPresent = true → (fieldsValue entry).IsList) := by
  rw [entryFields_eq]
  cases hcounts : (fieldsValue entry).isPresent with
  | true =>
    rw [if_pos rfl, Value.elements_eq_listed_iff hcounts]
    exact ⟨fun h _ => h, fun h => h rfl⟩
  | false =>
    rw [Value.listed_of_not_present hcounts]
    exact iff_of_true rfl nofun

/-- Fields are read as what stands for them comes apart. -/
theorem entryFields_of_elements {vs : List Value} (h : (fieldsValue entry).elements = .ok vs) :
    entryFields entry = .ok vs := by
  rw [entryFields_eq]
  split
  · exact h
  · next hno => rw [Value.elements_of_not_present (eq_false_of_ne_true hno) h]

/-! ### How a report ends -/

/-- There is no report exactly if what counts for the fields has no members. -/
theorem exists_ofAnswer_error_iff :
    (∃ fault, ofAnswer method resource status body expected = .error fault) ↔
      ∃ entry c, Describes body entry c ∧ (fieldsValue entry).isPresent = true ∧
        ¬ (fieldsValue entry).HasMembers := by
  simp only [ofAnswer_eq_error_iff, ← exists_entryFields_error_iff]
  constructor
  · rintro ⟨fault, entry, c, hc, hfields⟩
    exact ⟨entry, c, hc, fault, hfields⟩
  · rintro ⟨entry, c, hc, fault, hfields⟩
    exact ⟨fault, entry, c, hc, hfields⟩

/-- Whether a report can be made of a body: what counts for its fields can be taken apart,
where it describes an error. -/
def IsReportable (body : Value) : Prop :=
  ∀ entry c, Describes body entry c → (fieldsValue entry).isPresent = true →
    (fieldsValue entry).HasMembers

theorem exists_ofAnswer_iff :
    (∃ e, ofAnswer method resource status body expected = .ok e) ↔ IsReportable body := by
  cases h : ofAnswer method resource status body expected with
  | ok e =>
    refine iff_of_true ⟨e, rfl⟩ fun entry c hc hcounts => ?_
    by_contra hno
    obtain ⟨fault, hfault⟩ := exists_ofAnswer_error_iff.2 ⟨entry, c, hc, hcounts, hno⟩
    exact nomatch h.symm.trans hfault
  | error fault =>
    refine iff_of_false (fun ⟨_, h⟩ => nomatch h) fun hall => ?_
    obtain ⟨entry, c, hc, hcounts, hno⟩ := exists_ofAnswer_error_iff.1 ⟨fault, h⟩
    exact hno (hall entry c hc hcounts)

/-- Whether an error has the code that a body describes, and the generic one without a
description. -/
structure TellsCode (body : Value) (e : UnexpectedStatus) : Prop where
  described : ∀ text, e.code = "integration.Salesforce." ++ text ↔
    ∃ entry c, Describes body entry c ∧ text = c.display
  generic : e.code = "integration.unexpectedStatus" ↔ ∀ entry c, ¬ Describes body entry c

/-- Whether an error has the fields that a body lists where it describes an error, and
none otherwise. -/
structure TellsFields (body : Value) (e : UnexpectedStatus) : Prop where
  listed : ∀ entry c, Describes body entry c → e.fields = (fieldsValue entry).listed
  none : (∀ entry c, ¬ Describes body entry c) → e.fields = []

theorem code_ne_generic (text : String) :
    "integration.Salesforce." ++ text ≠ "integration.unexpectedStatus" := by
  intro h
  have hstart := congrArg (List.take 23) (congrArg String.toList h)
  rw [String.toList_append, List.take_left' (by decide)] at hstart
  exact absurd hstart (by decide)

theorem code_inj {text text' : String} :
    "integration.Salesforce." ++ text = "integration.Salesforce." ++ text' ↔ text = text' := by
  rw [← String.toList_inj, String.toList_append, String.toList_append,
    List.append_cancel_left_eq, String.toList_inj]

/-- Whatever becomes of the fields, a report has the right code. -/
theorem tellsCode_of_ofAnswer (h : ofAnswer method resource status body expected = .ok e) :
    TellsCode body e := by
  rcases ofAnswer_eq_ok_iff.1 h with ⟨entry, c, fields, hc, -, rfl⟩ | ⟨hno, rfl⟩
  · refine ⟨fun text => code_inj.trans ⟨?_, ?_⟩, iff_of_false (code_ne_generic _) ?_⟩
    · rintro rfl
      exact ⟨entry, c, hc, rfl⟩
    · rintro ⟨entry', c', hc', rfl⟩
      rw [(hc.unique hc').2]
    · intro hno
      exact hno entry c hc
  · refine ⟨fun text => iff_of_false (code_ne_generic text).symm ?_, iff_of_true rfl hno⟩
    rintro ⟨entry, c, hc, -⟩
    exact hno entry c hc

/-- A report has the right fields exactly if they are read as they are listed. -/
theorem tellsFields_iff (h : ofAnswer method resource status body expected = .ok e) :
    TellsFields body e ↔ ∀ entry c, Describes body entry c →
      entryFields entry = .ok (fieldsValue entry).listed := by
  rcases ofAnswer_eq_ok_iff.1 h with ⟨entry, c, fields, hc, hfields, rfl⟩ | ⟨hno, rfl⟩
  · constructor
    · intro htells entry' c' hc'
      obtain ⟨rfl, rfl⟩ := hc.unique hc'
      exact hfields.trans (congrArg _ (htells.listed entry c hc))
    · intro hlisted
      refine ⟨fun entry' c' hc' => ?_, fun hno => absurd hc (hno entry c)⟩
      obtain ⟨rfl, rfl⟩ := hc.unique hc'
      exact Except.ok.inj (hfields.symm.trans (hlisted entry c hc))
  · exact iff_of_true ⟨fun entry c hc => absurd hc (hno entry c), fun _ => rfl⟩
      fun entry c hc => absurd hc (hno entry c)

/-- What is reported of an answer with a body. -/
structure Reports (method resource : String) (status : Int) (body : Value)
    (expected : Option Int) : Prop where
  /-- Code and fields are reported as the body describes them exactly if nothing else than
  a list counts for the fields. -/
  tells_iff : (∃ e, ofAnswer method resource status body expected = .ok e ∧ TellsCode body e ∧
      TellsFields body e) ↔
    ∀ entry c, Describes body entry c → (fieldsValue entry).isPresent = true →
      (fieldsValue entry).IsList
  /-- There is no report exactly if what counts for the fields has no members. -/
  fails_iff : (∃ fault, ofAnswer method resource status body expected = .error fault) ↔
    ∃ entry c, Describes body entry c ∧ (fieldsValue entry).isPresent = true ∧
      ¬ (fieldsValue entry).HasMembers
  /-- In any report the code is as described. -/
  code : ∀ e, ofAnswer method resource status body expected = .ok e → TellsCode body e
  /-- In any report the fields are what comes of what stands for them: of a text its
  characters, of an object its keys. -/
  fields : ∀ e entry c vs, ofAnswer method resource status body expected = .ok e →
    Describes body entry c → (fieldsValue entry).elements = .ok vs → e.fields = vs

/-- **A report says what the body describes, unless something else than a list counts for
the fields.** -/
theorem ofAnswer_reports (method resource : String) (status : Int) (body : Value)
    (expected : Option Int) : Reports method resource status body expected where
  tells_iff := by
    simp only [← entryFields_eq_listed_iff]
    constructor
    · rintro ⟨e, he, -, htells⟩
      exact (tellsFields_iff he).1 htells
    · intro hlisted
      cases hreport : ofAnswer method resource status body expected with
      | error fault =>
        obtain ⟨entry, c, hc, hfields⟩ := ofAnswer_eq_error_iff.1 hreport
        exact nomatch hfields.symm.trans (hlisted entry c hc)
      | ok e => exact ⟨e, rfl, tellsCode_of_ofAnswer hreport, (tellsFields_iff hreport).2 hlisted⟩
  fails_iff := exists_ofAnswer_error_iff
  code _ := tellsCode_of_ofAnswer
  fields := by
    intro e entry c vs he hc hvs
    rcases ofAnswer_eq_ok_iff.1 he with ⟨entry', c', fields, hc', hfields, rfl⟩ | ⟨hno, -⟩
    · obtain ⟨rfl, rfl⟩ := hc.unique hc'
      exact Except.ok.inj (hfields.symm.trans (entryFields_of_elements hvs))
    · exact absurd hc (hno entry c)

/-- A body that says nothing about the fields but a number. -/
def numberedFields : Value :=
  .list [.object [("errorCode", .text "INVALID_FIELD"), ("message", .text "No such column"),
    ("fields", .int 5)]]

/-- **A number for the fields hides the error.**  So reporting one can fail. -/
theorem ofAnswer_numberedFields :
    ofAnswer "POST" "sobjects/Account/" 400 numberedFields (some 201)
        = .error (.noMembers "int") ∧
      ¬ ∀ (method resource : String) (status : Int) (body : Value) (expected : Option Int),
        ∃ e, ofAnswer method resource status body expected = .ok e ∧ TellsCode body e ∧
          TellsFields body e := by
  have hfault : ofAnswer "POST" "sobjects/Account/" 400 numberedFields (some 201)
      = .error (.noMembers "int") := rfl
  refine ⟨hfault, fun hall => ?_⟩
  obtain ⟨e, he, -⟩ := hall "POST" "sobjects/Account/" 400 numberedFields (some 201)
  exact nomatch hfault.symm.trans he

end UnexpectedStatus

/-! ### Where reports are made -/

/-- A bridge answers another status than the expected one with an error of the directive
exactly if it can be reported. -/
theorem Bridge.exists_unexpected_status_iff {r : Request} {answer : Answer} :
    (∃ e, Bridge.unexpected r answer = .error (.status e)) ↔
      UnexpectedStatus.IsReportable answer.body := by
  rw [← @UnexpectedStatus.exists_ofAnswer_iff r.method.name r.resource answer.status answer.body
    (some r.expectedStatus), Bridge.unexpected]
  cases UnexpectedStatus.ofAnswer r.method.name r.resource answer.status answer.body
    (some r.expectedStatus) with
  | ok e => simp
  | error fault => simp

/-- So does a session. -/
theorem Session.exists_bodyOf_status_iff {method resource : String} {expected : Int}
    {answer : Answer} (h : answer.status ≠ expected) :
    (∃ e, bodyOf method resource expected answer = .error (.error (.status e))) ↔
      UnexpectedStatus.IsReportable answer.body := by
  rw [← @UnexpectedStatus.exists_ofAnswer_iff method resource answer.status answer.body
    (some expected), bodyOf, if_neg h]
  cases UnexpectedStatus.ofAnswer method resource answer.status answer.body (some expected) with
  | ok e => simp
  | error fault => simp

end RecordBridge
