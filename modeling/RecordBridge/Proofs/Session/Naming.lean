/-
# Which names of types reach the wire

The name of a type is pasted into addresses and queries as it is.  What guards all of
them is the check of names before a description is asked for: it lets a proper name
through, and also a proper name with one line end behind it (`IsAccepted`).

A session knows catalogs under such names only, however it got where it is
(`Reached.knowsTypes`).  So it gives a catalog of a type, or asks for one, exactly for
these names, and a directive that a bridge works off over it sends requests that have
its type in them only if its type has such a name (`accepted_names_reach_the_wire`).
-/

import RecordBridge.Proofs.Session.Errands
import RecordBridge.Proofs.Session.TypeNames

namespace RecordBridge

namespace Compile

/-- Whether a resource is one that is asked for to work off a directive. -/
inductive Concerns (d : Directive) : String → Prop
  /-- The description of its type. -/
  | description : Concerns d (Session.describeResource d.targetType)
  /-- A query on its type. -/
  | selection (properties : List String) (condition : String) :
    Concerns d (queryResource (queryText properties d.targetType condition))
  /-- The cursor that it gives itself. -/
  | continuation {cursor : String} (hcursor : d.options.cursorId = some cursor) :
    Concerns d cursor
  /-- The records of its type. -/
  | records : Concerns d ("sobjects/" ++ d.targetType ++ "/")
  /-- A record of its type. -/
  | record (id : String) : Concerns d (recordResource d.targetType id)
  /-- The deletions of its type. -/
  | deletions (start stop : String) : Concerns d (Session.deletedResource d.targetType start stop)

variable {settings : Settings} {catalog : Catalog} {now : Int} {d : Directive} {c : Compiled}
  {r : Request}

theorem concerns_of_compileSelect {properties : Option (List String)} {warnings : List Warning}
    (h : (compileSelect settings catalog now d properties warnings).result = .ok c)
    (hr : c.action = .request r) : Concerns d r.resource := by
  obtain ⟨cursor, hcursor, h⟩ | ⟨-, ps, -, -, h⟩ := compileSelect_eq_ok_iff.1 h
  · obtain rfl := Except.ok.inj h
    rw [← Action.request.inj hr]
    exact .continuation (Option.filter_eq_some_iff.1 hcursor).1
  · obtain ⟨bound, condition, -, -, rfl⟩ := eq_firstPage_of_compileQuery h
    rw [← Action.request.inj hr]
    exact .selection ps condition

/-- **What a directive is compiled to concerns the directive.** -/
theorem concerns_of_compile (h : (compile settings catalog now d).result = .ok c)
    (hr : c.action = .request r) : Concerns d r.resource := by
  cases ho : operationOf d with
  | error e =>
    rw [result_unknown ho] at h
    cases h
  | ok o =>
    cases o with
    | select =>
      rw [result_select ho] at h
      exact concerns_of_compileSelect h hr
    | insert =>
      rw [result_insert ho] at h
      rw [resource_of_compileWrite h hr]
      exact .records
    | update =>
      rw [result_update ho] at h
      obtain ⟨id, -, h⟩ := Outcome.bind_eq_ok_iff.1 h
      rw [resource_of_compileWrite h hr]
      exact .record id
    | delete =>
      rw [result_delete ho] at h
      obtain ⟨id, -, h⟩ := Outcome.bind_eq_ok_iff.1 h
      obtain rfl := Except.ok.inj h
      rw [← Action.request.inj hr]
      exact .record id
    | invoke =>
      rw [result_invoke ho] at h
      obtain ⟨i, -, rfl⟩ := compileInvoke_eq_ok_iff.1 h
      cases hr

end Compile

namespace Session

variable {τ : Type} {s s' : Session} {config : Config}

/-- Whether a name is let through. -/
def IsAccepted (name : String) : Prop := IsProperName name ∨ HasLineEnd name

/-- Whether a session knows catalogs under names only that are let through. -/
def KnowsTypes (s : Session) : Prop := ∀ e ∈ s.catalogs, IsAccepted e.1

/-- What is known is kept to. -/
theorem KnowsTypes.get? (h : s.KnowsTypes) {name : String} {info : Catalog}
    (hknown : s.catalogs.get? name = some info) : IsAccepted name :=
  h _ (Entries.mem_of_get? hknown)

theorem KnowsTypes.keep (h : s.KnowsTypes) {name : String} (hname : isTypeName name = true)
    (info : Catalog) : (s.keep name info).KnowsTypes := by
  intro e he
  obtain hnew | hold := Entries.mem_set he
  · rw [hnew]
    exact isTypeName_iff.1 hname
  · exact h e hold

/-- A turn of a session brings no other names. -/
theorem KnowsTypes.step {call : Call} {exchanges : List Exchange} {r : Except Failure Returned}
    (h : s.KnowsTypes) (hstep : Step s call exchanges r s') : s'.KnowsTypes := by
  cases hstep with
  | login => exact List.forall_mem_nil _
  | described _ hname => exact h.keep hname _
  | _ => exact h

/-! ### One directive -/

/-- Whether a request is one of a session for what a directive concerns. -/
def Asks (s : Session) (d : Directive) (request : HttpRequest) : Prop :=
  ∃ method resource body, Compile.Concerns d resource ∧
    request = s.httpRequest method resource body

/-- To know catalogs under names only that are let through, and to ask for what a directive
concerns only if its type has such a name. -/
def naming (s : Session) (submission : Submission) : Conduct where
  holds s' := s'.KnowsTypes ∧ ∃ catalogs, s' = { s with catalogs := catalogs }
  allows _ e := ∀ d, submission.read = .ok d → Compile.operationOf d ≠ .ok .invoke →
    IsAccepted d.targetType ∧ s.Asks d e.request
  allows_append _ _ _ h := h

variable {settings : Settings} {submission : Submission} {d : Directive}

theorem permits_naming {method resource : String} {body : Option Object}
    (hread : submission.read = .ok d) (haccepted : IsAccepted d.targetType)
    (hconcerns : Compile.Concerns d resource) :
    (s.naming submission).Permits method resource body := by
  rintro s' older answer ⟨-, catalogs, rfl⟩ d' hread' -
  obtain rfl := Except.ok.inj (hread.symm.trans hread')
  exact ⟨haccepted, method, resource, body, hconcerns, rfl⟩

theorem keeps_catalog_naming (t : Transport τ) (hread : submission.read = .ok d) :
    Keeps (s.naming submission) (catalog t.watched d.targetType) (catalog t d.targetType) := by
  rintro s' ⟨hknows, hs'⟩
  refine (Talks.catalog t d.targetType).mono fun new r s'' hstep => ?_
  have hdescribe : isTypeName d.targetType = true → ∀ answer,
      (s.naming submission).AllowsAll [⟨s'.describeRequest d.targetType, answer⟩] := by
    intro hname answer
    have hpermits : (s.naming submission).Permits "GET" (describeResource d.targetType) none :=
      permits_naming hread (isTypeName_iff.1 hname) .description
    exact Conduct.allowsAll_nil.concat (hpermits s' [] answer ⟨hknows, hs'⟩)
  generalize r.map Returned.catalog = r' at hstep
  cases hstep with
  | known => exact ⟨⟨hknows, hs'⟩, Conduct.allowsAll_nil⟩
  | refused => exact ⟨⟨hknows, hs'⟩, Conduct.allowsAll_nil⟩
  | failed _ hname => exact ⟨⟨hknows, hs'⟩, hdescribe hname _⟩
  | described _ hname =>
    obtain ⟨catalogs, rfl⟩ := hs'
    exact ⟨⟨hknows.keep hname _, _, rfl⟩, hdescribe hname _⟩
  | other _ hcatalog => exact nomatch hcatalog

/-- How the catalog of a type is come by, in a session that knows catalogs under names only
that are let through. -/
theorem talks_catalog (t : Transport τ) (hknows : s.KnowsTypes) (name : String) :
    Talks s (catalog t.watched name) (catalog t name) fun new r s' =>
      (∃ info, s.catalogs.get? name = some info ∧ IsAccepted name ∧
        new = [] ∧ r = .ok info ∧ s' = s) ∨
      (s.catalogs.get? name = none ∧ IsAccepted name ∧
        ∃ answer, new = [⟨s.describeRequest name, answer⟩]) ∨
      (s.catalogs.get? name = none ∧ ¬ IsAccepted name ∧
        new = [] ∧ r = .error (.session (.invalidTypeName (some name))) ∧ s' = s) := by
  refine (Talks.catalog t name).mono fun new r s' hstep => ?_
  generalize hr : r.map Returned.catalog = r' at hstep
  cases hstep with
  | known hknown =>
    obtain ⟨info, rfl, hinfo⟩ := Outcome.map_eq_ok_iff.1 hr
    obtain rfl := Returned.catalog.inj hinfo
    exact .inl ⟨info, hknown, hknows.get? hknown, rfl, rfl, rfl⟩
  | refused hunknown hname =>
    have hrefused : ¬ IsAccepted name := fun h =>
      Bool.false_ne_true (hname.symm.trans (isTypeName_iff.2 h))
    exact .inr (.inr ⟨hunknown, hrefused, rfl, Outcome.map_eq_error_iff.1 hr, rfl⟩)
  | failed hunknown hname => exact .inr (.inl ⟨hunknown, isTypeName_iff.1 hname, _, rfl⟩)
  | described hunknown hname => exact .inr (.inl ⟨hunknown, isTypeName_iff.1 hname, _, rfl⟩)
  | other _ hcatalog => exact nomatch hcatalog

/-- A directive is served by asking for what it concerns. -/
theorem serves_naming (t : Transport τ) (hread : submission.read = .ok d) :
    (s.naming submission).Serves t settings d (IsAccepted d.targetType) where
  describes _ := keeps_catalog_naming t hread
  knows s' hs' := by
    refine (talks_catalog t hs'.1 d.targetType).mono fun new r s'' hcase info hr => ?_
    obtain ⟨_, -, haccepted, -⟩ | ⟨-, haccepted, -⟩ | ⟨-, -, -, he, -⟩ := hcase
    · exact haccepted
    · exact haccepted
    · exact absurd (hr.symm.trans he) Outcome.ok_ne_error
  sends haccepted _ _ _ _ hcompiled hr :=
    permits_naming hread haccepted (Compile.concerns_of_compile hcompiled hr)
  reconciles haccepted start stop := permits_naming hread haccepted (.deletions start stop)
  invokes ho _ _ _ _ _ _ _ _ d' hread' hne := by
    obtain rfl := Except.ok.inj (hread.symm.trans hread')
    exact absurd ho hne
  fetches ho _ _ _ _ _ _ _ _ _ d' hread' hne := by
    obtain rfl := Except.ok.inj (hread.symm.trans hread')
    exact absurd ho hne

/-- **A directive sends its type only under a name that is let through.** -/
theorem talks_handle (t : Transport τ) (clock : Flow τ Int) (hknows : s.KnowsTypes) :
    Talks s ((bridge settings t.watched (Flow.onFst clock)).handle submission)
      ((bridge settings t clock).handle submission) fun new _ s' =>
        s'.KnowsTypes ∧ ∀ d, submission.read = .ok d → Compile.operationOf d ≠ .ok .invoke →
          ∀ e ∈ new, IsAccepted d.targetType ∧ s.Asks d e.request := by
  have hserves : ∀ d, submission.read = .ok d →
      ∃ known, (s.naming submission).Serves t settings d known := fun d hread =>
    ⟨_, serves_naming t hread⟩
  refine (keeps_handle t clock hserves s ⟨hknows, _, rfl⟩).mono ?_
  rintro new r s' ⟨⟨hknows', -⟩, hnew⟩
  refine ⟨hknows', fun d hread hne e he => ?_⟩
  obtain ⟨older, newer, hsplit⟩ := List.append_of_mem he
  exact hnew older e newer hsplit d hread hne

/-! ### Every session -/

/-- Whether a session can be come by: it was opened, it ran an errand, or it was told the
description of a type that it had asked for earlier, when it did not know it. -/
inductive Reached (config : Config) : Session → Prop
  | opened : Reached config (ofConfig config)
  | ran {s : Session} (hs : Reached config s) {τ : Type} (t : Transport τ) (clock : Flow τ Int)
    (errand : Errand) (u : τ) : Reached config (errand.run t clock (s, u)).2.1
  | told {s asking : Session} (hs : Reached config s) (hasking : Reached config asking)
    {name : String} (hunknown : asking.lookUp name = .unknown) (description : Value) {τ : Type}
    (u : τ) : Reached config ((accept name description : Over τ Catalog) (s, u)).2.1

/-- An errand brings no other names. -/
theorem KnowsTypes.run (h : s.KnowsTypes) (t : Transport τ) (clock : Flow τ Int) (errand : Errand)
    (u : τ) : (errand.run t clock (s, u)).2.1.KnowsTypes := by
  have htalks : Talks s (errand.run t.watched (Flow.onFst clock)) (errand.run t clock)
      fun _ _ s' => s'.KnowsTypes := by
    cases errand with
    | operation call =>
      refine Talks.bind (call.talks t s) (fun _ _ _ hstep => ?_) fun _ _ _ hstep => h.step hstep
      exact Talks.ofTraced (h.step hstep)
    | directive settings submission =>
      refine Talks.bind (talks_handle t clock h) (fun _ _ _ hs' => ?_) fun _ _ _ hs' => hs'.1
      exact Talks.ofTraced hs'.1
  exact htalks.exchangesOf u

/-- **A session knows catalogs under names only that are let through.** -/
theorem Reached.knowsTypes (h : Reached config s) : s.KnowsTypes := by
  induction h with
  | opened => exact List.forall_mem_nil _
  | ran hs t clock errand u ih => exact ih.run t clock errand u
  | @told s asking _ _ name hunknown description τ u ih _ =>
    have hname : isTypeName name = true := by
      unfold lookUp at hunknown
      split at hunknown
      · cases hunknown
      · split at hunknown
        · assumption
        · cases hunknown
    have htalks : Talks (τ := τ) s (accept name description) (accept name description)
        fun _ _ s' => s'.KnowsTypes :=
      Talks.accept (fun info _ => ih.keep hname info) fun _ => ih
    exact htalks.exchangesOf u

/-- **Accepted names of types reach the wire, and no others.**  However a session was come
by, it gives the catalog of a type or asks for its description if the name of the type is
let through; for any other name it fails, sends nothing and stays as it is.  A directive
that is worked off over it and is no invocation sends nothing but requests for what it
concerns, and these only if its type has such a name. -/
theorem accepted_names_reach_the_wire (hs : Reached config s) (t : Transport τ)
    (clock : Flow τ Int) :
    (∀ name, Talks s (catalog t.watched name) (catalog t name) fun new r s' =>
      (∃ info, s.catalogs.get? name = some info ∧ IsAccepted name ∧
        new = [] ∧ r = .ok info ∧ s' = s) ∨
      (s.catalogs.get? name = none ∧ IsAccepted name ∧
        ∃ answer, new = [⟨s.describeRequest name, answer⟩]) ∨
      (s.catalogs.get? name = none ∧ ¬ IsAccepted name ∧
        new = [] ∧ r = .error (.session (.invalidTypeName (some name))) ∧ s' = s)) ∧
    ∀ settings submission, Talks s
      ((bridge settings t.watched (Flow.onFst clock)).handle submission)
      ((bridge settings t clock).handle submission) fun new _ _ =>
        ∀ d, submission.read = .ok d → Compile.operationOf d ≠ .ok .invoke →
          ∀ e ∈ new, IsAccepted d.targetType ∧ s.Asks d e.request := by
  refine ⟨talks_catalog t hs.knowsTypes, fun settings submission => ?_⟩
  exact (talks_handle t clock hs.knowsTypes).mono fun _ _ _ h => h.2

/-- A configuration. -/
def plainConfig : Config := { instanceUrl := "https://x", accessToken := "first" }

/-- `accepted_names_reach_the_wire` for a session that was just opened and a name with a slash
in it. -/
theorem accepted_names_reach_the_wire_slash :
    Reached plainConfig (ofConfig plainConfig) ∧ ¬ IsAccepted "Account/x" ∧
      exchangesOf (catalog accountTransport.watched "Account/x") (ofConfig plainConfig) () = [] ∧
      (catalog accountTransport "Account/x" (ofConfig plainConfig, ())).1.result
        = .error (.session (.invalidTypeName (some "Account/x"))) := by
  have hrefused : ¬ IsAccepted "Account/x" := by
    rw [IsAccepted, ← isTypeName_iff]
    decide
  have hopened : Reached plainConfig (ofConfig plainConfig) := .opened
  obtain ⟨hcatalog, -⟩ := accepted_names_reach_the_wire hopened accountTransport (pure 0)
  obtain ⟨_, -, haccepted, -⟩ | ⟨-, haccepted, -⟩ | ⟨-, -, hnew, hr, -⟩ :=
    (hcatalog "Account/x").exchangesOf ()
  · exact absurd haccepted hrefused
  · exact absurd haccepted hrefused
  · exact ⟨hopened, hrefused, hnew, hr⟩

/-- The deletion of the record of a type with an identifier. -/
def deletion (typeName id : String) : Directive where
  op := "DELETE"
  targetType := typeName
  filter := some [("externalId", .text id)]

/-- A name with a line end is no proper name, and yet it is described, and stands in what a
directive on it asks for. -/
theorem lineEnd_reaches_the_wire :
    ¬ IsProperName "Account\n" ∧
      (catalog accountTransport "Account\n" (ofConfig plainConfig, ())).1.result.toOption.isSome
        = true ∧
      (exchangesOf ((bridge {} accountTransport.watched (pure 0)).handle
          (.directive (deletion "Account\n" "1"))) (ofConfig plainConfig) ()).map (·.request.url)
        = ["https://x/services/data/v59.0/sobjects/Account\n/describe/",
          "https://x/services/data/v59.0/sobjects/Account\n/1"] := by
  decide +kernel

end Session
end RecordBridge
