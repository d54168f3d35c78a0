/-
# Failures end the work

`Raised` names what can fail: a call, or a stage of the bridge on what it has
been answered so far.  It is stated on events alone, so that it can be compared
with what the bridge goes on to do, and that is nothing
(`Works.ends_of_raised`).  The other way round, where the work comes to a
failure, this failure has been raised behind its events (`Works.raised`).
-/

import RecordBridge.Proofs.Bridge.Stages

namespace RecordBridge

namespace Bridge

/-- The events up to the answer to the compiled request. -/
inductive Sent (settings : Settings) (submission : Submission) :
    List Event → Catalog → Compiled → Request → Answer → Prop
  | intro {d : Directive} {catalog : Catalog} {now : Int} {c : Compiled} {r : Request}
    {answer : Answer} (hread : submission.read = .ok d)
    (hc : (Compile.compile settings catalog now d).result = .ok c) (ha : c.action = .request r) :
    Sent settings submission
      [.catalog d.targetType (.ok (some catalog)), .clock (.ok now), .ofRequest r (.ok answer)]
      catalog c r answer

/-- The failures that have been raised behind some events. -/
inductive Raised (settings : Settings) (submission : Submission) : List Event → Failure → Prop
  /-- A collaborator answered with a failure. -/
  | answered (before : List Event) {last : Event} {f : Failure} (h : last.failure? = some f) :
    Raised settings submission (before ++ [last]) f
  | malformed {e : Directive.Error} (hread : submission.read = .error e) :
    Raised settings submission [] (.directive e)
  | unknown {d : Directive} {e : Directive.Error} (hread : submission.read = .ok d)
    (ho : Compile.operationOf d = .error e) : Raised settings submission [] (.directive e)
  | invocation {d : Directive} {f : Failure} (hread : submission.read = .ok d)
    (ho : Compile.operationOf d = .ok .invoke)
    (hc : (Compile.compileInvoke settings d).result = .error f) : Raised settings submission [] f
  | compilation {d : Directive} {catalog : Catalog} {now : Int} {f : Failure}
    (hread : submission.read = .ok d)
    (hc : (Compile.compile settings catalog now d).result = .error f) :
    Raised settings submission [.catalog d.targetType (.ok (some catalog)), .clock (.ok now)] f
  | status {sent : List Event} {catalog : Catalog} {c : Compiled} {r : Request} {answer : Answer}
    (hsent : Sent settings submission sent catalog c r answer)
    (hstatus : answer.status ≠ r.expectedStatus) :
    Raised settings submission sent (unexpected r answer)
  | records {sent : List Event} {catalog : Catalog} {c : Compiled} {r : Request} {answer : Answer}
    {f : Failure} (hsent : Sent settings submission sent catalog c r answer)
    (hstatus : answer.status = r.expectedStatus) (hmethod : r.method = .get)
    (h : Record.materialize settings.recordMapping catalog (answer.field "records") = .error f) :
    Raised settings submission sent f
  | window {sent : List Event} {catalog : Catalog} {c : Compiled} {r : Request} {answer : Answer}
    {since now : Int} {f : Failure} (hsent : Sent settings submission sent catalog c r answer)
    (hsince : c.deltaSince = some since) (hw : windowTexts settings since now = .error f) :
    Raised settings submission (sent ++ [.clock (.ok now)]) f

variable {settings : Settings} {submission : Submission} {catalog : Catalog} {d : Directive}
  {c : Compiled} {r : Request} {answer : Answer} {e : Envelope} {events rest : List Event}
  {outcome : Except Failure Envelope}

/-- What follows when the compiled request was answered. -/
theorem Works.of_sent {sent : List Event} (hsent : Sent settings submission sent catalog c r answer)
    (h : Works settings submission (sent ++ rest) outcome) :
    Requests settings catalog c r (.ofRequest r (.ok answer) :: rest) outcome := by
  obtain ⟨hread, hc, ha⟩ := hsent
  rcases (h.of_catalog hread).of_clock with ⟨f, hc', -⟩ | ⟨c', r', hc', ha', h⟩
  · exact nomatch hc.symm.trans hc'
  · obtain rfl := Except.ok.inj (hc.symm.trans hc')
    obtain rfl := Action.request.inj (ha.symm.trans ha')
    exact h

/-- **A failure is the end.**  When it has been raised nothing else is asked of
a collaborator, and the work comes to this failure. -/
theorem Works.ends_of_raised {before after : List Event} {f : Failure}
    (h : Works settings submission (before ++ after) outcome)
    (hraised : Raised settings submission before f) : after = [] ∧ outcome = .error f := by
  cases hraised with
  | answered before hlast =>
    rw [List.append_assoc] at h
    exact h.stops _ _ after f rfl hlast
  | malformed hread => exact h.of_malformed hread
  | unknown hread ho =>
    rcases h.of_read hread with ⟨x, ho', hend⟩ | ⟨ho', -⟩ | ⟨o, ho', -⟩
    · obtain rfl := Except.error.inj (ho.symm.trans ho')
      exact hend
    · exact nomatch ho.symm.trans ho'
    · exact nomatch ho.symm.trans ho'
  | invocation hread ho hc =>
    rcases h.of_read hread with ⟨x, ho', -⟩ | ⟨-, h⟩ | ⟨o, ho', hne, -⟩
    · exact nomatch ho.symm.trans ho'
    · cases h with
      | refused hc' =>
        obtain rfl := Except.error.inj (hc.symm.trans hc')
        exact ⟨rfl, rfl⟩
      | compiled hc' _ _ => exact nomatch hc.symm.trans hc'
    · exact absurd (Except.ok.inj (ho.symm.trans ho')).symm hne
  | compilation hread hc =>
    rcases (h.of_catalog hread).of_clock with ⟨f', hc', hend⟩ | ⟨c, r, hc', -⟩
    · obtain rfl := Except.error.inj (hc.symm.trans hc')
      exact hend
    · exact nomatch hc.symm.trans hc'
  | status hsent hstatus =>
    rcases (h.of_sent hsent).of_answer with ⟨-, hend⟩ | ⟨hstatus', -⟩
    · exact hend
    · exact absurd hstatus' hstatus
  | records hsent hstatus hmethod hrecords =>
    rcases (h.of_sent hsent).of_answer with ⟨hstatus', -⟩ | ⟨-, ⟨f', ht, hend⟩ | ⟨e, ht, -⟩⟩
    · exact absurd hstatus hstatus'
    · cases ht with
      | unreadable _ hrecords' =>
        obtain rfl := Except.error.inj (hrecords.symm.trans hrecords')
        exact hend
    · cases ht with
      | page _ hrecords' => exact nomatch hrecords.symm.trans hrecords'
      | written hmethod' => exact absurd hmethod hmethod'
  | window hsent hsince hw =>
    rw [List.append_assoc] at h
    rcases (h.of_sent hsent).of_answer with ⟨-, hnil, -⟩ | ⟨-, ⟨f', -, hnil, -⟩ | ⟨e, -, ha⟩⟩
    · exact nomatch hnil
    · exact nomatch hnil
    · cases ha with
      | windowFailed hsince' hw' =>
        obtain rfl := Option.some.inj (hsince.symm.trans hsince')
        obtain rfl := Except.error.inj (hw.symm.trans hw')
        exact ⟨rfl, rfl⟩
      | feedFailed hsince' hw' =>
        obtain rfl := Option.some.inj (hsince.symm.trans hsince')
        exact nomatch hw.symm.trans hw'
      | merged hsince' hw' =>
        obtain rfl := Option.some.inj (hsince.symm.trans hsince')
        exact nomatch hw.symm.trans hw'

/-! ## What has been raised -/

theorem AddsDeletions.raised {sent more : List Event} {f : Failure}
    (h : AddsDeletions settings c e more (.error f))
    (hsent : Sent settings submission sent catalog c r answer) :
    Raised settings submission (sent ++ more) f := by
  cases h with
  | clockFailed _ => exact .answered _ rfl
  | windowFailed hsince hw => exact .window hsent hsince hw
  | feedFailed _ _ =>
    rw [List.append_cons]
    exact .answered _ rfl

theorem Requests.raised {now : Int} {f : Failure}
    (h : Requests settings catalog c r events (.error f)) (hread : submission.read = .ok d)
    (hc : (Compile.compile settings catalog now d).result = .ok c) (ha : c.action = .request r) :
    Raised settings submission
      (.catalog d.targetType (.ok (some catalog)) :: .clock (.ok now) :: events) f := by
  have hsent : ∀ answer, Sent settings submission
      [.catalog d.targetType (.ok (some catalog)), .clock (.ok now), .ofRequest r (.ok answer)]
      catalog c r answer := fun answer => .intro hread hc ha
  generalize hfailure : Except.error f = outcome at h
  cases h with
  | unsent h =>
    obtain rfl := Except.error.inj hfailure
    cases h with
    | failed => exact .answered [_, _] rfl
    | refused hstatus => exact .status (hsent _) hstatus
  | unreadable h ht =>
    obtain rfl := Except.error.inj hfailure
    obtain ⟨rfl, hstatus⟩ := h.of_ok
    cases ht with
    | unreadable hmethod hrecords => exact .records (hsent _) hstatus hmethod hrecords
  | answered h _ hadd =>
    subst hfailure
    obtain ⟨rfl, -⟩ := h.of_ok
    exact hadd.raised (hsent _)

/-- **The failure of the work has been raised behind its events.** -/
theorem Works.raised {f : Failure} (h : Works settings submission events (.error f)) :
    Raised settings submission events f := by
  generalize hfailure : Except.error f = outcome at h
  cases h with
  | malformed hread =>
    obtain rfl := Except.error.inj hfailure
    exact .malformed hread
  | unknown hread ho =>
    obtain rfl := Except.error.inj hfailure
    exact .unknown hread ho
  | invocation hread ho h =>
    subst hfailure
    cases h with
    | refused hc => exact .invocation hread ho hc
    | compiled _ _ h =>
      cases h with
      | fetchFailed => exact .answered [] rfl
      | upsertFailed => exact .answered [] rfl
  | unresolved _ _ _ =>
    obtain rfl := Except.error.inj hfailure
    exact .answered [] rfl
  | resolved hread _ _ h =>
    subst hfailure
    cases h with
    | clockFailed => exact .answered [_] rfl
    | refused hc => exact .compilation hread hc
    | compiled hc ha h => exact h.raised hread hc ha

end Bridge
end RecordBridge
