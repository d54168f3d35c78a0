/-
# What is observed of a bridge

A watched bridge keeps to the rules of `Course`: each of its parts has the
events and the outcome that the relation of the same stage allows
(`work_watches`).  And observation is no interference: a bridge whose
collaborators are watched, or whose calls are recorded, answers as the bridge
does and leaves its collaborators in the same state (`handle_eq`).
-/

import RecordBridge.Proofs.Bridge.Course
import RecordBridge.Proofs.Compile.Requests

namespace RecordBridge

namespace Bridge

open RecordBridge.Flow (Watches)

variable {σ : Type}

theorem send_watches (b : Bridge σ) (r : Request) :
    Watches (b.watched.send r) (b.recorded.send r) (b.send r) (Sends r) := by
  unfold send
  refine Watches.call_bind (fun _ => rfl) (fun answer => ?_) fun _ => .failed
  refine Watches.log_if_bind (Watches.ite ?_ ?_)
  · intro h
    exact Watches.pure (.accepted h)
  · intro h
    have hrefused := Sends.refused h
    unfold unexpected at hrefused
    refine Watches.ofTraced_bind ?_ ?_
    · intro e he
      rw [Outcome.mapError_eq_ok_iff.1 he] at hrefused
      exact Watches.ofTraced hrefused
    · intro f hf
      obtain ⟨e, he, rfl⟩ := Outcome.mapError_eq_error_iff.1 hf
      rw [he] at hrefused
      exact hrefused

theorem logCreated_watches (b : Bridge σ) (answer : Answer) :
    Watches (b.watched.logCreated answer) (b.recorded.logCreated answer) (b.logCreated answer)
      fun new result => new = [] ∧ result = .ok () := by
  unfold logCreated
  cases createdId? answer.body with
  | none => exact Watches.pure ⟨rfl, rfl⟩
  | some id =>
    refine Watches.ite (fun _ => ?_) fun _ => ?_
    · exact Watches.ofTraced ⟨rfl, rfl⟩
    · exact Watches.pure ⟨rfl, rfl⟩

theorem takeOver_watches (b : Bridge σ) (catalog : Catalog) (c : Compiled) (r : Request)
    (answer : Answer) (e : Envelope) :
    Watches (b.watched.takeOver catalog c r answer e) (b.recorded.takeOver catalog c r answer e)
      (b.takeOver catalog c r answer e)
      fun new result => new = [] ∧ TakesOver b.settings catalog r answer e result := by
  unfold takeOver
  refine Watches.bind (logCreated_watches b answer) ?_ ?_
  · rintro _ _ ⟨rfl, -⟩
    refine Watches.ite (fun hmethod => ?_) fun hmethod => ?_
    · unfold takePage
      refine Watches.ofTraced_bind (fun records hrecords => ?_) fun f hf => ?_
      · refine Watches.log_if_bind ?_
        exact Watches.pure ⟨rfl, .page hmethod hrecords⟩
      · exact ⟨rfl, .unreadable hmethod hf⟩
    · exact Watches.pure ⟨rfl, .written hmethod⟩
  · rintro _ _ ⟨-, h⟩
    exact nomatch h

/-- The deletions are asked for behind the second reading of the clock. -/
theorem reconcile_watches (b : Bridge σ) {c : Compiled} (e : Envelope) {since : Int}
    (hsince : c.deltaSince = some since) (now : Int) :
    Watches
      (Deletions.reconcile b.settings.minDeltaWindow b.watched.remote c.directive.targetType since
        now (e.results.getD []))
      (Deletions.reconcile b.settings.minDeltaWindow b.recorded.remote c.directive.targetType
        since now (e.results.getD []))
      (Deletions.reconcile b.settings.minDeltaWindow b.remote c.directive.targetType since now
        (e.results.getD []))
      fun new result => AddsDeletions b.settings c e (.clock (.ok now) :: new)
        (result.map fun records => { e with results := some records }) := by
  unfold Deletions.reconcile
  refine Watches.ofTraced_bind (fun ends hends => ?_) fun f hf => .windowFailed hsince hf
  refine Watches.call_bind (fun _ => rfl) (fun ids => ?_) fun f => .feedFailed hsince hends
  exact Watches.log_if_bind (Watches.pure (.merged hsince hends))

theorem addDeletions_watches (b : Bridge σ) (c : Compiled) (e : Envelope) :
    Watches (b.watched.addDeletions c e) (b.recorded.addDeletions c e) (b.addDeletions c e)
      (AddsDeletions b.settings c e) := by
  unfold addDeletions
  cases hsince : c.deltaSince with
  | none => exact Watches.pure (.full hsince)
  | some since =>
    refine Watches.clock_bind (fun now => ?_) fun _ => .clockFailed hsince
    refine Watches.bind (reconcile_watches b e hsince now) ?_ ?_
    · intro new records h
      refine Watches.pure ?_
      rw [List.append_nil]
      exact h
    · intro new f h
      exact h

theorem workOn_watches (b : Bridge σ) (catalog : Catalog) {d : Directive} {o : Operation}
    (ho : Compile.operationOf d = .ok o) (hne : o ≠ .invoke) :
    Watches (b.watched.workOn catalog d) (b.recorded.workOn catalog d) (b.workOn catalog d)
      (WorksOn b.settings catalog d) := by
  unfold workOn
  refine Watches.clock_bind (fun now => ?_) fun _ => .clockFailed
  refine Watches.ofTraced_bind (fun c hc => ?_) fun f hf => .refused hf
  obtain ⟨r, haction, -⟩ := (Compile.compile_isRequest ho hne hc).action_eq
  dsimp only
  rw [haction]
  refine Watches.bind (send_watches b r) (fun sent answer hsent => ?_) ?_
  · refine Watches.bind (takeOver_watches b catalog c r answer _) ?_ ?_
    · rintro _ e ⟨rfl, ht⟩
      exact (addDeletions_watches b c e).mono fun more result ha =>
        .compiled hc haction (.answered hsent ht ha)
    · rintro _ f ⟨rfl, ht⟩
      rw [List.append_nil]
      exact .compiled hc haction (.unreadable hsent ht)
  · intro sent f hsent
    exact .compiled hc haction (.unsent hsent)

theorem runDocument_watches (b : Bridge σ) (e : Envelope) (i : DocumentInvoke) :
    Watches (b.watched.runDocument e i) (b.recorded.runDocument e i) (b.runDocument e i)
      (RunsDocument e i) := by
  cases i with
  | fetch name =>
    unfold runDocument
    refine Watches.call_bind (fun _ => rfl) (fun found => ?_) fun _ => .fetchFailed
    cases found with
    | none => exact Watches.log_bind (Watches.pure .notFound)
    | some document => exact Watches.pure .found
  | refresh name contentType content =>
    unfold runDocument
    refine Watches.call_bind (fun _ => rfl) (fun id => ?_) fun _ => .upsertFailed
    exact Watches.pure .upserted

theorem workInvocation_watches (b : Bridge σ) (d : Directive) :
    Watches (b.watched.workInvocation d) (b.recorded.workInvocation d) (b.workInvocation d)
      (Invokes b.settings d) := by
  unfold workInvocation
  refine Watches.ofTraced_bind (fun c hc => ?_) fun f hf => .refused hf
  obtain ⟨i, -, rfl⟩ := Compile.compileInvoke_eq_ok_iff.1 hc
  exact (runDocument_watches b _ i).mono fun events result hr => .compiled hc rfl hr

theorem resolve_watches (b : Bridge σ) (hknows : b.remote.KnowsTypes) (d : Directive) :
    Watches (b.watched.resolve d) (b.recorded.resolve d) (b.resolve d) (Resolves d) := by
  unfold resolve
  refine Watches.ofTraced_bind (fun o ho => ?_) fun f hf => ?_
  · have ho := Outcome.mapError_eq_ok_iff.1 ho
    by_cases hinvoke : o = .invoke
    · subst hinvoke
      exact Watches.pure (.invocation ho)
    · have hcatalog : Watches (b.watched.remote.catalog d.targetType)
          (b.recorded.remote.catalog d.targetType) (b.remote.catalog d.targetType)
          (Resolves d) := by
        refine Watches.call (fun _ => rfl) fun s => ?_
        cases hr : (b.remote.catalog d.targetType s).1.result with
        | error f => exact .failed ho hinvoke
        | ok found =>
          cases found with
          | none => exact absurd hr (hknows d.targetType s)
          | some catalog => exact .found ho hinvoke
      cases o with
      | invoke => exact absurd rfl hinvoke
      | _ => exact hcatalog
  · obtain ⟨e, he, rfl⟩ := Outcome.mapError_eq_error_iff.1 hf
    exact .unknown he

/-- **The rules describe the work of a bridge.** -/
theorem work_watches (b : Bridge σ) (hknows : b.remote.KnowsTypes) (submission : Submission) :
    Watches (b.watched.work submission) (b.recorded.work submission) (b.work submission)
      (Works b.settings submission) := by
  unfold work
  refine Watches.ofTraced_bind (fun d hd => ?_) fun f hf => ?_
  · have hread := Outcome.mapError_eq_ok_iff.1 hd
    refine Watches.bind (resolve_watches b hknows d) ?_ ?_
    · rintro _ _ (_ | ho | _ | ⟨ho, hne⟩)
      · exact (workInvocation_watches b d).mono fun events result h => .invocation hread ho h
      · exact (workOn_watches b _ ho hne).mono fun events result h => .resolved hread ho hne h
    · rintro _ f (ho | _ | ⟨ho, hne⟩ | _)
      · exact .unknown hread ho
      · exact .unresolved hread ho hne
  · obtain ⟨e, he, rfl⟩ := Outcome.mapError_eq_error_iff.1 hf
    exact .malformed he

theorem handle_watches (b : Bridge σ) (hknows : b.remote.KnowsTypes) (submission : Submission) :
    Watches (b.watched.handle submission) (b.recorded.handle submission) (b.handle submission)
      fun new result =>
      ∃ outcome, Works b.settings submission new outcome ∧ result = answered outcome := by
  unfold handle
  refine Watches.log_bind ?_
  refine Watches.bind (work_watches b hknows submission).attempt ?_ ?_
  · rintro new tried ⟨outcome, hworks, htried⟩
    rcases outcome with (e | f) | e
    · obtain rfl := Except.ok.inj htried
      refine Watches.log_bind (Watches.pure ⟨.error (.error e), ?_, rfl⟩)
      rw [List.append_nil]
      exact hworks
    · exact nomatch htried
    · obtain rfl := Except.ok.inj htried
      refine Watches.log_bind (Watches.pure ⟨.ok e, ?_, rfl⟩)
      rw [List.append_nil]
      exact hworks
  · rintro new f ⟨outcome, hworks, htried⟩
    rcases outcome with (e | f) | e
    · exact nomatch htried
    · obtain rfl := Except.error.inj htried
      exact ⟨_, hworks, rfl⟩
    · exact nomatch htried

/-- **A bridge under observation answers as the bridge does.**  The events of a
submission are those of the rules, and the calls among them are the calls that
are recorded. -/
theorem handle_eq (b : Bridge σ) (hknows : b.remote.KnowsTypes) (submission : Submission) (s : σ) :
    b.watched.handle submission (s, [])
        = ((b.handle submission s).1, ((b.handle submission s).2, b.trace submission s)) ∧
      b.recorded.handle submission (s, [])
          = ((b.handle submission s).1,
            ((b.handle submission s).2, Event.calls (b.trace submission s))) ∧
        ∃ outcome, Works b.settings submission (b.trace submission s) outcome ∧
          (b.handle submission s).1.result = answered outcome := by
  obtain ⟨new, hwatched, hrecorded, hworks⟩ := handle_watches b hknows submission s [] []
  have htrace : b.trace submission s = new := by rw [trace, hwatched, List.nil_append]
  rw [htrace]
  exact ⟨hwatched, hrecorded, hworks⟩

end Bridge
end RecordBridge
