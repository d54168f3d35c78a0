/-
# The protocol of a bridge

Whatever is submitted and whatever the collaborators answer, a bridge keeps to
one order of calls, stops at the first failure, and answers either with a
success or with that failure alone (`handle_protocol`).

    a type           catalog, then the compiled request, then the deletions
    an invocation    the one call of the document operation
    anything else    no call
-/

import RecordBridge.Proofs.Bridge.Failures
import RecordBridge.Proofs.Bridge.Observed

namespace RecordBridge

/-- The call of a request. -/
def Request.call (r : Request) : RemoteCall := .request r.method.name r.resource r.body

/-- The call of an operation on a document. -/
def DocumentInvoke.call : DocumentInvoke → RemoteCall
  | .fetch name => .fetchDocument name
  | .refresh name contentType content => .upsertDocument name contentType content

namespace Bridge

/-- What a submission is compiled to, by the catalog and the time in its
events. -/
inductive CompiledIn (settings : Settings) (submission : Submission) :
    List Event → Compiled → Prop
  | invocation {d : Directive} {c : Compiled} {events : List Event}
    (hread : submission.read = .ok d) (ho : Compile.operationOf d = .ok .invoke)
    (hc : (Compile.compileInvoke settings d).result = .ok c) :
    CompiledIn settings submission events c
  | request {d : Directive} {catalog : Catalog} {now : Int} {c : Compiled} {rest : List Event}
    (hread : submission.read = .ok d)
    (hc : (Compile.compile settings catalog now d).result = .ok c) :
    CompiledIn settings submission
      (.catalog d.targetType (.ok (some catalog)) :: .clock (.ok now) :: rest) c

/-- The order of the calls for a submission. -/
structure InOrder (settings : Settings) (submission : Submission) (events : List Event) :
    Prop where
  malformed : ∀ e, submission.read = .error e → events = []
  unknown : ∀ d e, submission.read = .ok d → Compile.operationOf d = .error e → events = []
  invocation : ∀ d, submission.read = .ok d → Compile.operationOf d = .ok .invoke →
    Event.calls events = [] ∨ ∃ c i, CompiledIn settings submission events c ∧
      c.action = .invoke i ∧ Event.calls events = [i.call]
  known : ∀ d o, submission.read = .ok d → Compile.operationOf d = .ok o → o ≠ .invoke →
    Event.calls events = [.catalog d.targetType] ∨
      ∃ c r start stop, CompiledIn settings submission events c ∧ c.action = .request r ∧
        Event.calls events
          <+: [.catalog d.targetType, r.call, .deletedBetween d.targetType start stop]

/-- An envelope without errors that has exactly the given warnings. -/
structure Succeeds (warnings : List Warning) (e : Envelope) : Prop where
  succeeded : e.succeeded = true
  errors_eq : e.errors = []
  warnings_eq : e.warnings = warnings

variable {settings : Settings} {submission : Submission} {catalog : Catalog} {d : Directive}
  {c : Compiled} {r : Request} {answer : Answer} {e : Envelope} {events rest : List Event}
  {outcome : Except Failure Envelope} {warnings : List Warning}

/-! ## Successes -/

theorem Succeeds.identified (h : Succeeds warnings e) :
    Succeeds warnings (identified answer e) := by
  unfold Bridge.identified
  split
  · exact ⟨h.succeeded, h.errors_eq, h.warnings_eq⟩
  · exact h

theorem TakesOver.succeeds {e' : Envelope} (h : TakesOver settings catalog r answer e (.ok e'))
    (he : Succeeds warnings e) : Succeeds warnings e' := by
  cases h with
  | page _ _ => exact ⟨he.identified.succeeded, he.identified.errors_eq, he.identified.warnings_eq⟩
  | written _ => exact he.identified

theorem AddsDeletions.succeeds {e' : Envelope} (h : AddsDeletions settings c e events (.ok e'))
    (he : Succeeds warnings e) : Succeeds warnings e' := by
  cases h with
  | full _ => exact he
  | merged _ _ => exact ⟨he.succeeded, he.errors_eq, he.warnings_eq⟩

theorem RunsDocument.succeeds {i : DocumentInvoke} {e' : Envelope}
    (h : RunsDocument e i events (.ok e')) (he : Succeeds warnings e) : Succeeds warnings e' := by
  cases h with
  | notFound => exact he
  | found => exact ⟨he.succeeded, he.errors_eq, he.warnings_eq⟩
  | upserted => exact ⟨he.succeeded, he.errors_eq, he.warnings_eq⟩

theorem Requests.succeeds (h : Requests settings catalog c r events (.ok e)) :
    Succeeds c.warnings e := by
  generalize hresult : Except.ok e = result at h
  cases h with
  | unsent _ => exact nomatch hresult
  | unreadable _ _ => exact nomatch hresult
  | answered _ ht ha =>
    subst hresult
    exact ha.succeeds (ht.succeeds ⟨rfl, rfl, rfl⟩)

/-- **A success has no errors and the warnings of the compilation.** -/
theorem Works.succeeds (h : Works settings submission events (.ok e)) :
    ∃ c, CompiledIn settings submission events c ∧ Succeeds c.warnings e := by
  cases h with
  | invocation hread ho h =>
    cases h with
    | compiled hc _ h => exact ⟨_, .invocation hread ho hc, h.succeeds ⟨rfl, rfl, rfl⟩⟩
  | resolved hread _ _ h =>
    cases h with
    | compiled hc _ h => exact ⟨_, .request hread hc, h.succeeds⟩

/-! ## The order of the calls -/

/-- Behind the request there may be the call for deletions. -/
theorem Requests.calls (h : Requests settings catalog c r events outcome) :
    ∃ start stop, Event.calls events
      <+: [r.call, .deletedBetween c.directive.targetType start stop] := by
  cases h with
  | unsent h =>
    refine ⟨"", "", ?_⟩
    cases h with
    | failed => exact ⟨_, rfl⟩
    | refused _ => exact ⟨_, rfl⟩
  | unreadable h _ =>
    obtain ⟨rfl, -⟩ := h.of_ok
    exact ⟨"", "", _, rfl⟩
  | answered h _ ha =>
    obtain ⟨rfl, -⟩ := h.of_ok
    cases ha with
    | full _ => exact ⟨"", "", _, rfl⟩
    | clockFailed _ => exact ⟨"", "", _, rfl⟩
    | windowFailed _ _ => exact ⟨"", "", _, rfl⟩
    | feedFailed _ _ => exact ⟨_, _, [], rfl⟩
    | merged _ _ => exact ⟨_, _, [], rfl⟩

/-- **The calls of a submission are in order.** -/
theorem Works.inOrder (h : Works settings submission events outcome) :
    InOrder settings submission events where
  malformed x hread := (h.of_malformed hread).1
  unknown d x hread ho := by
    rcases h.of_read hread with ⟨_, -, hnil, -⟩ | ⟨ho', -⟩ | ⟨_, ho', -⟩
    · exact hnil
    · exact nomatch ho.symm.trans ho'
    · exact nomatch ho.symm.trans ho'
  invocation d hread ho := by
    rcases h.of_read hread with ⟨_, ho', -⟩ | ⟨-, h⟩ | ⟨o, ho', hne, -⟩
    · exact nomatch ho.symm.trans ho'
    · cases h with
      | refused _ => exact .inl rfl
      | compiled hc ha h =>
        refine .inr ⟨_, _, .invocation hread ho hc, ha, ?_⟩
        cases h <;> rfl
    · exact absurd (Except.ok.inj (ho.symm.trans ho')).symm hne
  known d o hread ho hne := by
    rcases h.of_read hread with
      ⟨_, ho', -⟩ | ⟨ho', -⟩ | ⟨_, -, -, ⟨f, rfl, -⟩ | ⟨catalog, rest, rfl, hon⟩⟩
    · exact nomatch ho.symm.trans ho'
    · exact absurd (Except.ok.inj (ho.symm.trans ho')) hne
    · exact .inl rfl
    · cases hon with
      | clockFailed => exact .inl rfl
      | refused _ => exact .inl rfl
      | compiled hc ha h =>
        obtain ⟨start, stop, hcalls⟩ := h.calls
        rw [(Compile.compile_isRequest ho hne hc).target_eq] at hcalls
        refine .inr ⟨_, _, start, stop, .request hread hc, ha, ?_⟩
        exact List.prefix_cons_inj _ |>.2 hcalls

variable {σ : Type}

/-- **The protocol of a bridge.**  Take any bridge whose remote side knows its
types, and any submission.  The calls that are recorded are those among the
events, and they are in order.  Once a failure has been raised nothing more is
asked of a collaborator, and the failure is the outcome.  An answer is a
success with exactly the warnings of the compilation, or the error that was
raised, and then nothing else. -/
theorem handle_protocol (b : Bridge σ) (hknows : b.remote.KnowsTypes) (submission : Submission)
    (s : σ) :
    (b.recorded.handle submission (s, [])).2.2 = Event.calls (b.trace submission s) ∧
      InOrder b.settings submission (b.trace submission s) ∧
      (∀ before after f, b.trace submission s = before ++ after →
        Raised b.settings submission before f →
          after = [] ∧ (b.handle submission s).1.result = answered (.error f)) ∧
      ∀ e, (b.handle submission s).1.result = .ok e →
        (∃ c, CompiledIn b.settings submission (b.trace submission s) c ∧
          Succeeds c.warnings e) ∨
        ∃ x, Raised b.settings submission (b.trace submission s) (.error x) ∧
          e = { succeeded := false, errors := [x.toObject] } := by
  obtain ⟨-, hrecorded, outcome, hworks, hresult⟩ := b.handle_eq hknows submission s
  refine ⟨?_, hworks.inOrder, ?_, ?_⟩
  · rw [hrecorded]
  · intro before after f htrace hraised
    rw [htrace] at hworks
    obtain ⟨hafter, rfl⟩ := hworks.ends_of_raised hraised
    exact ⟨hafter, hresult⟩
  · intro e he
    rw [hresult] at he
    rcases outcome with (x | f) | e'
    · obtain rfl := Except.ok.inj he
      exact .inr ⟨x, hworks.raised, rfl⟩
    · exact nomatch he
    · obtain rfl := Except.ok.inj he
      exact .inl hworks.succeeds

/-- A remote side over no state that knows one type, answers a query with one
record and a cursor, and fails to tell the deletions. -/
def feedDown : Bridge Unit where
  settings := {}
  remote :=
    { catalog := fun name => pure (some (.ofFields (.text name) [{ name := .text "Name" },
        { name := .text "SystemModstamp", type := "datetime" }]))
      request := fun _ _ _ => pure
        { status := 200
          body := .object [("totalSize", .int 1), ("nextRecordsUrl", .text "/query/2"),
            ("records", .list [.object [("Id", .text "1")]])] }
      deletedBetween := fun _ _ _ => Flow.fail (.error (.reported .session "no feed" none))
      fetchDocument := fun _ => pure none
      upsertDocument := fun name _ _ => pure name }
  clock := pure 1715949000000

/-- A selection of what has changed since a time. -/
def changedSince : Submission := .directive
  { op := "SELECT", targetType := "Account", properties := some ["Name"],
    filter := some [("SystemModstamp",
      .object [("$gt", .instant ⟨⟨2024, 5, 17⟩, 12, 0, 0, 0, some 0⟩)])] }

theorem feedDown_knows : feedDown.remote.KnowsTypes := by
  intro name s h
  exact nomatch h

/-- `handle_protocol` where the deletions cannot be told behind a page. -/
theorem handle_protocol_feedDown :
    feedDown.remote.KnowsTypes ∧
      (feedDown.recorded.handle changedSince ((), [])).2.2
          = Event.calls (feedDown.trace changedSince ()) ∧
        InOrder feedDown.settings changedSince (feedDown.trace changedSince ()) ∧
        (∀ before after f, feedDown.trace changedSince () = before ++ after →
          Raised feedDown.settings changedSince before f →
            after = [] ∧ (feedDown.handle changedSince ()).1.result = answered (.error f)) ∧
        ∀ e, (feedDown.handle changedSince ()).1.result = .ok e →
          (∃ c, CompiledIn feedDown.settings changedSince (feedDown.trace changedSince ()) c ∧
            Succeeds c.warnings e) ∨
          ∃ x, Raised feedDown.settings changedSince (feedDown.trace changedSince ()) (.error x) ∧
            e = { succeeded := false, errors := [x.toObject] } :=
  ⟨feedDown_knows, handle_protocol feedDown feedDown_knows changedSince ()⟩

/-- The page was taken over, and the answer says nothing of it. -/
example : (feedDown.trace changedSince ()).length = 5 ∧
    ((feedDown.handle changedSince ()).1.result.toOption.map (·.results.isNone)) = some true := by
  decide +kernel

end Bridge
end RecordBridge
