/-
# What a page hands on

A selection that succeeds hands on the records in the answer to its request,
each made generic, and behind them a tombstone for each deletion, if it is a
delta (`Handles.delivers`).  Cursor and count are those of the same answer,
with tombstones or without.
-/

import RecordBridge.Proofs.Bridge.Protocol
import RecordBridge.Proofs.Record.Generic

namespace RecordBridge

/-- The call for deletions. -/
def Event.isFeed : Event → Bool
  | .deletedBetween .. => true
  | _ => false

namespace Bridge

/-- The events of one submission, and its answer. -/
structure Page where
  events : List Event
  envelope : Envelope

/-- What a page hands on: the records in the answer to its request, each made
generic, and a tombstone for each of some identifiers.  What it asked for
behind the answer comes last. -/
inductive Delivers (mapping : RecordMapping) :
    Page → List Event → List Object → List Value → Prop
  | intro {typeName : String} {catalog : Catalog} {now : Int} {r : Request} {answer : Answer}
    {feed : List Event} {e : Envelope} {raw records : List Object} {ids : List Value}
    (hraw : Record.normalize (answer.field "records") = .ok raw)
    (hrecords : List.Forall₂ (fun x y => Record.materializeOne mapping catalog x = .ok y)
      raw records)
    (hresults : e.results = some (records ++ ids.map Record.tombstone))
    (hcursor : e.cursor = answer.field "nextRecordsUrl")
    (hcount : e.count = answer.field "totalSize") :
    Delivers mapping
      ⟨.catalog typeName (.ok (some catalog)) :: .clock (.ok now) :: .ofRequest r (.ok answer)
        :: feed, e⟩ feed records ids

/-- How the deletions are asked for: once if the directive is a delta, and not
at all if it is none. -/
inductive Feeds (settings : Settings) (c : Compiled) : List Event → List Value → Prop
  | full (h : c.deltaSince = none) : Feeds settings c [] []
  | delta {since now : Int} {start stop : String} {ids : List Value}
    (h : c.deltaSince = some since) (hw : windowTexts settings since now = .ok (start, stop)) :
    Feeds settings c
      [.clock (.ok now), .deletedBetween c.directive.targetType start stop (.ok ids)] ids

/-- A submission of a selection. -/
structure Selects (submission : Submission) (d : Directive) : Prop where
  read_eq : submission.read = .ok d
  operation_eq : Compile.operationOf d = .ok .select

variable {σ : Type}

/-- A submission that comes to a successful page, from a state to a state. -/
structure Handles (b : Bridge σ) (submission : Submission) (s : σ) (page : Page) (s' : σ) :
    Prop where
  events_eq : b.trace submission s = page.events
  result_eq : (b.handle submission s).1.result = .ok page.envelope
  state_eq : (b.handle submission s).2 = s'
  succeeded : page.envelope.succeeded = true

variable {settings : Settings} {submission : Submission} {catalog : Catalog} {d : Directive}
  {c : Compiled} {r : Request} {e : Envelope} {events feed : List Event} {ids : List Value}

/-- The records of a page, and tombstones behind them. -/
theorem Requests.delivers {typeName : String} {now : Int}
    (h : Requests settings catalog c r events (.ok e)) (hmethod : r.method = .get) :
    ∃ feed records ids, Feeds settings c feed ids ∧
      Delivers settings.recordMapping
        ⟨.catalog typeName (.ok (some catalog)) :: .clock (.ok now) :: events, e⟩
        feed records ids := by
  generalize hresult : Except.ok e = result at h
  cases h with
  | unsent _ => exact nomatch hresult
  | unreadable _ _ => exact nomatch hresult
  | answered h ht ha =>
    subst hresult
    obtain ⟨rfl, -⟩ := h.of_ok
    cases ht with
    | written hmethod' => exact absurd hmethod hmethod'
    | page _ hrecords =>
      unfold Record.materialize at hrecords
      obtain ⟨raw, hraw, hall⟩ := Outcome.bind_eq_ok_iff.1 hrecords
      have hraw := Outcome.mapError_eq_ok_iff.1 hraw
      have hall := Record.forall₂_of_materializeAll hall
      cases ha with
      | full hsince =>
        refine ⟨[], _, [], .full hsince, .intro hraw hall ?_ rfl rfl⟩
        rw [List.map_nil, List.append_nil]
        rfl
      | merged hsince hw => exact ⟨_, _, _, .delta hsince hw, .intro hraw hall rfl rfl rfl⟩

/-- **One page.**  A selection that succeeds hands on the records of its own
answer, and asks for deletions if it is a delta. -/
theorem Handles.delivers {b : Bridge σ} (hknows : b.remote.KnowsTypes) {s s' : σ} {page : Page}
    (h : Handles b submission s page s') (hselects : Selects submission d) :
    ∃ c feed records ids, CompiledIn b.settings submission page.events c ∧
      Feeds b.settings c feed ids ∧ Delivers b.settings.recordMapping page feed records ids := by
  obtain ⟨events, e⟩ := page
  obtain ⟨hevents, hresult, -, hsucceeded⟩ := h
  obtain ⟨-, -, outcome, hworks, houtcome⟩ := b.handle_eq hknows submission s
  rw [hevents] at hworks
  rw [hresult] at houtcome
  rcases outcome with (x | f) | e'
  · -- An error makes an answer, but no success.
    obtain rfl := Except.ok.inj houtcome
    exact absurd hsucceeded Bool.false_ne_true
  · exact nomatch houtcome
  · obtain rfl := Except.ok.inj houtcome
    have ho := hselects.operation_eq
    rcases hworks.of_read hselects.read_eq with
      ⟨x, ho', -⟩ | ⟨ho', -⟩ | ⟨o, -, -, ⟨f, -, hfail⟩ | ⟨catalog, rest, rfl, hon⟩⟩
    · exact nomatch ho.symm.trans ho'
    · exact nomatch ho.symm.trans ho'
    · exact nomatch hfail
    · cases hon with
      | compiled hc ha hrequests =>
        obtain ⟨r, hr, hmethod⟩ := (Compile.compile_isRequest ho (by decide) hc).action_eq
        obtain rfl := Action.request.inj (ha.symm.trans hr)
        obtain ⟨feed, records, ids, hfeeds, hdelivers⟩ :=
          hrequests.delivers (Option.some.inj hmethod)
        exact ⟨_, feed, records, ids, .request hselects.read_eq hc, hfeeds, hdelivers⟩

theorem CompiledIn.full_of_cursor {cursor : String} (h : CompiledIn settings submission events c)
    (hselects : Selects submission d) (hcursor : d.options.cursorId = some cursor)
    (hne : cursor ≠ "") : c.deltaSince = none := by
  have ho := hselects.operation_eq
  cases h with
  | invocation hread ho' _ =>
    obtain rfl := Except.ok.inj (hselects.read_eq.symm.trans hread)
    exact nomatch ho.symm.trans ho'
  | request hread hc =>
    obtain rfl := Except.ok.inj (hselects.read_eq.symm.trans hread)
    exact Compile.deltaSince_of_cursor ho hcursor hne hc

theorem Delivers.results_eq {mapping : RecordMapping} {page : Page} {records : List Object}
    (h : Delivers mapping page feed records ids) :
    page.envelope.results.getD [] = records ++ ids.map Record.tombstone := by
  obtain ⟨_, _, hresults, _, _⟩ := h
  rw [hresults, Option.getD_some]

theorem Delivers.countP_isFeed {mapping : RecordMapping} {page : Page} {records : List Object}
    (h : Delivers mapping page feed records ids) :
    page.events.countP Event.isFeed = feed.countP Event.isFeed := by
  obtain ⟨_, _, _, _, _⟩ := h
  rfl

theorem Feeds.countP_isFeed (h : Feeds settings c feed ids) :
    feed.countP Event.isFeed = if c.deltaSince.isSome then 1 else 0 := by
  cases h with
  | full h =>
    rw [h]
    rfl
  | delta h _ =>
    rw [h]
    rfl

end Bridge
end RecordBridge
