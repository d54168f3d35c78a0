/-
# A selection in pages

A selection comes in pages: each answer names a cursor, and the next directive
goes on from it.  Over the whole run the records of all pages and the
tombstones of the deletions are handed on once each and in order
(`run_delivers`), because only the first page can be a delta: its tombstones
stand behind its own records and before the next page.

`Continues` threads the cursors and the state of the collaborators through the
pages; what it says of each page is `Handles.delivers`.
-/

import RecordBridge.Proofs.Bridge.Due

namespace RecordBridge

namespace Bridge

variable {σ : Type}

/-- Pages that follow one another: each goes on from the cursor of the page
before it, and from the state that this page left. -/
inductive Continues (b : Bridge σ) : Value → σ → List Page → Prop
  | stop {cursor : Value} {s : σ} : Continues b cursor s []
  | next {cursor : String} {submission : Submission} {d : Directive} {s s' : σ} {page : Page}
    {pages : List Page} (hne : cursor ≠ "") (hselects : Selects submission d)
    (hcursor : d.options.cursorId = some cursor) (h : Handles b submission s page s')
    (hrest : Continues b page.envelope.cursor s' pages) :
    Continues b (.text cursor) s (page :: pages)

/-- **The pages behind the first one** hand on their records and nothing else. -/
theorem Continues.delivers {b : Bridge σ} (hknows : b.remote.KnowsTypes) {cursor : Value} {s : σ}
    {pages : List Page} (h : Continues b cursor s pages) :
    ∃ records, List.Forall₂ (fun page rs => Delivers b.settings.recordMapping page [] rs [])
      pages records := by
  induction h with
  | stop => exact ⟨[], .nil⟩
  | next hne hselects hcursor h _ ih =>
    obtain ⟨c, feed, rs, ids, hc, hfeeds, hdelivers⟩ := h.delivers hknows hselects
    obtain ⟨records, hrecords⟩ := ih
    have hfull := hc.full_of_cursor hselects hcursor hne
    cases hfeeds with
    | full _ => exact ⟨rs :: records, .cons hdelivers hrecords⟩
    | delta hsince _ => exact nomatch hfull.symm.trans hsince

/-- The records and the calls of pages that hand on their records only. -/
theorem flatMap_of_delivers {mapping : RecordMapping} {pages : List Page}
    {records : List (List Object)}
    (h : List.Forall₂ (fun page rs => Delivers mapping page [] rs []) pages records) :
    pages.flatMap (fun page => page.envelope.results.getD []) = records.flatten ∧
      (pages.flatMap Page.events).countP Event.isFeed = 0 := by
  induction h with
  | nil => exact ⟨rfl, rfl⟩
  | cons hpage _ ih =>
    obtain ⟨hresults, hcount⟩ := ih
    constructor
    · rw [List.flatMap_cons, List.flatten_cons, hresults, hpage.results_eq, List.map_nil,
        List.append_nil]
    · rw [List.flatMap_cons, List.countP_append, hcount, hpage.countP_isFeed]
      rfl

variable {submission : Submission} {d : Directive}

/-- **A run over pages delivers once and in order.**  Take a selection that
succeeds, and any number of pages that go on from it.  If the first compilation
is a delta, the deletions are asked for once in the whole run, else never, and
in no submission before they are due.  Each page hands on the records of its
own answer in their order, with the cursor and the count of that answer; the
tombstones stand between the records of the first page and those of the others;
and the results of all pages, put together, are these and nothing else. -/
theorem run_delivers (b : Bridge σ) (hknows : b.remote.KnowsTypes) {s s' : σ} {first : Page}
    {pages : List Page} (hselects : Selects submission d)
    (hfirst : Handles b submission s first s')
    (hrest : Continues b first.envelope.cursor s' pages) :
    (∀ submission s before x after, b.trace submission s = before ++ x :: after →
      x.isFeed = true → Due b.settings submission before) ∧
      ∃ c feed records ids later, CompiledIn b.settings submission first.events c ∧
        Feeds b.settings c feed ids ∧
        ((first :: pages).flatMap Page.events).countP Event.isFeed
          = (if c.deltaSince.isSome then 1 else 0) ∧
        Delivers b.settings.recordMapping first feed records ids ∧
        List.Forall₂ (fun page rs => Delivers b.settings.recordMapping page [] rs [])
          pages later ∧
        (first :: pages).flatMap (fun page => page.envelope.results.getD [])
          = records ++ ids.map Record.tombstone ++ later.flatten := by
  constructor
  · intro submission s before x after htrace hx
    obtain ⟨-, -, outcome, hworks, -⟩ := b.handle_eq hknows submission s
    exact hworks.due hx htrace
  · obtain ⟨c, feed, records, ids, hc, hfeeds, hdelivers⟩ := hfirst.delivers hknows hselects
    obtain ⟨later, hlater⟩ := hrest.delivers hknows
    obtain ⟨hresults, hcount⟩ := flatMap_of_delivers hlater
    refine ⟨c, feed, records, ids, later, hc, hfeeds, ?_, hdelivers, hlater, ?_⟩
    · rw [List.flatMap_cons, List.countP_append, hcount, Nat.add_zero, hdelivers.countP_isFeed,
        hfeeds.countP_isFeed]
    · rw [List.flatMap_cons, hdelivers.results_eq, hresults]

/-- A remote side that counts its requests.  It has two pages of records, and
two records were deleted. -/
def twoPages : Bridge Nat where
  settings := {}
  remote :=
    { catalog := fun name => pure (some (.ofFields (.text name) [{ name := .text "Name" },
        { name := .text "SystemModstamp", type := "datetime" }]))
      request := fun _ _ _ n =>
        (⟨.ok
          { status := 200
            body := .object (if n = 0 then
                [("totalSize", .int 2), ("nextRecordsUrl", .text "/query/2"),
                  ("records", .list [.object [("Id", .text "1")]])]
              else
                [("totalSize", .int 2), ("records", .list [.object [("Id", .text "2")]])]) }, []⟩,
          n + 1)
      deletedBetween := fun _ _ _ => pure [.text "3", .text "4"]
      fetchDocument := fun _ => pure none
      upsertDocument := fun name _ _ => pure name }
  clock := pure 1715949000000

/-- The directive for the first page: what has changed since a time. -/
def firstPage : Directive :=
  { op := "SELECT", targetType := "Account", properties := some ["Name"],
    filter := some [("SystemModstamp",
      .object [("$gt", .instant ⟨⟨2024, 5, 17⟩, 12, 0, 0, 0, some 0⟩)])] }

/-- The directive that goes on from there. -/
def nextPage : Directive :=
  { firstPage with options := { cursorId := some "/query/2" } }

/-- The page that a directive comes to. -/
def pageOf {σ : Type} (b : Bridge σ) (d : Directive) (s : σ) : Page :=
  ⟨b.trace (.directive d) s, (b.handle (.directive d) s).1.result.toOption.getD {}⟩

theorem handles_pageOf {b : Bridge σ} {d : Directive} {s s' : σ}
    (hok : (b.handle (.directive d) s).1.result.toOption.any Envelope.succeeded = true)
    (hs : (b.handle (.directive d) s).2 = s') : Handles b (.directive d) s (pageOf b d s) s' := by
  unfold pageOf
  cases hr : (b.handle (.directive d) s).1.result with
  | error f =>
    rw [hr] at hok
    exact nomatch hok
  | ok e =>
    rw [hr] at hok
    exact ⟨rfl, hr, hs, hok⟩

/-- The first page of the run. -/
def openingPage : Page := pageOf twoPages firstPage 0

/-- The page behind it. -/
def closingPage : Page := pageOf twoPages nextPage 1

/-- `run_delivers` over two pages with two deletions. -/
theorem run_delivers_twoPages :
    Handles twoPages (.directive firstPage) 0 openingPage 1 ∧
      Continues twoPages openingPage.envelope.cursor 1 [closingPage] ∧
        (∀ submission s before x after, twoPages.trace submission s = before ++ x :: after →
          x.isFeed = true → Due twoPages.settings submission before) ∧
          ∃ c feed records ids later,
            CompiledIn twoPages.settings (.directive firstPage) openingPage.events c ∧
              Feeds twoPages.settings c feed ids ∧
              ([openingPage, closingPage].flatMap Page.events).countP Event.isFeed
                = (if c.deltaSince.isSome then 1 else 0) ∧
              Delivers twoPages.settings.recordMapping openingPage feed records ids ∧
              List.Forall₂
                (fun page rs => Delivers twoPages.settings.recordMapping page [] rs [])
                [closingPage] later ∧
              [openingPage, closingPage].flatMap (fun page => page.envelope.results.getD [])
                = records ++ ids.map Record.tombstone ++ later.flatten := by
  have hknows : twoPages.remote.KnowsTypes := by
    intro name s h
    exact nomatch h
  have hfirst : Handles twoPages (.directive firstPage) 0 openingPage 1 :=
    handles_pageOf (by decide +kernel) (by decide +kernel)
  have hnext : Handles twoPages (.directive nextPage) 1 closingPage 2 :=
    handles_pageOf (by decide +kernel) (by decide +kernel)
  have hcursor : openingPage.envelope.cursor = .text "/query/2" := by decide +kernel
  have hrest : Continues twoPages openingPage.envelope.cursor 1 [closingPage] := by
    rw [hcursor]
    exact .next (by decide) ⟨rfl, rfl⟩ rfl hnext .stop
  have hselects : Selects (.directive firstPage) firstPage := ⟨rfl, rfl⟩
  exact ⟨hfirst, hrest, run_delivers twoPages hknows hselects hfirst hrest⟩

/-- The deletions stand between the two records. -/
example : ([openingPage, closingPage].flatMap fun page => page.envelope.results.getD []).map
    (fun record => record.get? Record.externalId)
      = [some (.text "1"), some (.text "3"), some (.text "4"), some (.text "2")] := by
  decide +kernel

end Bridge
end RecordBridge
