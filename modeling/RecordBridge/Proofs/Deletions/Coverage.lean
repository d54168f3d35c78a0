/-
# The window of deletions covers the query

A delta is asked for in two ways: its query finds the records that changed
after a lower bound, and a window of deletions the records that are gone.  A
record that is deleted between the bound of the query and the start of the
window is found by neither.

There is no such gap (`window_covers_query`).  The query writes its bound to
the second, and never after it; the window starts on a whole second that is
not later, however wide it has to be, and ends on the last whole second of the
current time.  The two meet in one lemma about numbers of milliseconds: what
is written for one denotes its second (`denotes_floorSecond`).
-/

import RecordBridge.Deletions.Reconcile
import RecordBridge.Proofs.Compile.Query
import RecordBridge.Proofs.Condition.Demands
import RecordBridge.Proofs.Time.Reading

namespace RecordBridge
namespace Deletions

open Time (InCalendar Denotes)

/-! ### The window -/

theorem floorSecond_eq (millis : Int) : floorSecond millis = millis / 1000 * 1000 := by
  unfold floorSecond
  omega

theorem inCalendar_floorSecond {millis : Int} :
    InCalendar (floorSecond millis) ↔ InCalendar millis := by
  have hday : floorSecond millis / 86400000 = millis / 86400000 := by
    unfold floorSecond
    omega
  rw [InCalendar, InCalendar, hday]

/-- The literal of milliseconds denotes their second. -/
theorem denotes_floorSecond {millis : Int} (h : InCalendar millis) :
    Denotes (Time.secondLiteral (millis / 1000)) (floorSecond millis) := by
  rw [floorSecond_eq]
  apply Time.denotes_secondLiteral
  rwa [← floorSecond_eq, inCalendar_floorSecond]

namespace Window

theorem start_between (minWidth since now : Int) :
    (between minWidth since now).start
      = if floorSecond now - floorSecond since < minWidth then
          floorSecond (floorSecond now - minWidth)
        else floorSecond since := by
  unfold between
  dsimp only
  split <;> rfl

/-- Whether a window leaves no gap after a lower bound: it starts on a whole
second no later than that of the bound, and ends on the second of the current
time. -/
structure Covers (w : Window) (since now : Int) : Prop where
  start_whole : w.start % 1000 = 0
  start_le : w.start ≤ floorSecond since
  stop_eq : w.stop = floorSecond now

/-- However wide a window has to be, it leaves no gap. -/
theorem covers_between (minWidth since now : Int) :
    (between minWidth since now).Covers since now where
  start_whole := by
    rw [start_between]
    unfold floorSecond
    split <;> omega
  start_le := by
    rw [start_between]
    unfold floorSecond
    split <;> omega
  stop_eq := stop_between minWidth since now

theorem Covers.mem {w : Window} {since now : Int} (h : w.Covers since now) {t : Int}
    (hfrom : floorSecond since ≤ t) (hto : t ≤ floorSecond now) : w.start ≤ t ∧ t ≤ w.stop :=
  ⟨h.start_le.trans hfrom, h.stop_eq ▸ hto⟩

/-- The times of the calendar have texts, and no others do. -/
theorem timeText_eq_ok_iff {millis : Int} {text : String} :
    timeText millis = .ok text ↔ InCalendar millis ∧ text = Time.secondLiteral (millis / 1000) :=
  Time.Epoch.literal_ofMillis_iff

/-- What the text of a time denotes is the second of that time. -/
theorem denotes_timeText {millis : Int} {text : String} (h : timeText millis = .ok text) :
    Denotes text (floorSecond millis) := by
  obtain ⟨hcalendar, rfl⟩ := timeText_eq_ok_iff.1 h
  exact denotes_floorSecond hcalendar

theorem texts_eq_ok_iff {w : Window} {ends : String × String} :
    w.texts = .ok ends ↔ timeText w.start = .ok ends.1 ∧ timeText w.stop = .ok ends.2 := by
  unfold texts startText stopText
  constructor
  · intro h
    obtain ⟨start, hstart, h⟩ := Outcome.bind_eq_ok_iff.1 h
    obtain ⟨stop, hstop, h⟩ := Outcome.bind_eq_ok_iff.1 h
    obtain rfl := Except.ok.inj h
    exact ⟨hstart, hstop⟩
  · rintro ⟨hstart, hstop⟩
    rw [hstart, hstop]
    rfl

end Window

/-! ### The calls -/

variable {σ : Type}

/-- The calls of a remote side by which deletions are found. -/
def calls (minWidth : Int) (remote : Remote σ) (typeName : String) (since now : Int)
    (records : List Object) (s : σ) : List RemoteCall :=
  (reconcile minWidth remote.recorded typeName since now records (s, [])).2.2

/-- There is one call, with both ends of the window, if they have texts. -/
theorem calls_eq (minWidth : Int) (remote : Remote σ) (typeName : String) (since now : Int)
    (records : List Object) (s : σ) :
    calls minWidth remote typeName since now records s
      = match (Window.between minWidth since now).texts with
        | .ok ends => [.deletedBetween typeName ends.1 ends.2]
        | .error _ => [] := by
  unfold calls reconcile
  cases (Window.between minWidth since now).texts with
  | error fault => rfl
  | ok ends =>
    have hcall : Remote.note (.deletedBetween typeName ends.1 ends.2)
        (remote.deletedBetween typeName ends.1 ends.2) (s, [])
          = ((remote.deletedBetween typeName ends.1 ends.2 s).1,
              ((remote.deletedBetween typeName ends.1 ends.2 s).2,
                [.deletedBetween typeName ends.1 ends.2])) := rfl
    have hends : (Flow.ofExcept (Except.mapError Failure.time (.ok ends)) : Flow _ _) (s, [])
        = (⟨.ok ends, []⟩, ((s, []) : σ × List RemoteCall)) := rfl
    rw [Flow.andThen_apply hends]
    dsimp only [Remote.recorded]
    rw [Flow.andThen_apply hcall]
    cases (remote.deletedBetween typeName ends.1 ends.2 s).1.result with
    | error f => rfl
    | ok ids =>
      dsimp only
      split <;> rfl

/-- **Deletions are asked for between the seconds of the window, exactly if the
calendar has both of its ends.** -/
theorem calls_denote (minWidth : Int) (remote : Remote σ) (typeName : String) (since now : Int)
    (records : List Object) (s : σ) :
    let w := Window.between minWidth since now
    (InCalendar w.start → InCalendar now → ∃ start stop,
      calls minWidth remote typeName since now records s = [.deletedBetween typeName start stop] ∧
        Denotes start w.start ∧ Denotes stop w.stop) ∧
    (¬ (InCalendar w.start ∧ InCalendar now) →
      calls minWidth remote typeName since now records s = []) := by
  have hcovers := Window.covers_between minWidth since now
  rw [calls_eq]
  generalize Window.between minWidth since now = w at hcovers ⊢
  have hstop : InCalendar w.stop ↔ InCalendar now := by
    rw [hcovers.stop_eq, inCalendar_floorSecond]
  have hstart_floor : floorSecond w.start = w.start := by
    rw [floorSecond, hcovers.start_whole, sub_zero]
  have hstop_floor : floorSecond w.stop = w.stop := by
    rw [hcovers.stop_eq]
    unfold floorSecond
    omega
  constructor
  · intro hstart hnow
    have hfirst := Window.timeText_eq_ok_iff.2 ⟨hstart, rfl⟩
    have hlast := Window.timeText_eq_ok_iff.2 ⟨hstop.2 hnow, rfl⟩
    have htexts : w.texts = .ok (_, _) := Window.texts_eq_ok_iff.2 ⟨hfirst, hlast⟩
    have hdenotes := Window.denotes_timeText hfirst
    have hdenotes' := Window.denotes_timeText hlast
    rw [hstart_floor] at hdenotes
    rw [hstop_floor] at hdenotes'
    rw [htexts]
    exact ⟨_, _, rfl, hdenotes, hdenotes'⟩
  · intro hout
    cases htexts : w.texts with
    | error fault => rfl
    | ok ends =>
      obtain ⟨hfirst, hlast⟩ := Window.texts_eq_ok_iff.1 htexts
      exact absurd ⟨(Window.timeText_eq_ok_iff.1 hfirst).1,
        hstop.1 (Window.timeText_eq_ok_iff.1 hlast).1⟩ hout

/-! ### The bound of the query -/

variable {settings : Settings} {catalog : Catalog} {now since : Int} {d : Directive}
  {filter : Object} {c : Compiled}

/-- Whether a directive is a delta: a selection without a cursor whose filter
has a lower bound in milliseconds on the time of the last change, which the
catalog has as a point in time, and the bound is within the retention. -/
structure IsDelta (settings : Settings) (catalog : Catalog) (now : Int) (d : Directive)
    (filter : Object) (since : Int) : Prop where
  operation : Compile.operationOf d = .ok .select
  cursor : ∀ cursor, d.options.cursorId = some cursor → cursor = ""
  field : ∃ f, catalog.get? settings.deltaField = some f ∧ f.isDateTime = true
  filter_eq : d.filter = some filter
  bound : ∃ condition, Entries.get? filter settings.deltaField = some (.object condition) ∧
    Entries.get? condition "$gt" = some (.int since)
  kept : now - since ≤ settings.retentionMillis

/-- A comparison of a field of points in time with a number of milliseconds
is written to the second, if the calendar has it. -/
theorem renderComparison_millis {f : Catalog.Field} {field leaf : String}
    (hfield : catalog.get? field = some f) (htime : f.isDateTime = true) :
    Filter.renderComparison catalog ⟨field, .gt, .int since⟩ = .ok leaf ↔
      InCalendar since ∧ leaf = field ++ ">" ++ Time.secondLiteral (since / 1000) := by
  have hoperand : Filter.renderOperand f ⟨field, .gt, .int since⟩
      = ((Time.Epoch.ofMillis since).map Time.Timestamp.literal).mapError Failure.time := by
    show Filter.literal f (.int since) = _
    unfold Filter.literal Filter.temporalLiteral?
    rw [if_pos htime]
    rfl
  unfold Filter.renderComparison
  rw [hfield]
  dsimp only
  rw [hoperand, Outcome.map_eq_ok_iff]
  simp only [Outcome.mapError_eq_ok_iff, Time.Epoch.literal_ofMillis_iff]
  constructor
  · rintro ⟨_, ⟨hcalendar, rfl⟩, rfl⟩
    exact ⟨hcalendar, rfl⟩
  · rintro ⟨hcalendar, rfl⟩
    exact ⟨_, ⟨hcalendar, rfl⟩, rfl⟩

namespace IsDelta

/-- The filter of a delta has conditions. -/
theorem givenFilter_eq (h : IsDelta settings catalog now d filter since) :
    Compile.givenFilter? d = some filter := by
  obtain ⟨condition, hcondition, -⟩ := h.bound
  rw [Compile.givenFilter?, h.filter_eq, Option.filter_eq_some_iff]
  cases filter with
  | nil => exact nomatch hcondition
  | cons e es => exact ⟨rfl, rfl⟩

/-- The bound of a delta is kept, and the filter with it. -/
theorem remaining_eq (h : IsDelta settings catalog now d filter since) :
    (Compile.remaining settings now d).result = .ok ⟨filter, some since⟩ := by
  obtain ⟨condition, hcondition, hbound⟩ := h.bound
  have hkept := h.kept
  have hfound : Compile.boundOf? settings.deltaField filter = some (.int since) := by
    unfold Compile.boundOf?
    rw [hcondition]
    dsimp only
    rw [hbound]
  rw [Compile.remaining, h.givenFilter_eq, Option.getD_some]
  unfold Compile.deltaBound
  dsimp only
  rw [hfound]
  refine Traced.bind_result_eq_ok_iff.2 ⟨some since, rfl, ?_⟩
  dsimp only
  rw [if_neg (by omega)]
  rfl

/-- The condition of a delta can be written exactly if the calendar has the
bound and the other comparisons can be written. -/
theorem exists_renderDocument_iff (h : IsDelta settings catalog now d filter since) :
    (∃ text, Filter.renderDocument catalog (.object filter) = .ok text) ↔
      InCalendar since ∧ Filter.RendersBeside catalog (.object filter)
        ⟨settings.deltaField, .gt, .int since⟩ := by
  obtain ⟨f, hfield, htime⟩ := h.field
  obtain ⟨condition, hcondition, hbound⟩ := h.bound
  constructor
  · rintro ⟨text, htext⟩
    obtain ⟨found, hparse⟩ := Filter.exists_parse_of_renderDocument htext
    obtain ⟨t, rfl, ht⟩ := Filter.demands_parse hparse hcondition (k := .gt) hbound
    rw [Filter.renderDocument_of_parse hparse] at htext
    have hleaves := (Filter.exists_render_iff catalog t).1 ⟨text, htext⟩
    obtain ⟨leaf, hleaf⟩ := hleaves _ ht.mem
    exact ⟨((renderComparison_millis hfield htime).1 hleaf).1, t, hparse,
      fun other hother _ => hleaves other hother⟩
  · rintro ⟨hcalendar, t, hparse, hothers⟩
    rw [Filter.renderDocument_of_parse hparse, Filter.exists_render_iff]
    intro other hother
    by_cases heq : other = ⟨settings.deltaField, .gt, .int since⟩
    · exact ⟨_, heq ▸ (renderComparison_millis hfield htime).2 ⟨hcalendar, rfl⟩⟩
    · exact hothers other hother heq

/-- A delta is compiled exactly if it has a list of properties, the calendar
has the bound, and the other comparisons can be written. -/
theorem exists_compile_iff (h : IsDelta settings catalog now d filter since) :
    (∃ c, (Compile.compile settings catalog now d).result = .ok c) ↔
      (∃ requested, d.properties = some requested) ∧ InCalendar since ∧
        Filter.RendersBeside catalog (.object filter)
          ⟨settings.deltaField, .gt, .int since⟩ := by
  obtain ⟨f, hfield, -⟩ := h.field
  have hdefault : settings.deltaField ∈ settings.defaultFields :=
    List.mem_cons_of_mem _ List.mem_cons_self
  have hasked : ∀ requested,
      Catalog.Gate.projection catalog requested settings.defaultFields ≠ [] := fun _ =>
    List.ne_nil_of_mem (Catalog.Gate.mem_projection hdefault (Option.isSome_of_eq_some hfield))
  rw [Compile.exists_compile_iff h.operation h.cursor, ← h.exists_renderDocument_iff,
    h.remaining_eq]
  constructor
  · rintro ⟨requested, bound, text, hrequested, -, hbound, htext⟩
    obtain rfl := Except.ok.inj hbound
    exact ⟨⟨requested, hrequested⟩, text, htext⟩
  · rintro ⟨⟨requested, hrequested⟩, text, htext⟩
    exact ⟨requested, _, text, hrequested, hasked requested, rfl, htext⟩

/-- The query of a delta requires the field to be after the second of the
bound. -/
theorem query_of_compile (h : IsDelta settings catalog now d filter since)
    (hc : (Compile.compile settings catalog now d).result = .ok c) :
    c.deltaSince = some since ∧
    ∃ properties text literal, Compile.IsQueryOf catalog d.targetType c properties text ∧
      Filter.Requires catalog c.directive.document text (settings.deltaField ++ ">" ++ literal) ∧
      Denotes literal (floorSecond since) := by
  obtain ⟨f, hfield, htime⟩ := h.field
  obtain ⟨condition, hcondition, hbound⟩ := h.bound
  obtain ⟨requested, -, hne, hquery⟩ := Compile.compileQuery_of_compile h.operation h.cursor hc
  obtain ⟨bound, text, hremains, htext, hpage⟩ := Compile.eq_firstPage_of_compileQuery hquery
  obtain rfl := Except.ok.inj (h.remaining_eq.symm.trans hremains)
  obtain ⟨found, hparse⟩ := Filter.exists_parse_of_renderDocument htext
  obtain ⟨t, rfl, ht⟩ := Filter.demands_parse hparse hcondition (k := .gt) hbound
  obtain ⟨leaf, hleaf, hrequires⟩ := Filter.requires_of_demands hparse ht htext
  obtain ⟨hcalendar, rfl⟩ := (renderComparison_millis hfield htime).1 hleaf
  have hdocument : c.directive.document = .object filter := by
    rw [hpage, Directive.document, Compile.firstPage, h.givenFilter_eq]
    rfl
  exact ⟨hpage ▸ rfl, _, text, _, hpage ▸ Compile.isQueryOf_firstPage hne hremains htext,
    hdocument ▸ hrequires, denotes_floorSecond hcalendar⟩

end IsDelta

/-- **The window of deletions covers the query.**  A delta is compiled exactly
if it has a list of properties, the calendar has its bound, and the other
comparisons of its filter can be written.  Its query then requires the field
to be after the second of the bound.  And at any time, for any least width,
the window from the bound starts on a whole second that is no later than that,
and ends on the second of the current time; these two seconds are what
deletions are asked for, exactly if the calendar has both. -/
theorem window_covers_query (h : IsDelta settings catalog now d filter since) :
    ((∃ c, (Compile.compile settings catalog now d).result = .ok c) ↔
      (∃ requested, d.properties = some requested) ∧ InCalendar since ∧
        Filter.RendersBeside catalog (.object filter)
          ⟨settings.deltaField, .gt, .int since⟩) ∧
    (∀ c, (Compile.compile settings catalog now d).result = .ok c →
      c.deltaSince = some since ∧
      ∃ properties text literal, Compile.IsQueryOf catalog d.targetType c properties text ∧
        Filter.Requires catalog c.directive.document text
          (settings.deltaField ++ ">" ++ literal) ∧
        Denotes literal (floorSecond since)) ∧
    ∀ (remote : Remote σ) (s : σ) (typeName : String) (records : List Object) (later : Int),
      let w := Window.between settings.minDeltaWindow since later
      w.Covers since later ∧
      (∀ t, floorSecond since ≤ t → t ≤ floorSecond later → w.start ≤ t ∧ t ≤ w.stop) ∧
      (InCalendar w.start → InCalendar later → ∃ start stop,
        calls settings.minDeltaWindow remote typeName since later records s
          = [.deletedBetween typeName start stop] ∧
        Denotes start w.start ∧ Denotes stop w.stop) ∧
      (¬ (InCalendar w.start ∧ InCalendar later) →
        calls settings.minDeltaWindow remote typeName since later records s = []) := by
  refine ⟨h.exists_compile_iff, fun c hc => h.query_of_compile hc, ?_⟩
  intro remote s typeName records later w
  have hcovers := Window.covers_between settings.minDeltaWindow since later
  exact ⟨hcovers, fun t hfrom hto => hcovers.mem hfrom hto,
    calls_denote settings.minDeltaWindow remote typeName since later records s⟩

/-- A catalog with the time of the last change. -/
def stampedCatalog : Catalog :=
  .ofFields (.text "Account")
    [{ name := .text "Name" }, { name := .text "SystemModstamp", type := "datetime" }]

/-- A delta whose bound is the leap day of 2024 at 12:34:56.789. -/
def leapDayDirective : Directive :=
  { op := "SELECT"
    targetType := "Account"
    properties := some ["Name"]
    filter := some [("SystemModstamp", .object [("$gt", .int 1709210096789)])] }

/-- What it is compiled to. -/
def leapDayPage : Compiled :=
  { directive := { leapDayDirective with properties := some ["Name", "SystemModstamp"] }
    action := .request
      { method := .get
        resource := "query/?q=SELECT%20Name%2CSystemModstamp%20FROM%20Account%20WHERE%20"
          ++ "SystemModstamp%3E2024-02-29T12%3A34%3A56Z"
        expectedStatus := 200 }
    deltaSince := some 1709210096789 }

/-- It is one, four seconds later. -/
theorem leapDayDirective_isDelta :
    IsDelta {} stampedCatalog 1709210100000 leapDayDirective
      [("SystemModstamp", .object [("$gt", .int 1709210096789)])] 1709210096789 where
  operation := rfl
  cursor _ h := nomatch h
  field := ⟨{ name := .text "SystemModstamp", type := "datetime" }, by decide, by decide⟩
  filter_eq := rfl
  bound := ⟨_, rfl, rfl⟩
  kept := by decide +kernel

set_option maxRecDepth 4000 in
/-- `window_covers_query` for that delta: the window has to be wider, and starts
before the minute. -/
theorem window_covers_query_leapDay :
    IsDelta {} stampedCatalog 1709210100000 leapDayDirective
      [("SystemModstamp", .object [("$gt", .int 1709210096789)])] 1709210096789 ∧
      (Compile.compile {} stampedCatalog 1709210100000 leapDayDirective).result
        = .ok leapDayPage ∧
      (∃ properties text literal,
        Compile.IsQueryOf stampedCatalog "Account" leapDayPage properties text ∧
        Filter.Requires stampedCatalog leapDayPage.directive.document text
          ("SystemModstamp" ++ ">" ++ literal) ∧
        Denotes literal 1709210096000) ∧
      ∀ remote : Remote Unit, ∃ start stop,
        calls 60001 remote "Account" 1709210096789 1709210100250 [] ()
          = [.deletedBetween "Account" start stop] ∧
        Denotes start 1709210039000 ∧ Denotes stop 1709210100000 := by
  have hpage : (Compile.compile {} stampedCatalog 1709210100000 leapDayDirective).result
      = .ok leapDayPage := rfl
  obtain ⟨-, hquery, hwindow⟩ := window_covers_query (σ := Unit) leapDayDirective_isDelta
  refine ⟨leapDayDirective_isDelta, hpage, (hquery leapDayPage hpage).2, fun remote => ?_⟩
  obtain ⟨-, -, hcall, -⟩ := hwindow remote () "Account" [] 1709210100250
  exact hcall (by decide) (by decide)

end Deletions
end RecordBridge
