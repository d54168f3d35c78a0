/-
# The stages from behind

The rules of `Course`, read from the events.  A failure in an answer can only
stand at the end (`Works.stops`).  From what has been answered so far follows
which stage the work is in: with the catalog the directive is worked on, with
the time it is compiled, with the answer to the request that answer is taken
over.
-/

import RecordBridge.Proofs.Bridge.Course

namespace RecordBridge

namespace Bridge

variable {settings : Settings} {submission : Submission} {catalog : Catalog} {d : Directive}
  {c : Compiled} {r : Request} {answer : Answer} {e : Envelope} {events rest : List Event}
  {outcome : Except Failure Envelope}

/-! ## Failures of calls -/

/-- A failure in the answers is the last event and the outcome. -/
def Stops {α : Type} (events : List Event) (outcome : Except Failure α) : Prop :=
  ∀ before last after f, events = before ++ last :: after → last.failure? = some f →
    after = [] ∧ outcome = .error f

theorem Stops.nil {α : Type} {outcome : Except Failure α} : Stops [] outcome := by
  intro before last after f h _
  exact absurd h.symm (by simp)

theorem Stops.last {α : Type} {outcome : Except Failure α} {x : Event}
    (h : ∀ f, x.failure? = some f → outcome = .error f) : Stops [x] outcome := by
  intro before last after f hx hf
  cases before with
  | nil =>
    obtain ⟨rfl, rfl⟩ := List.cons.inj hx
    exact ⟨rfl, h f hf⟩
  | cons y ys => exact absurd (List.cons.inj hx).2.symm (by simp)

theorem Stops.cons {α : Type} {outcome : Except Failure α} {x : Event} {events : List Event}
    (hx : x.failure? = none) (h : Stops events outcome) : Stops (x :: events) outcome := by
  intro before last after f heq hf
  cases before with
  | nil =>
    obtain ⟨rfl, -⟩ := List.cons.inj heq
    rw [hx] at hf
    exact nomatch hf
  | cons y ys => exact h ys last after f (List.cons.inj heq).2 hf

theorem AddsDeletions.stops (h : AddsDeletions settings c e events outcome) :
    Stops events outcome := by
  cases h with
  | full _ => exact .nil
  | clockFailed _ => exact .last fun f hf => congrArg _ (Option.some.inj hf)
  | windowFailed _ _ => exact .last fun f hf => nomatch hf
  | feedFailed _ _ => exact .cons rfl (.last fun f hf => congrArg _ (Option.some.inj hf))
  | merged _ _ => exact .cons rfl (.last fun f hf => nomatch hf)

/-- What was sent for a request and answered as expected. -/
theorem Sends.of_ok (h : Sends r events (.ok answer)) :
    events = [.ofRequest r (.ok answer)] ∧ answer.status = r.expectedStatus := by
  cases h with
  | accepted h => exact ⟨rfl, h⟩

theorem Requests.stops (h : Requests settings catalog c r events outcome) :
    Stops events outcome := by
  cases h with
  | unsent h =>
    cases h with
    | failed => exact .last fun f hf => congrArg _ (Option.some.inj hf)
    | refused _ => exact .last fun f hf => nomatch hf
  | unreadable h _ =>
    obtain ⟨rfl, -⟩ := h.of_ok
    exact .last fun f hf => nomatch hf
  | answered h _ ha =>
    obtain ⟨rfl, -⟩ := h.of_ok
    exact .cons rfl ha.stops

theorem WorksOn.stops (h : WorksOn settings catalog d events outcome) : Stops events outcome := by
  cases h with
  | clockFailed => exact .last fun f hf => congrArg _ (Option.some.inj hf)
  | refused _ => exact .last fun f hf => nomatch hf
  | compiled _ _ h => exact .cons rfl h.stops

theorem RunsDocument.stops {i : DocumentInvoke} (h : RunsDocument e i events outcome) :
    Stops events outcome := by
  cases h with
  | fetchFailed => exact .last fun f hf => congrArg _ (Option.some.inj hf)
  | upsertFailed => exact .last fun f hf => congrArg _ (Option.some.inj hf)
  | notFound => exact .last fun f hf => nomatch hf
  | found => exact .last fun f hf => nomatch hf
  | upserted => exact .last fun f hf => nomatch hf

/-- **The first failure of a call is the last event.** -/
theorem Works.stops (h : Works settings submission events outcome) : Stops events outcome := by
  cases h with
  | malformed _ => exact .nil
  | unknown _ _ => exact .nil
  | invocation _ _ h =>
    cases h with
    | refused _ => exact .nil
    | compiled _ _ h => exact h.stops
  | unresolved _ _ _ => exact .last fun f hf => congrArg _ (Option.some.inj hf)
  | resolved _ _ _ h => exact .cons rfl h.stops

/-! ## The stage that is reached -/

theorem Works.of_malformed {x : Directive.Error} (hread : submission.read = .error x)
    (h : Works settings submission events outcome) :
    events = [] ∧ outcome = .error (.directive x) := by
  cases h with
  | malformed hread' =>
    obtain rfl := Except.error.inj (hread.symm.trans hread')
    exact ⟨rfl, rfl⟩
  | unknown hread' _ => exact nomatch hread.symm.trans hread'
  | invocation hread' _ _ => exact nomatch hread.symm.trans hread'
  | unresolved hread' _ _ => exact nomatch hread.symm.trans hread'
  | resolved hread' _ _ _ => exact nomatch hread.symm.trans hread'

/-- What is done for a directive is decided by its operation. -/
theorem Works.of_read (hread : submission.read = .ok d)
    (h : Works settings submission events outcome) :
    (∃ x, Compile.operationOf d = .error x ∧ events = [] ∧ outcome = .error (.directive x)) ∨
      (Compile.operationOf d = .ok .invoke ∧ Invokes settings d events outcome) ∨
        ∃ o, Compile.operationOf d = .ok o ∧ o ≠ .invoke ∧
          ((∃ f, events = [.catalog d.targetType (.error f)] ∧ outcome = .error f) ∨
            ∃ catalog rest, events = .catalog d.targetType (.ok (some catalog)) :: rest ∧
              WorksOn settings catalog d rest outcome) := by
  cases h with
  | malformed hread' => exact nomatch hread.symm.trans hread'
  | unknown hread' ho =>
    obtain rfl := Except.ok.inj (hread.symm.trans hread')
    exact .inl ⟨_, ho, rfl, rfl⟩
  | invocation hread' ho h =>
    obtain rfl := Except.ok.inj (hread.symm.trans hread')
    exact .inr (.inl ⟨ho, h⟩)
  | unresolved hread' ho hne =>
    obtain rfl := Except.ok.inj (hread.symm.trans hread')
    exact .inr (.inr ⟨_, ho, hne, .inl ⟨_, rfl, rfl⟩⟩)
  | resolved hread' ho hne h =>
    obtain rfl := Except.ok.inj (hread.symm.trans hread')
    exact .inr (.inr ⟨_, ho, hne, .inr ⟨_, _, rfl, h⟩⟩)

/-- A directive whose catalog was found is worked on. -/
theorem Works.of_catalog (hread : submission.read = .ok d)
    (h : Works settings submission (.catalog d.targetType (.ok (some catalog)) :: rest) outcome) :
    WorksOn settings catalog d rest outcome := by
  rcases h.of_read hread with ⟨x, -, hnil, -⟩ | ⟨-, h⟩ | ⟨o, -, -, ⟨f, hlast, -⟩ | ⟨_, _, heq, h⟩⟩
  · exact nomatch hnil
  · cases h with
    | compiled _ _ h => exact nomatch h
  · exact nomatch hlast
  · obtain ⟨hcatalog, rfl⟩ := List.cons.inj heq
    injection hcatalog with _ hcatalog
    obtain rfl := Option.some.inj (Except.ok.inj hcatalog)
    exact h

/-- With the time the directive is compiled. -/
theorem WorksOn.of_clock {now : Int}
    (h : WorksOn settings catalog d (.clock (.ok now) :: rest) outcome) :
    (∃ f, (Compile.compile settings catalog now d).result = .error f ∧ rest = [] ∧
      outcome = .error f) ∨
      ∃ c r, (Compile.compile settings catalog now d).result = .ok c ∧ c.action = .request r ∧
        Requests settings catalog c r rest outcome := by
  cases h with
  | refused hc => exact .inl ⟨_, hc, rfl, rfl⟩
  | compiled hc ha h => exact .inr ⟨_, _, hc, ha, h⟩

theorem ofRequest_cons_inj {answer' : Answer} {more : List Event}
    (h : Event.ofRequest r (.ok answer) :: rest = .ofRequest r (.ok answer') :: more) :
    answer = answer' ∧ rest = more := by
  obtain ⟨hevent, hrest⟩ := List.cons.inj h
  injection hevent with _ _ _ hanswer
  exact ⟨Except.ok.inj hanswer, hrest⟩

/-- With the answer to the request it is taken over. -/
theorem Requests.of_answer
    (h : Requests settings catalog c r (.ofRequest r (.ok answer) :: rest) outcome) :
    (answer.status ≠ r.expectedStatus ∧ rest = [] ∧ outcome = .error (unexpected r answer)) ∨
      answer.status = r.expectedStatus ∧
        ((∃ f, TakesOver settings catalog r answer { warnings := c.warnings } (.error f) ∧
          rest = [] ∧ outcome = .error f) ∨
          ∃ e, TakesOver settings catalog r answer { warnings := c.warnings } (.ok e) ∧
            AddsDeletions settings c e rest outcome) := by
  generalize hevents : Event.ofRequest r (.ok answer) :: rest = events at h
  cases h with
  | unsent h =>
    cases h with
    | failed => exact nomatch hevents
    | refused hstatus =>
      obtain ⟨rfl, rfl⟩ := ofRequest_cons_inj hevents
      exact .inl ⟨hstatus, rfl, rfl⟩
  | unreadable h ht =>
    obtain ⟨rfl, hstatus⟩ := h.of_ok
    obtain ⟨rfl, rfl⟩ := ofRequest_cons_inj hevents
    exact .inr ⟨hstatus, .inl ⟨_, ht, rfl, rfl⟩⟩
  | answered h ht ha =>
    obtain ⟨rfl, hstatus⟩ := h.of_ok
    obtain ⟨rfl, rfl⟩ := ofRequest_cons_inj hevents
    exact .inr ⟨hstatus, .inr ⟨_, ht, ha⟩⟩

end Bridge
end RecordBridge
