/-
# A bridge under observation

What a bridge does is what it asks of its collaborators, in order, and what it
makes of their answers.  A watched bridge does the same over a state with a
list of events: each reading of the clock and each call of the remote side is
an event, together with its answer.  A recorded bridge notes the calls alone,
as `Remote.recorded` does.

`Flow.Watches x z y P` says so of one computation: the watched `x` and the
recorded `z` come to the same outcome and state as `y`, `x` adds some events to
those there are and `z` the calls among them, and these events and the outcome
are as `P` says.  It is closed under sequencing, so each part of a bridge needs
to be looked at once.
-/

import RecordBridge.Bridge.Basic
import RecordBridge.Proofs.Outcome

namespace RecordBridge

/-- Something that was asked of a collaborator, with the answer. -/
inductive Event
  | clock (answer : Except Failure Int)
  | catalog (typeName : String) (answer : Except Failure (Option Catalog))
  | request (method resource : String) (body : Option Object) (answer : Except Failure Answer)
  | deletedBetween (typeName start stop : String) (answer : Except Failure (List Value))
  | fetchDocument (name : String) (answer : Except Failure (Option Document))
  | upsertDocument (name contentType content : String) (answer : Except Failure String)

namespace Event

/-- The call of the remote side; a reading of the clock is none. -/
def call? : Event → Option RemoteCall
  | .clock _ => none
  | .catalog typeName _ => some (.catalog typeName)
  | .request method resource body _ => some (.request method resource body)
  | .deletedBetween typeName start stop _ => some (.deletedBetween typeName start stop)
  | .fetchDocument name _ => some (.fetchDocument name)
  | .upsertDocument name contentType content _ => some (.upsertDocument name contentType content)

/-- The failure in an answer. -/
def failureIn {α : Type} : Except Failure α → Option Failure
  | .error f => some f
  | .ok _ => none

/-- The failure that was answered. -/
def failure? : Event → Option Failure
  | .clock r => failureIn r
  | .catalog _ r => failureIn r
  | .request _ _ _ r => failureIn r
  | .deletedBetween _ _ _ r => failureIn r
  | .fetchDocument _ r => failureIn r
  | .upsertDocument _ _ _ r => failureIn r

/-- The calls of the remote side among events, in order. -/
def calls (events : List Event) : List RemoteCall := events.filterMap call?

theorem calls_append (xs ys : List Event) : calls (xs ++ ys) = calls xs ++ calls ys :=
  List.filterMap_append

end Event

namespace Flow

variable {σ α β : Type}

/-- A computation whose outcome is noted as an event. -/
def watched (event : Except Failure α → Event) (x : Flow σ α) : Flow (σ × List Event) α := fun s =>
  let (out, s1) := x s.1
  (out, (s1, s.2 ++ [event out.result]))

/-- A watched and a recorded computation beside the computation itself. -/
def Watches (x : Flow (σ × List Event) α) (z : Flow (σ × List RemoteCall) α) (y : Flow σ α)
    (P : List Event → Except Failure α → Prop) : Prop :=
  ∀ s events calls, ∃ new, x (s, events) = ((y s).1, ((y s).2, events ++ new)) ∧
    z (s, calls) = ((y s).1, ((y s).2, calls ++ Event.calls new)) ∧ P new (y s).1.result

/-- The outcome of an attempt. -/
def attempted : Except Failure α → Except Failure (Except DirectiveError α)
  | .ok a => .ok (.ok a)
  | .error (.error e) => .ok (.error e)
  | .error (.fault f) => .error (.fault f)

namespace Watches

variable {P : List Event → Except Failure β → Prop} {x x' : Flow (σ × List Event) β}
  {z z' : Flow (σ × List RemoteCall) β} {y y' : Flow σ β}
  {f : α → Flow (σ × List Event) β} {k : α → Flow (σ × List RemoteCall) β} {g : α → Flow σ β}

theorem ofTraced {t : Traced β} (h : P [] t.result) :
    Watches (σ := σ) (Flow.ofTraced t) (Flow.ofTraced t) (Flow.ofTraced t) P := by
  intro s events calls
  refine ⟨[], ?_, ?_, h⟩
  · rw [List.append_nil]
    rfl
  · rw [Event.calls, List.filterMap_nil, List.append_nil]
    rfl

theorem pure {b : β} (h : P [] (.ok b)) :
    Watches (σ := σ) (Pure.pure b) (Pure.pure b) (Pure.pure b) P :=
  ofTraced (t := Pure.pure b) h

/-- A weaker description is a description. -/
theorem mono {Q : List Event → Except Failure β → Prop} (h : Watches x z y Q)
    (hQ : ∀ events r, Q events r → P events r) : Watches x z y P := by
  intro s events calls
  obtain ⟨new, hx, hz, hnew⟩ := h s events calls
  exact ⟨new, hx, hz, hQ new _ hnew⟩

/-- What is watched is one event, and its answer is the outcome. -/
theorem call {event : Except Failure β → Event} {c : RemoteCall}
    (hcall : ∀ r, (event r).call? = some c)
    (h : ∀ s, P [event (y s).1.result] (y s).1.result) :
    Watches (y.watched event) (Remote.note c y) y P := by
  intro s events calls
  refine ⟨_, rfl, ?_, h s⟩
  rw [Event.calls, List.filterMap_cons_some (hcall _), List.filterMap_nil]
  rfl

/-- A reading of the clock is an event, and no call. -/
theorem clock {y : Flow σ Int} {P : List Event → Except Failure Int → Prop}
    (h : ∀ s, P [.clock (y s).1.result] (y s).1.result) :
    Watches (y.watched .clock) (Flow.onFst y) y P := by
  intro s events calls
  refine ⟨_, rfl, ?_, h s⟩
  rw [Event.calls, List.filterMap_cons_none rfl, List.filterMap_nil, List.append_nil]
  rfl

/-- **Watching goes through a sequence.**  The events of the second part are
behind those of the first; a failure of the first is the end. -/
theorem bind {Q : List Event → Except Failure α → Prop} {x : Flow (σ × List Event) α}
    {z : Flow (σ × List RemoteCall) α} {y : Flow σ α} (hx : Watches x z y Q)
    (hok : ∀ first a, Q first (.ok a) → Watches (f a) (k a) (g a) fun new r => P (first ++ new) r)
    (herror : ∀ first e, Q first (.error e) → P first (.error e)) :
    Watches (x >>= f) (z >>= k) (y >>= g) P := by
  intro s events calls
  obtain ⟨first, hfirst, hcalls, hQ⟩ := hx s events calls
  have hy : y s = ((y s).1, (y s).2) := rfl
  rw [andThen_apply hfirst, andThen_apply hcalls, andThen_apply hy]
  cases hr : (y s).1.result with
  | error e =>
    rw [hr] at hQ
    exact ⟨first, rfl, rfl, herror first e hQ⟩
  | ok a =>
    rw [hr] at hQ
    obtain ⟨new, hnew, hmore, hP⟩ :=
      hok first a hQ (y s).2 (events ++ first) (calls ++ Event.calls first)
    refine ⟨first ++ new, ?_, ?_, hP⟩
    · simp only [hnew, List.append_assoc]
    · simp only [hmore, Event.calls_append, List.append_assoc]

/-- Sequencing behind an outcome without events. -/
theorem ofTraced_bind {t : Traced α}
    (hok : ∀ a, t.result = .ok a → Watches (f a) (k a) (g a) P)
    (herror : ∀ e, t.result = .error e → P [] (.error e)) :
    Watches (Flow.ofTraced t >>= f) (Flow.ofTraced t >>= k) (Flow.ofTraced t >>= g) P := by
  refine bind (Q := fun first r => first = [] ∧ r = t.result) (ofTraced ⟨rfl, rfl⟩) ?_ ?_
  · rintro first a ⟨rfl, ha⟩
    exact hok a ha.symm
  · rintro first e ⟨rfl, he⟩
    exact herror e he.symm

/-- Sequencing behind a log record. -/
theorem log_bind {level : Level} {source : Source} {text : String}
    {f : Unit → Flow (σ × List Event) β} {k : Unit → Flow (σ × List RemoteCall) β}
    {g : Unit → Flow σ β} (h : Watches (f ()) (k ()) (g ()) P) :
    Watches (Flow.log level source text >>= f) (Flow.log level source text >>= k)
      (Flow.log level source text >>= g) P :=
  ofTraced_bind (fun _ _ => h) fun _ he => nomatch he

theorem ite {p : Prop} [Decidable p] (hpos : p → Watches x z y P) (hneg : ¬p → Watches x' z' y' P) :
    Watches (if p then x else x') (if p then z else z') (if p then y else y') P := by
  split
  · next h => exact hpos h
  · next h => exact hneg h

/-- Sequencing behind a log record that is written under a condition. -/
theorem log_if_bind {p : Prop} [Decidable p] {level : Level} {source : Source} {text : String}
    {f : Unit → Flow (σ × List Event) β} {k : Unit → Flow (σ × List RemoteCall) β}
    {g : Unit → Flow σ β} (h : Watches (f ()) (k ()) (g ()) P) :
    Watches (if p then Flow.log level source text >>= f else f ())
      (if p then Flow.log level source text >>= k else k ())
      (if p then Flow.log level source text >>= g else g ()) P :=
  ite (fun _ => log_bind h) fun _ => h

/-- Sequencing behind a call. -/
theorem call_bind {event : Except Failure α → Event} {c : RemoteCall} {y : Flow σ α}
    (hcall : ∀ r, (event r).call? = some c)
    (hok : ∀ a, Watches (f a) (k a) (g a) fun new r => P (event (.ok a) :: new) r)
    (herror : ∀ e, P [event (.error e)] (.error e)) :
    Watches (y.watched event >>= f) (Remote.note c y >>= k) (y >>= g) P := by
  refine bind (Q := fun first r => first = [event r]) (call hcall fun s => rfl) ?_ ?_
  · rintro first a rfl
    exact hok a
  · rintro first e rfl
    exact herror e

/-- Sequencing behind a reading of the clock. -/
theorem clock_bind {f : Int → Flow (σ × List Event) β} {k : Int → Flow (σ × List RemoteCall) β}
    {g : Int → Flow σ β} {y : Flow σ Int}
    (hok : ∀ now, Watches (f now) (k now) (g now) fun new r => P (.clock (.ok now) :: new) r)
    (herror : ∀ e, P [.clock (.error e)] (.error e)) :
    Watches (y.watched .clock >>= f) (Flow.onFst y >>= k) (y >>= g) P := by
  refine bind (Q := fun first r => first = [.clock r]) (clock fun s => rfl) ?_ ?_
  · rintro first now rfl
    exact hok now
  · rintro first e rfl
    exact herror e

/-- The events of an attempt are those of what is attempted. -/
theorem attempt {Q : List Event → Except Failure β → Prop} (h : Watches x z y Q) :
    Watches x.attempt z.attempt y.attempt fun new r =>
      ∃ tried, Q new tried ∧ attempted tried = r := by
  intro s events calls
  obtain ⟨new, hx, hz, hQ⟩ := h s events calls
  refine ⟨new, ?_, ?_, (y s).1.result, hQ, ?_⟩
  · simp only [Flow.attempt, hx]
    rcases (y s).1.result with (e | e) | a <;> rfl
  · simp only [Flow.attempt, hz]
    rcases (y s).1.result with (e | e) | a <;> rfl
  · simp only [Flow.attempt]
    rcases (y s).1.result with (e | e) | a <;> rfl

end Watches

end Flow

/-- A remote side whose calls are noted with their answers. -/
def Remote.watched {σ : Type} (r : Remote σ) : Remote (σ × List Event) where
  catalog name := (r.catalog name).watched (.catalog name)
  request method resource body :=
    (r.request method resource body).watched (.request method resource body)
  deletedBetween name start stop :=
    (r.deletedBetween name start stop).watched (.deletedBetween name start stop)
  fetchDocument name := (r.fetchDocument name).watched (.fetchDocument name)
  upsertDocument name contentType content :=
    (r.upsertDocument name contentType content).watched (.upsertDocument name contentType content)

namespace Bridge

variable {σ : Type}

/-- A bridge whose collaborators are watched. -/
def watched (b : Bridge σ) : Bridge (σ × List Event) where
  settings := b.settings
  remote := b.remote.watched
  clock := b.clock.watched .clock

/-- A bridge whose calls are recorded. -/
def recorded (b : Bridge σ) : Bridge (σ × List RemoteCall) where
  settings := b.settings
  remote := b.remote.recorded
  clock := Flow.onFst b.clock

/-- The events of one submission, from a state of the collaborators on. -/
def trace (b : Bridge σ) (submission : Submission) (s : σ) : List Event :=
  (b.watched.handle submission (s, [])).2.2

end Bridge

end RecordBridge
