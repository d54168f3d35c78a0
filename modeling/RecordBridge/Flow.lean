/-
# Computations with a log and a state

A directive is worked off by computations that write log records, may fail and
talk to collaborators.  `Traced α` is the outcome of one that needs no
collaborator: a value or a failure, with the records written on the way.
`Flow σ α` is one whose collaborators have a state of type `σ`.

Neither the records nor the state are lost when a computation fails: what a
collaborator has done stays done.
-/

import RecordBridge.Error

namespace RecordBridge

/-- How important a log record is. -/
inductive Level
  | debug
  | info
  | warning
  deriving DecidableEq, Repr

/-- The part of the library that a log record comes from. -/
inductive Source
  | engine
  | compiler
  | gate
  | delta
  | session
  deriving DecidableEq, Repr

/-- A log record. -/
structure LogRecord where
  level : Level
  source : Source
  text : String
  deriving DecidableEq, Repr

/-- The outcome of a computation and the log records it wrote. -/
structure Traced (α : Type) where
  result : Except Failure α
  log : List LogRecord

namespace Traced

variable {α β : Type}

/-- One computation after another one; a failure is the end. -/
def andThen (x : Traced α) (f : α → Traced β) : Traced β :=
  match x.result with
  | .ok a => ⟨(f a).result, x.log ++ (f a).log⟩
  | .error e => ⟨.error e, x.log⟩

instance : Monad Traced where
  pure a := ⟨.ok a, []⟩
  bind := andThen

/-- A failure. -/
def fail (e : Failure) : Traced α := ⟨.error e, []⟩

/-- An outcome without log records. -/
def ofExcept (r : Except Failure α) : Traced α := ⟨r, []⟩

/-- A log record. -/
def log1 (level : Level) (source : Source) (text : String) : Traced Unit :=
  ⟨.ok (), [⟨level, source, text⟩]⟩

end Traced

/-- A computation over the state of its collaborators. -/
def Flow (σ : Type) (α : Type) : Type := σ → Traced α × σ

namespace Flow

variable {σ τ α β : Type}

/-- The outcome from a state, and the state afterwards. -/
def run (x : Flow σ α) (s : σ) : Traced α × σ := x s

/-- One computation after another one; a failure is the end. -/
def andThen (x : Flow σ α) (f : α → Flow σ β) : Flow σ β := fun s =>
  let (out, s) := x s
  match out.result with
  | .ok a =>
    let (next, s) := f a s
    (⟨next.result, out.log ++ next.log⟩, s)
  | .error e => (⟨.error e, out.log⟩, s)

instance : Monad (Flow σ) where
  pure a := fun s => (⟨.ok a, []⟩, s)
  bind := andThen

/-- A computation that leaves the state alone. -/
def ofTraced (x : Traced α) : Flow σ α := fun s => (x, s)

/-- A failure. -/
def fail (e : Failure) : Flow σ α := ofTraced (Traced.fail e)

/-- An outcome without log records. -/
def ofExcept (r : Except Failure α) : Flow σ α := ofTraced (Traced.ofExcept r)

/-- A log record. -/
def log (level : Level) (source : Source) (text : String) : Flow σ Unit :=
  ofTraced (Traced.log1 level source text)

/-- The state. -/
def get : Flow σ σ := fun s => (⟨.ok s, []⟩, s)

/-- The state changed by a function. -/
def modify (f : σ → σ) : Flow σ Unit := fun s => (⟨.ok (), []⟩, f s)

/-- The outcome with an error of the directive made into a value; a fault
stays a failure. -/
def attempt (x : Flow σ α) : Flow σ (Except DirectiveError α) := fun s =>
  let (out, s) := x s
  match out.result with
  | .ok a => (⟨.ok (.ok a), out.log⟩, s)
  | .error (.error e) => (⟨.ok (.error e), out.log⟩, s)
  | .error (.fault f) => (⟨.error (.fault f), out.log⟩, s)

/-- A computation over the first part of a state. -/
def onFst (x : Flow σ α) : Flow (σ × τ) α := fun s =>
  let (out, s1) := x s.1
  (out, (s1, s.2))

/-- A computation over the second part of a state. -/
def onSnd (x : Flow τ α) : Flow (σ × τ) α := fun s =>
  let (out, s2) := x s.2
  (out, (s.1, s2))

end Flow

end RecordBridge
