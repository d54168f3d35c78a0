/-
# Reading values of known form

A reader takes a JSON value to a `Checked α`: what was read, or all problems
with it.  Readers of several fields are combined so that the problems of each
are kept, in order.  Every problem knows the path at which it stands and the
value that stood there.
-/

import RecordBridge.Directive.Error

namespace RecordBridge

/-- A value that was read, or all the problems with it. -/
def Checked (α : Type) : Type := Except (List Problem) α

namespace Checked

variable {α β : Type}

/-- A value without problems. -/
def ok (a : α) : Checked α := Except.ok a

/-- Problems without a value. -/
def problems (ps : List Problem) : Checked α := Except.error ps

/-- A function that was read, applied to an argument that was read; the
problems of both are kept. -/
def ap (f : Checked (α → β)) (x : Checked α) : Checked β :=
  match f, x with
  | Except.ok f, Except.ok x => ok (f x)
  | Except.ok _, Except.error qs => problems qs
  | Except.error ps, Except.ok _ => problems ps
  | Except.error ps, Except.error qs => problems (ps ++ qs)

instance : Applicative Checked where
  pure := ok
  seq f x := ap f (x ())

/-- The problem that something else was expected. -/
def expected (e : Expectation) (input : Value) : Checked α := problems [⟨e, [], input⟩]

/-- What was read at a step into a value. -/
def under (step : Step) (x : Checked α) : Checked α :=
  Except.mapError (fun ps => ps.map (·.under step)) x

/-- A text. -/
def text : Value → Checked String
  | .text s => ok s
  | v => expected .text v

/-- An object. -/
def dictionary : Value → Checked Object
  | .object es => ok es
  | v => expected .dictionary v

/-- Null or something else. -/
def orNull (read : Value → Checked α) : Value → Checked (Option α)
  | .null => ok none
  | v => some <$> read v

/-- The elements of a list, from a place on. -/
def elementsFrom (read : Value → Checked α) (place : Nat) : List Value → Checked (List α)
  | [] => ok []
  | v :: vs => List.cons <$> under (.index place) (read v) <*> elementsFrom read (place + 1) vs

/-- A list of elements. -/
def list (read : Value → Checked α) : Value → Checked (List α)
  | .list vs => elementsFrom read 0 vs
  | v => expected .list v

/-- A field of an object: the key it was found under and its value. -/
structure Found where
  key : String
  value : Option Value

/-- The field with the given key. -/
def plain (es : Object) (key : String) : Found := ⟨key, es.get? key⟩

/-- The field with two spellings of its key: under the first one if it is
there, else under the second, and under the first if neither is. -/
def spelled (es : Object) (first second : String) : Found :=
  match es.get? first, es.get? second with
  | some v, _ => ⟨first, some v⟩
  | none, some v => ⟨second, some v⟩
  | none, none => ⟨first, none⟩

/-- A field that has to be there. -/
def required (es : Object) (found : Found) (read : Value → Checked α) : Checked α :=
  under (.key found.key) (match found.value with
    | some v => read v
    | none => expected .present (.object es))

/-- A field with a default. -/
def optional (found : Found) (default : α) (read : Value → Checked α) : Checked α :=
  match found.value with
  | some v => under (.key found.key) (read v)
  | none => ok default

/-- A field that may be null or missing. -/
def nullable (found : Found) (read : Value → Checked α) : Checked (Option α) :=
  optional found none (orNull read)

end Checked

end RecordBridge
