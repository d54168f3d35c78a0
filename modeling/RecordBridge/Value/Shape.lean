/-
# Values of unknown shape

A remote answer is any JSON value, and what is wanted of it may not be there.
`at?` looks up a key, `elements` goes through the members and `field` asks an
entry by name; each fails with the cause, which `ShapeFault.describe` shows.

Texts and objects have members too: a text its characters, an object its keys.
-/

import RecordBridge.Value.Inspect

namespace RecordBridge

/-- Why a value could not be taken apart. -/
inductive ShapeFault
  /-- An object lacks a key. -/
  | missingKey (key : String)
  /-- A value of this kind has no parts to look up by a key. -/
  | noParts (kind : String)
  /-- A value of this kind has no members. -/
  | noMembers (kind : String)
  /-- A value of this kind has no such operation. -/
  | noOperation (kind operation : String)
  /-- A value of this kind is no key. -/
  | notAKey (kind : String)
  /-- A value of this kind has no length. -/
  | noLength (kind : String)
  deriving DecidableEq, Repr

namespace ShapeFault

/-- The classes of shape faults. -/
inductive Class
  | key
  | kind
  | operation
  deriving DecidableEq, Repr

/-- The class of a fault. -/
def cls : ShapeFault → Class
  | .missingKey _ => .key
  | .noOperation _ _ => .operation
  | _ => .kind

/-- The name of a class in messages. -/
def Class.name : Class → String
  | .key => "KeyError"
  | .kind => "TypeError"
  | .operation => "AttributeError"

/-- What is wrong, in words. -/
def reason : ShapeFault → String
  | .missingKey key => key
  | .noParts "list" => "list indices must be integers or slices, not str"
  | .noParts "str" => "string indices must be integers, not 'str'"
  | .noParts kind => "'" ++ kind ++ "' object is not subscriptable"
  | .noMembers kind => "'" ++ kind ++ "' object is not iterable"
  | .noOperation kind operation =>
    "'" ++ kind ++ "' object has no attribute '" ++ operation ++ "'"
  | .notAKey kind => "unhashable type: '" ++ kind ++ "'"
  | .noLength kind => "object of type '" ++ kind ++ "' has no len()"

/-- The fault as a message shows it: its class with the reason in quotes. -/
def describe (f : ShapeFault) : String :=
  f.cls.name ++ "(" ++ Text.quoted f.reason ++ ")"

end ShapeFault

namespace Value

/-- The value of a key that has to be there. -/
def at? (v : Value) (key : String) : Except ShapeFault Value :=
  match v with
  | .object es =>
    match Entries.get? es key with
    | some x => .ok x
    | none => .error (.missingKey key)
  | _ => .error (.noParts v.kindName)

/-- The value of a key of an entry, if it is there. -/
def field? (v : Value) (key : String) : Except ShapeFault (Option Value) :=
  match v with
  | .object es => .ok (Entries.get? es key)
  | _ => .error (.noOperation v.kindName "get")

/-- The members of a value, in order. -/
def elements : Value → Except ShapeFault (List Value)
  | .list xs | .tuple xs | .set xs => .ok xs
  | .object es => .ok (es.map fun e => .text e.1)
  | .text s => .ok (s.toList.map fun c => .text (String.singleton c))
  | v => .error (.noMembers v.kindName)

end Value

end RecordBridge
