/-
# Settings

How the fields of remote records map onto generic keys, and how directives are
worked off.  Times are spans in microseconds or counts of milliseconds, as
their names say.
-/

import RecordBridge.Time.Span

namespace RecordBridge

/-- Which remote fields hold identity and time of a record. -/
structure RecordMapping where
  /-- The remote key of a record. -/
  identityField : String := "Id"
  /-- The time of the last change. -/
  timestampField : String := "SystemModstamp"
  /-- The time to take where a record has no time of change. -/
  fallbackTimestampField : String := "CreatedDate"
  /-- Keys of the remote envelope, which are left out of every record. -/
  envelopeKeys : List String := ["attributes"]
  deriving DecidableEq, Repr

/-- The fields that every projection asks for. -/
def RecordMapping.defaultFields (m : RecordMapping) : List String :=
  [m.identityField, m.timestampField, m.fallbackTimestampField]

/-- How directives are worked off. -/
structure Settings where
  /-- How long the remote system remembers deletions, in microseconds. -/
  retention : Int := Time.Span.ofDays 30
  /-- The least width of a window of deletions, in milliseconds. -/
  minDeltaWindow : Int := 60001
  recordMapping : RecordMapping := {}
  /-- The type whose invocations are document operations. -/
  documentType : String := "Document"
  /-- Whether queries are logged as information. -/
  verbose : Bool := false
  deriving DecidableEq, Repr

namespace Settings

/-- The fields that every projection asks for. -/
def defaultFields (s : Settings) : List String := s.recordMapping.defaultFields

/-- The field whose lower bound makes a selection a delta. -/
def deltaField (s : Settings) : String := s.recordMapping.timestampField

/-- The retention in milliseconds. -/
def retentionMillis (s : Settings) : Int := Time.Span.millis s.retention

end Settings

end RecordBridge
