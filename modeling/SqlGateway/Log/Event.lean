/-
# Log events

What the gateway logs about itself: a message and some named values, of a level and a target.  An
event is one line, with the time in front.
-/
import SqlGateway.Log.Filter
import SqlGateway.Log.Rotation
import SqlGateway.Text.Utf8

namespace SqlGateway.Log

/-- Something worth logging. -/
structure Event where
  level : Level
  /-- The part of the program that tells. -/
  target : String
  message : String
  /-- Names and values, as they are written. -/
  fields : List (String × String)
deriving DecidableEq, Repr

/-- The time in front of a line: universal time, to the microsecond. -/
def lineTime (m : Moment) : String :=
  (Date.ofNumber m.day).text ++ "T" ++ m.time.clockText ":" ++ "." ++
    Digits.padded 6 (m.time.nano % nanosPerSecond / 1000) ++ "Z"

namespace Event

/-- The line of an event. -/
def line (e : Event) (time : String) : String :=
  let level := "".pushn ' ' (5 - e.level.name.length) ++ e.level.name
  time ++ " " ++ level ++ " " ++ e.target ++ ": " ++ e.message ++
    String.join (e.fields.map fun (name, value) => " " ++ name ++ "=" ++ value)

/-- The names of what an event says: its message, and its values. -/
def names (e : Event) : List String := "message" :: e.fields.map (·.1)

/-- Whether a filter lets an event through. -/
def passes (f : Filter) (e : Event) : Bool := f.allows e.target e.names e.level

end Event

/-- Writes the lines of events to a log, each in one piece; `time` and `clock` are read for each. -/
def Rotating.writeEvents (time : Nat → String) (clock : Nat → Clock) (log : Rotating)
    (events : List Event) : Rotating :=
  events.zipIdx.foldl
    (fun log (e, i) => (log.write (clock i) (Text.Utf8.encode (e.line (time i) ++ "\n"))).2) log

end SqlGateway.Log
