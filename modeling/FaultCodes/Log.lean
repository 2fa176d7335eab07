/-
Log records: one line for each fault, and the event that goes with it.

In the line every field is clipped to 1024 bytes, so that no single text can flood a log; `line?`
writes it piece after piece, and `fullLine` is the same line without clipping. An event carries the
code, origin, resolution, source type and method; its level says whether the request or the server
is the likelier culprit.
-/
import FaultCodes.Classification

namespace FaultCodes

/-- a metadata value; owned text can be wiped, shared text cannot -/
inductive Field where
  | shared (text : Text)
  | owned (text : Text)
  deriving DecidableEq, Repr

namespace Field

def text : Field → Text
  | shared t => t
  | owned t => t

/-- clears owned text and leaves shared text alone -/
def wipe : Field → Field
  | shared t => shared t
  | owned _ => owned []

def inspect (f : Field) : Text :=
  Inspect.record "FaultField" [("value", Text.quoted f.text)]

end Field

/-- named values attached to a fault, in the order they were attached -/
abbrev Metadata := List (Text × Field)

namespace Metadata

/-- the value of the first pair with this key -/
def value? (m : Metadata) (key : Text) : Option Text :=
  (m.lookup key).map Field.text

end Metadata

/-- the key under which the method of a call is recorded -/
def methodKey : Text := "method"

/-- most bytes of one field in a log line, the marker included -/
def maxLogField : Nat := 1024

inductive Level where
  | warn
  | debug
  deriving DecidableEq, Repr

def Level.label : Level → Text
  | warn => "WARN"
  | debug => "DEBUG"

/-- what is emitted for one fault -/
structure Event where
  level : Level
  code : Int32
  origin : Origin
  resolution : Resolution
  sourceType : Text
  method : Text
  deriving DecidableEq, Repr

def Event.message (e : Event) : Text :=
  match e.level with
  | .warn => "rpc call failed"
  | .debug => "rpc request rejected"

/-- a fault as the log sees it -/
structure LogRecord where
  classification : Classification
  sourceType : Text
  message : Text
  metadata : Metadata
  deriving DecidableEq

namespace LogRecord

def pairWith (shown : Text → Text) (pair : Text × Field) : Text :=
  " " ++ pair.1 ++ "='" ++ shown pair.2.text ++ "'"

/-- the line with every field put through `shown` -/
def lineWith (shown : Text → Text) (r : LogRecord) : Text :=
  "[" ++ Decimal.ofInt r.classification.value.toInt ++ "] origin=" ++
    r.classification.origin.label ++ " resolution=" ++ r.classification.resolution.label ++
    " type='" ++ shown r.sourceType ++ "' message='" ++ shown r.message ++ "'" ++
    r.metadata.flatMap (pairWith shown)

/-- the line, each field clipped -/
def line (r : LogRecord) : Text :=
  r.lineWith (Text.clip maxLogField)

/-- a metadata pair as it is written, its value truncated by positions -/
def pair? (pair : Text × Field) : Option Text := do
  let value ← Text.truncate? maxLogField pair.2.text
  return " " ++ pair.1 ++ "='" ++ value ++ "'"

/-- the line as it is written, piece after piece, every field truncated by positions; `none` when
one of them cannot be -/
def line? (r : LogRecord) : Option Text := do
  let sourceType ← Text.truncate? maxLogField r.sourceType
  let message ← Text.truncate? maxLogField r.message
  let pairs ← r.metadata.mapM pair?
  return "[" ++ Decimal.ofInt r.classification.value.toInt ++ "] origin=" ++
    r.classification.origin.label ++ " resolution=" ++ r.classification.resolution.label ++
    " type='" ++ sourceType ++ "' message='" ++ message ++ "'" ++ pairs.flatten

/-- the line with every field in full, for trusted readers only -/
def fullLine (r : LogRecord) : Text :=
  r.lineWith id

/-- the value of the first pair of the record with this key, found by going through the pairs -/
def value? (r : LogRecord) (key : Text) : Option Text :=
  (r.metadata.find? fun pair => pair.1 = key).map fun pair => pair.2.text

def event (r : LogRecord) : Event where
  level := if r.classification.origin.callerFacing then .debug else .warn
  code := r.classification.value
  origin := r.classification.origin
  resolution := r.classification.resolution
  sourceType := r.sourceType
  method := (r.value? "method").getD []

def inspect (r : LogRecord) : Text :=
  Inspect.record "FaultLog"
    [("classification", r.classification.inspect), ("source_type", Text.quoted r.sourceType),
     ("message", Text.quoted r.message),
     ("metadata",
      Inspect.list (r.metadata.map fun (key, field) =>
        Inspect.pair (Text.quoted key) field.inspect))]

end LogRecord

end FaultCodes
