/-
Faults: the error half of an answer.

A fault is a classified failure. The caller sees its code and its message, which is the type name
and the text of the failure, sanitized; source type and metadata are for the log only. `raise` is
what a handler does with a failure: it makes the fault under the name of its method and gives the
event to emit.
-/
import FaultCodes.Log
import FaultCodes.Sanitize

namespace FaultCodes

/-- a classified failure, ready for the caller -/
structure Fault where
  classification : Classification
  sourceType : Text
  message : Text
  metadata : Metadata
  deriving DecidableEq

namespace Fault

def ofFailure (k : Classifier) (f : Failure) : Fault where
  classification := k.classify f
  sourceType := f.path.display
  message := sanitize (f.path.name ++ ": " ++ f.text)
  metadata := []

/-- one more metadata pair, at the end -/
def withMetadata (f : Fault) (key : Text) (value : Field) : Fault :=
  { f with metadata := f.metadata ++ [(key, value)] }

def code (f : Fault) : Int32 :=
  f.classification.value

/-- the method the fault was raised in, when it is recorded -/
def method? (f : Fault) : Option Text :=
  f.metadata.value? methodKey

def log (f : Fault) : LogRecord :=
  ⟨f.classification, f.sourceType, f.message, f.metadata⟩

def display (f : Fault) : Text :=
  f.message ++ " (" ++ Decimal.ofInt f.code.toInt ++ ")"

/-- the inspection text, with the keys of the metadata but not their values -/
def inspect (f : Fault) : Text :=
  Inspect.record "RpcFault"
    [("code", Decimal.ofInt f.code.toInt), ("origin", f.classification.origin.name),
     ("resolution", f.classification.resolution.name), ("source_type", Text.quoted f.sourceType),
     ("message", Text.quoted f.message),
     ("metadata_keys", Inspect.list (f.metadata.map fun (key, _) => Text.quoted key))]

/-- the fault of a failure inside a method, with the method on record -/
def raise (method : Text) (f : Failure) : Fault :=
  (ofFailure .standard f).withMetadata methodKey (.shared method)

end Fault

end FaultCodes
