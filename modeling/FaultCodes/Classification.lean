/-
Classification: from a failure to one stable code.

The origin is the one the failure claims, else the one whose rule claims its module, else `other`.
The code is the one that the origin's table lists for the type name; a name that is not listed gets
the table's fallback. The resolution says which way the code was reached.
-/
import FaultCodes.Catalogue
import FaultCodes.Rules
import FaultCodes.Failure

namespace FaultCodes

/-- how a code was reached -/
inductive Resolution where
  | mapped
  | originFallback
  | unclassified
  deriving DecidableEq, Repr

namespace Resolution

def label : Resolution → Text
  | mapped => "mapped"
  | originFallback => "origin_fallback"
  | unclassified => "unclassified"

def name : Resolution → Text
  | mapped => "Mapped"
  | originFallback => "OriginFallback"
  | unclassified => "Unclassified"

end Resolution

/-- the outcome for one failure -/
structure Classification where
  code : ErrorCode
  resolution : Resolution
  deriving DecidableEq

namespace Classification

def value (c : Classification) : Int32 :=
  c.code.value

def origin (c : Classification) : Origin :=
  c.code.origin

def inspect (c : Classification) : Text :=
  Inspect.record "Classification" [("code", c.code.inspect), ("resolution", c.resolution.name)]

/-- looks a name up in a table; `onMiss` says how a name that is not listed counts -/
def ofTable (t : CodeTable) (name : Text) (onMiss : Resolution) : Classification :=
  match t.codeFor name with
  | some code => ⟨code, .mapped⟩
  | none => ⟨t.fallback, onMiss⟩

/-- looks a name up in the table of the origin that was found, if one was -/
def ofOrigin (o : Option Origin) (name : Text) : Classification :=
  match o with
  | none => ofTable (Catalogue.table .other) name .unclassified
  | some .other => ofTable (Catalogue.table .other) name .unclassified
  | some o => ofTable (Catalogue.table o) name .originFallback

end Classification

/-- classifies by a set of rules -/
structure Classifier where
  rules : RuleSet
  deriving DecidableEq

namespace Classifier

def standard : Classifier :=
  ⟨.standard⟩

def classifyPath (k : Classifier) (p : TypePath) : Classification :=
  .ofOrigin (k.rules.resolve p.module) p.name

/-- classifies a failure; an origin that it claims comes before the rules -/
def classify (k : Classifier) (f : Failure) : Classification :=
  .ofOrigin (f.hint.or (k.rules.resolve f.path.module)) f.path.name

end Classifier

/-- the code of a failure nothing else classifies: the floor of the last block -/
def processDefaultCode : Int32 :=
  Origin.other.floor

end FaultCodes
