/-
The wire form of a fault: an object with its code and its message, and nothing else.
-/
import FaultCodes.Fault
import FaultCodes.Json

namespace FaultCodes.Fault

/-- code and message -/
def toJson (f : Fault) : Json :=
  .obj [("code", .int f.code.toInt), ("message", .str f.message)]

def wire (f : Fault) : Text :=
  f.toJson.compact

end FaultCodes.Fault
