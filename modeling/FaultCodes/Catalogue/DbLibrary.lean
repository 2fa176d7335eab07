/-
The exception types of the low-level database access layer: catalog reads and writes below the
application. The codes run downward from -27000 in the order of the list.
-/
import FaultCodes.CodeTable

namespace FaultCodes.Catalogue

def dbLibraryNames : List String :=
  ["UNKNOWN", "BadDBFunctionFormat", "BadGroupFormat", "BadSortFormat", "ColumnMappingsNotFound",
   "DBFunctionException", "DagCycleError", "DynamicDefaultWarning", "ExclusionError",
   "ForeignKeyError", "GroupFieldNotFound", "InvalidDate", "InvalidDateFormat",
   "InvalidDefaultError", "InvalidGroupType", "InvalidTypeError", "InvalidTypeOptionError",
   "InvalidTypeParameters", "NotNullError", "ReferencedColumnsDontExist", "SortFieldNotFound",
   "TypeMismatchError", "UndefinedFunction", "UniqueValueError", "UnknownDBFunctionID",
   "UnsupportedTypeException"]

end FaultCodes.Catalogue
