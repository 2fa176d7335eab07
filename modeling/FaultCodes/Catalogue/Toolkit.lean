/-
The exception types of the SQL toolkit.
The codes run downward from -26000 in the order of the list.
-/
import FaultCodes.CodeTable

namespace FaultCodes.Catalogue

def toolkitNames : List String :=
  ["UNKNOWN", "AmbiguousForeignKeysError", "ArgumentError", "AwaitRequired",
   "CircularDependencyError", "CompileError", "DBAPIError", "DataError", "DatabaseError",
   "DisconnectionError", "Empty", "Error", "Full", "IdentifierError", "IntegrityError",
   "InterfaceError", "InternalError", "InternalServerError", "InvalidCachedStatementError",
   "InvalidRequestError", "InvalidatePoolError", "MissingGreenlet", "MovedIn20Warning",
   "MultipleResultsFound", "NoForeignKeysError", "NoInspectionAvailable", "NoReferenceError",
   "NoReferencedColumnError", "NoReferencedTableError", "NoResultFound", "NoSuchColumnError",
   "NoSuchModuleError", "NoSuchTableError", "NotSupportedError", "ObjectNotExecutableError",
   "OperationalError", "PendingRollbackError", "ProgrammingError", "RemovedIn20Warning",
   "ResourceClosedError", "SADeprecationWarning", "SAPendingDeprecationWarning", "SAWarning",
   "SQLAlchemyError", "StatementError", "TimeoutError", "UnboundExecutionError",
   "UnreflectableTableError", "UnsupportedCompilationError", "Warning"]

end FaultCodes.Catalogue
