/-
The exception types of the application itself, raised on purpose to reject a request.
The codes run downward from -28000 in the order of the list.
-/
import FaultCodes.CodeTable

namespace FaultCodes.Catalogue

def applicationNames : List String :=
  ["UNKNOWN", "BadDBCredentials", "ColumnSizeMismatchAPIException",
   "ConstraintColumnEmptyAPIException", "DeletedColumnAccess", "DeletedColumnAccessAPIException",
   "DictHasBadKeys", "DistinctColumnRequiredAPIException", "DoesNotExist",
   "DuplicateUIQueryInSchemaAPIException", "EditingPublicSchemaIsDisallowed",
   "GenericAPIException", "IncompatibleFractionDigitValuesAPIException", "IncorrectOldPassword",
   "IntegrityAPIException", "InvalidColumnOrder", "InvalidDBConnection",
   "InvalidLinkChoiceAPIException", "InvalidPrefetch", "InvalidTableName", "InvalidValueType",
   "MathesarAPIException", "MathesarValidationException", "MethodNotAllowedAPIException",
   "MoneyDisplayOptionValueConflictAPIException", "MultipleDataFileAPIException",
   "MultipleObjectsReturned", "NetworkException", "NotFoundAPIException",
   "ProgrammingAPIException", "TypeErrorAPIException", "UnknownDatabaseTypeIdentifier",
   "UnsupportedConstraintAPIException", "UnsupportedInstallationDatabase", "ValueAPIException"]

end FaultCodes.Catalogue
