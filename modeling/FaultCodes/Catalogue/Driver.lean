/-
The exception types of the database driver, mostly named after SQLSTATE classes. Constraint
violations are often caused by the caller all the same. The codes run downward from -30000 in the
order of the list.
-/
import FaultCodes.CodeTable

namespace FaultCodes.Catalogue

def driverNames : List String :=
  ["UNKNOWN", "ActiveSqlTransaction", "AdminShutdown", "AmbiguousAlias", "AmbiguousColumn",
   "AmbiguousFunction", "AmbiguousParameter", "ArraySubscriptError", "AssertFailure",
   "BadCopyFileFormat", "BranchTransactionAlreadyActive", "CannotCoerce", "CannotConnectNow",
   "CantChangeRuntimeParam", "CardinalityViolation", "CaseNotFound", "CharacterNotInRepertoire",
   "CheckViolation", "CollationMismatch", "ConfigFileError", "ConfigurationLimitExceeded",
   "ConnectionDoesNotExist", "ConnectionException", "ConnectionFailure", "ConnectionTimeout",
   "ContainingSqlNotPermitted", "CrashShutdown", "DataCorrupted", "DataError", "DataException",
   "DatabaseDropped", "DatabaseError", "DatatypeMismatch", "DatetimeFieldOverflow",
   "DeadlockDetected", "DependentObjectsStillExist", "DependentPrivilegeDescriptorsStillExist",
   "DiagnosticsException", "DiskFull", "DivisionByZero", "DuplicateAlias", "DuplicateColumn",
   "DuplicateCursor", "DuplicateDatabase", "DuplicateFile", "DuplicateFunction",
   "DuplicateJsonObjectKeyValue", "DuplicateObject", "DuplicatePreparedStatement",
   "DuplicateSchema", "DuplicateTable", "Error", "ErrorInAssignment", "EscapeCharacterConflict",
   "EventTriggerProtocolViolated", "ExclusionViolation", "ExternalRoutineException",
   "ExternalRoutineInvocationException", "FdwColumnNameNotFound", "FdwDynamicParameterValueNeeded",
   "FdwError", "FdwFunctionSequenceError", "FdwInconsistentDescriptorInformation",
   "FdwInvalidAttributeValue", "FdwInvalidColumnName", "FdwInvalidColumnNumber",
   "FdwInvalidDataType", "FdwInvalidDataTypeDescriptors", "FdwInvalidDescriptorFieldIdentifier",
   "FdwInvalidHandle", "FdwInvalidOptionIndex", "FdwInvalidOptionName", "FdwInvalidStringFormat",
   "FdwInvalidStringLengthOrBufferLength", "FdwInvalidUseOfNullPointer", "FdwNoSchemas",
   "FdwOptionNameNotFound", "FdwOutOfMemory", "FdwReplyHandle", "FdwSchemaNotFound",
   "FdwTableNotFound", "FdwTooManyHandles", "FdwUnableToCreateExecution", "FdwUnableToCreateReply",
   "FdwUnableToEstablishConnection", "FeatureNotSupported", "FloatingPointException",
   "ForeignKeyViolation", "FunctionExecutedNoReturnStatement", "GeneratedAlways", "GroupingError",
   "HeldCursorRequiresSameIsolationLevel", "IdleInTransactionSessionTimeout", "IdleSessionTimeout",
   "InFailedSqlTransaction", "InappropriateAccessModeForBranchTransaction",
   "InappropriateIsolationLevelForBranchTransaction", "IndeterminateCollation",
   "IndeterminateDatatype", "IndexCorrupted", "IndicatorOverflow", "InsufficientPrivilege",
   "InsufficientResources", "IntegrityConstraintViolation", "IntegrityError", "InterfaceError",
   "InternalError", "InternalError_", "IntervalFieldOverflow", "InvalidArgumentForLogarithm",
   "InvalidArgumentForNthValueFunction", "InvalidArgumentForNtileFunction",
   "InvalidArgumentForPowerFunction", "InvalidArgumentForSqlJsonDatetimeFunction",
   "InvalidArgumentForWidthBucketFunction", "InvalidAuthorizationSpecification",
   "InvalidBinaryRepresentation", "InvalidCatalogName", "InvalidCharacterValueForCast",
   "InvalidColumnDefinition", "InvalidColumnReference", "InvalidCursorDefinition",
   "InvalidCursorName", "InvalidCursorState", "InvalidDatabaseDefinition", "InvalidDatetimeFormat",
   "InvalidEscapeCharacter", "InvalidEscapeOctet", "InvalidEscapeSequence", "InvalidForeignKey",
   "InvalidFunctionDefinition", "InvalidGrantOperation", "InvalidGrantor",
   "InvalidIndicatorParameterValue", "InvalidJsonText", "InvalidLocatorSpecification",
   "InvalidName", "InvalidObjectDefinition", "InvalidParameterValue", "InvalidPassword",
   "InvalidPrecedingOrFollowingSize", "InvalidPreparedStatementDefinition", "InvalidRecursion",
   "InvalidRegularExpression", "InvalidRoleSpecification", "InvalidRowCountInLimitClause",
   "InvalidRowCountInResultOffsetClause", "InvalidSavepointSpecification",
   "InvalidSchemaDefinition", "InvalidSchemaName", "InvalidSqlJsonSubscript",
   "InvalidSqlStatementName", "InvalidSqlstateReturned", "InvalidTableDefinition",
   "InvalidTablesampleArgument", "InvalidTablesampleRepeat", "InvalidTextRepresentation",
   "InvalidTimeZoneDisplacementValue", "InvalidTransactionInitiation", "InvalidTransactionState",
   "InvalidTransactionTermination", "InvalidUseOfEscapeCharacter", "InvalidXmlComment",
   "InvalidXmlContent", "InvalidXmlDocument", "InvalidXmlProcessingInstruction", "IoError",
   "LocatorException", "LockFileExists", "LockNotAvailable", "ModifyingSqlDataNotPermitted",
   "ModifyingSqlDataNotPermittedExt", "MoreThanOneSqlJsonItem", "MostSpecificTypeMismatch",
   "NameTooLong", "NoActiveSqlTransaction", "NoActiveSqlTransactionForBranchTransaction",
   "NoAdditionalDynamicResultSetsReturned", "NoData", "NoDataFound", "NoSqlJsonItem",
   "NonNumericSqlJsonItem", "NonUniqueKeysInAJsonObject", "NonstandardUseOfEscapeCharacter",
   "NotAnXmlDocument", "NotNullViolation", "NotSupportedError", "NullValueNoIndicatorParameter",
   "NullValueNotAllowed", "NullValueNotAllowedExt", "NumericValueOutOfRange", "ObjectInUse",
   "ObjectNotInPrerequisiteState", "OperationalError", "OperatorIntervention", "OutOfMemory",
   "OutOfOrderTransactionNesting", "PipelineAborted", "PlpgsqlError", "ProgramLimitExceeded",
   "ProgrammingError", "ProhibitedSqlStatementAttempted", "ProhibitedSqlStatementAttemptedExt",
   "ProtocolViolation", "QueryCanceled", "QueryCanceledError", "RaiseException",
   "ReadOnlySqlTransaction", "ReadingSqlDataNotPermitted", "ReadingSqlDataNotPermittedExt",
   "ReservedName", "RestrictViolation", "Rollback", "SavepointException",
   "SchemaAndDataStatementMixingNotSupported", "SequenceGeneratorLimitExceeded",
   "SerializationFailure", "SingletonSqlJsonItemRequired", "SnapshotTooOld",
   "SqlJsonArrayNotFound", "SqlJsonItemCannotBeCastToTargetType", "SqlJsonMemberNotFound",
   "SqlJsonNumberNotFound", "SqlJsonObjectNotFound", "SqlJsonScalarRequired",
   "SqlRoutineException", "SqlStatementNotYetComplete", "SqlclientUnableToEstablishSqlconnection",
   "SqlserverRejectedEstablishmentOfSqlconnection", "SrfProtocolViolated",
   "StackedDiagnosticsAccessedWithoutActiveHandler", "StatementCompletionUnknown",
   "StatementTooComplex", "StopReplication", "StringDataLengthMismatch",
   "StringDataRightTruncation", "SubstringError", "SyntaxError",
   "SyntaxErrorOrAccessRuleViolation", "SystemError", "TooManyArguments", "TooManyColumns",
   "TooManyConnections", "TooManyJsonArrayElements", "TooManyJsonObjectMembers", "TooManyRows",
   "TransactionIntegrityConstraintViolation", "TransactionResolutionUnknown",
   "TransactionRollback", "TransactionRollbackError", "TriggerProtocolViolated",
   "TriggeredActionException", "TriggeredDataChangeViolation", "TrimError", "UndefinedColumn",
   "UndefinedFile", "UndefinedFunction", "UndefinedObject", "UndefinedParameter", "UndefinedTable",
   "UniqueViolation", "UnsafeNewEnumValueUsage", "UnterminatedCString", "UntranslatableCharacter",
   "Warning", "WindowingError", "WithCheckOptionViolation", "WrongObjectType",
   "ZeroLengthCharacterString"]

end FaultCodes.Catalogue
