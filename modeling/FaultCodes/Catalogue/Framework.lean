/-
The exception types of the web framework.
The codes run downward from -29000 in the order of the list.
-/
import FaultCodes.CodeTable

namespace FaultCodes.Catalogue

def frameworkNames : List String :=
  ["UNKNOWN", "AlreadyRegistered", "AmbiguityError", "AppRegistryNotReady", "BadHeaderError",
   "BadMigrationError", "BadRequest", "BadSignature", "CacheKeyWarning", "CircularDependencyError",
   "CommandError", "ConnectionDoesNotExist", "ContentNotRenderedError", "ContextPopException",
   "CyclicDependencyError", "DataError", "DatabaseError", "DatabaseOperationForbidden",
   "DeleteViewCustomDeleteWarning", "DeserializationError", "DisallowedHost",
   "DisallowedModelAdminLookup", "DisallowedModelAdminToField", "DisallowedRedirect",
   "DjangoUnicodeDecodeError", "DoesNotExist", "EmptyPage", "EmptyResultSet", "Error",
   "ExceptionCycleWarning", "FieldDoesNotExist", "FieldError", "FieldIsAForeignKeyColumnName",
   "FieldLookupError", "FullResultSet", "GenericViewError", "HTMLParseError", "Http404",
   "ImproperlyConfigured", "InconsistentMigrationHistory", "IncorrectLookupParameters",
   "InputStreamExhausted", "IntegrityError", "InterfaceError", "InternalError", "InvalidAlgorithm",
   "InvalidBasesError", "InvalidCacheBackendError", "InvalidCacheKey", "InvalidMigrationPlan",
   "InvalidPage", "InvalidStorageError", "InvalidTemplateEngineError", "InvalidTemplateLibrary",
   "InvalidTokenFormat", "IrreversibleError", "M2MDeserializationError",
   "MediaOrderConflictWarning", "MessageFailure", "MiddlewareNotUsed", "MigrationNotice",
   "MigrationSchemaMissing", "MultiJoin", "MultiPartParserError", "MultiValueDictKeyError",
   "MultipleObjectsReturned", "NoReverseMatch", "NodeNotFoundError", "NotRegistered",
   "NotRelationField", "NotSupportedError", "ObjectDoesNotExist", "OperationalError",
   "PageNotAnInteger", "PermissionDenied", "ProgrammingError", "ProtectedError",
   "RawPostDataException", "RedirectCycleError", "RejectRequest", "RemovedInDjango50Warning",
   "RemovedInDjango51Warning", "RemovedInDjangoFilter25Warning", "RequestAborted",
   "RequestDataTooBig", "Resolver404", "RestrictedError", "SerializationError",
   "SerializerDoesNotExist", "SignatureExpired", "SkipFile", "StopFutureHandlers", "StopUpload",
   "SuspiciousFileOperation", "SuspiciousMultipartForm", "SuspiciousOperation",
   "SynchronousOnlyOperation", "SystemCheckError", "TemplateDoesNotExist", "TemplateSyntaxError",
   "TooManyFieldsSent", "TooManyFilesSent", "TransactionManagementError",
   "TranslatorCommentWarning", "UnorderedObjectListWarning", "UnreadablePostError",
   "UploadFileException", "ValidationError", "VariableDoesNotExist", "ViewDoesNotExist",
   "WatchmanUnavailable"]

end FaultCodes.Catalogue
