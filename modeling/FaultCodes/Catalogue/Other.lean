/-
The exception types of every other package. Names in lower case are real type names. The list
declares no code for unknown names: those get the floor of the block. The codes run downward from
-25001 in the order of the list.
-/
import FaultCodes.CodeTable

namespace FaultCodes.Catalogue

def otherNames : List String :=
  ["APIException", "AbsoluteLinkError", "AbsolutePathError", "AbstractMethodError",
   "AccessorRegistrationWarning", "AddressValueError", "AlreadyFinalized", "AlreadyUpdated",
   "AmbiguousTimeError", "ApplyTypeError", "ArgumentError", "ArgumentTypeError",
   "AttributeConflictWarning", "AuthenticationFailed", "AxisError", "BadGzipFile", "BadStatusLine",
   "BadZipFile", "BidictException", "BodyNotHttplibCompatible", "BoundaryError",
   "BrokenBarrierError", "BrokenExecutor", "BrokenThreadPool", "BuiltinSignatureError",
   "CCompilerError", "CSSWarning", "CalledProcessError", "CancelledError", "CannotSendHeader",
   "CannotSendRequest", "CategoricalConversionWarning", "CertificateError",
   "ChainedAssignmentError", "CharsetError", "ChunkedEncodingError", "Clamped",
   "ClassFoundException", "CloseBoundaryNotFoundDefect", "ClosedFileError", "ClosedPoolError",
   "CodecRegistryError", "CommandError", "CompileError", "CompileException", "ComplexWarning",
   "ComposerError", "CompressionError", "ConnectTimeout", "ConnectTimeoutError", "ConnectionError",
   "ConstructorError", "ContentDecodingError", "ContentTooShortError", "ConversionSyntax",
   "ConversionWarning", "ConverterError", "ConverterLockError", "CookieConflictError",
   "CookieError", "CryptographyDeprecationWarning", "DOMException", "DTypePromotionError",
   "DataError", "DatabaseError", "DateParseError", "DecimalException", "DecodeError",
   "DependencyWarning", "DeprecatedTzFormatWarning", "DistutilsArgError",
   "DistutilsByteCompileError", "DistutilsClassError", "DistutilsError", "DistutilsExecError",
   "DistutilsFileError", "DistutilsGetoptError", "DistutilsInternalError", "DistutilsModuleError",
   "DistutilsOptionError", "DistutilsPlatformError", "DistutilsSetupError",
   "DistutilsTemplateError", "DivisionByZero", "DivisionImpossible", "DivisionUndefined",
   "DomstringSizeErr", "DtypeWarning", "DuplicateLabelError", "DuplicateOptionError",
   "DuplicateSectionError", "DuplicationError", "EOFHeaderError", "EmitterError", "Empty",
   "EmptyDataError", "EmptyHeaderError", "EmptyPoolError", "EndOfBlock", "Error", "ExecError",
   "ExtractError", "FileModeWarning", "FilterError", "FirstHeaderLineIsContinuationDefect",
   "FloatOperation", "FrozenInstanceError", "Full", "FullPoolError", "GetPassWarning", "HTTPError",
   "HTTPException", "HTTPWarning", "HeaderDefect", "HeaderError", "HeaderMissingRequiredValue",
   "HeaderParseError", "HeaderParsingError", "HierarchyRequestErr", "HostChangedError",
   "IDNABidiError", "IDNAError", "IllegalMonthError", "IllegalWeekdayError",
   "ImproperConnectionState", "IncompatibilityWarning", "IncompatibleFrequency", "Incomplete",
   "IncompleteRead", "IncompleteReadError", "IndexSizeErr", "IndexingError", "Inexact",
   "InsecurePlatformWarning", "InsecureRequestWarning", "IntCastingNaNError", "IntegrityError",
   "InterfaceError", "InterfaceNotImplemented", "InternalError", "InterpolationDepthError",
   "InterpolationError", "InterpolationMissingOptionError", "InterpolationSyntaxError",
   "InuseAttributeErr", "InvalidAccessErr", "InvalidBase64CharactersDefect",
   "InvalidBase64LengthDefect", "InvalidBase64PaddingDefect", "InvalidCharacterErr",
   "InvalidChunkLength", "InvalidCodepoint", "InvalidCodepointContext", "InvalidColumnName",
   "InvalidComparison", "InvalidContext", "InvalidHeader", "InvalidHeaderDefect",
   "InvalidHeaderError", "InvalidIndexError", "InvalidJSONError", "InvalidKey",
   "InvalidModificationErr", "InvalidMultipartContentTransferEncodingDefect", "InvalidOperation",
   "InvalidProxyURL", "InvalidSchema", "InvalidSignature", "InvalidStateErr", "InvalidStateError",
   "InvalidTZPathWarning", "InvalidTag", "InvalidTimeError", "InvalidToken", "InvalidURL",
   "InvalidVersion", "IsDirectoryError", "ItimerError", "JSONDecodeError",
   "KeyAndValueDuplicationError", "KeyDuplicationError", "LZMAError", "LargeZipFile", "LibError",
   "LimitOverrunError", "LinAlgError", "LineTooLong", "LinkError", "LinkOutsideDestinationError",
   "LoadError", "LocationParseError", "LocationValueError", "LossySetitemError", "MAError",
   "MakoException", "MarkedYAMLError", "MaskError", "MaskedArrayFutureWarning", "MaxRetryError",
   "MemoryError", "MergeError", "MessageDefect", "MessageError", "MessageParseError",
   "MethodNotAllowed", "MisplacedEnvelopeHeaderDefect", "MissingFileError",
   "MissingHeaderBodySeparatorDefect", "MissingSchema", "MissingSectionHeaderError",
   "ModuleDeprecationWarning", "MultipartConversionError", "MultipartInvariantViolationDefect",
   "NameConflictError", "NameResolutionError", "NamespaceErr", "NetmaskValueError",
   "NewConnectionError", "NoBoundaryInMultipartDefect", "NoBufferPresent", "NoDataAllowedErr",
   "NoModificationAllowedErr", "NoOptionError", "NoSectionError", "NonASCIILocalPartDefect",
   "NonExistentTimeError", "NonPrintableDefect", "NotARegularFileError", "NotAcceptable",
   "NotAuthenticated", "NotConnected", "NotFound", "NotFoundErr", "NotOpenSSLWarning",
   "NotSupportedErr", "NotSupportedError", "NotYetFinalized", "NullFrequencyError",
   "NumExprClobberingError", "NumbaUtilError", "ObjectTypeError", "ObjectValueError",
   "ObsoleteHeaderDefect", "OperationalError", "OptionError", "OutOfBoundsDatetime",
   "OutOfBoundsTimedelta", "OutsideDestinationError", "Overflow", "PackageNotFoundError",
   "ParseError", "ParserError", "ParserWarning", "ParsingError", "PerformanceWarning",
   "PermissionDenied", "PickleError", "PicklingError", "PoolError", "PossibleDataLossError",
   "PossiblePrecisionLoss", "PreprocessError", "ProgrammingError", "ProtocolError", "ProxyError",
   "ProxySchemeUnknown", "ProxySchemeUnsupported", "PyperclipException",
   "PyperclipWindowsException", "QueueEmpty", "QueueFull", "RankWarning", "ReadError",
   "ReadTimeout", "ReadTimeoutError", "ReaderError", "RegistryError", "RemoteDisconnected",
   "RemovedInDRF315Warning", "RepresenterError", "RequestError", "RequestException",
   "RequestsDependencyWarning", "RequestsWarning", "ResolverError", "ResponseError",
   "ResponseNotChunked", "ResponseNotReady", "RetryError", "Rounded", "RuntimeException",
   "SQLParseError", "SSLCertVerificationError", "SSLEOFError", "SSLError", "SSLSyscallError",
   "SSLWantReadError", "SSLWantWriteError", "SSLZeroReturnError", "SameFileError", "ScannerError",
   "SecurityWarning", "SendfileNotAvailableError", "SerializerError", "SettingWithCopyError",
   "SettingWithCopyWarning", "SkipField", "SkipTest", "SpecialFileError", "SpecificationError",
   "StartBoundaryNotFoundDefect", "StopTokenizing", "StreamConsumedError", "StreamError",
   "Subnormal", "SubprocessError", "SubsequentHeaderError", "SyntaxErr", "SyntaxException",
   "SystemTimeWarning", "TarError", "TemplateLookupException", "Throttled", "Timeout",
   "TimeoutError", "TimeoutExpired", "TimeoutStateError", "TokenError", "TooHardError",
   "TooManyRedirects", "TopLevelLookupException", "TruncatedHeaderError", "UFuncTypeError",
   "URLError", "URLRequired", "URLSchemeUnknown", "UndecodableBytesDefect", "UndefinedValueError",
   "UndefinedVariableError", "Underflow", "UnimplementedFileMode", "UnknownFileError",
   "UnknownProtocol", "UnknownTimeZoneError", "UnknownTimezoneWarning", "UnknownTransferEncoding",
   "UnpicklingError", "UnrewindableBodyError", "UnsortedIndexError", "UnsupportedAlgorithm",
   "UnsupportedError", "UnsupportedFunctionCall", "UnsupportedMediaType", "UnsupportedOperation",
   "ValidationErr", "ValidationError", "ValueDuplicationError", "ValueLabelTypeMismatch",
   "Verbose", "VerificationError", "VisibleDeprecationWarning", "Warning", "WrongDocumentErr",
   "YAMLError", "ZipImportError", "ZoneInfoNotFoundError", "_DeadlockError", "_GiveupOnFastCopy",
   "_GiveupOnSendfile", "_InvalidEwError", "_OptionError", "_ShouldStop", "_Stop",
   "_UnexpectedSuccess", "error", "gaierror", "herror", "timeout"]

end FaultCodes.Catalogue
