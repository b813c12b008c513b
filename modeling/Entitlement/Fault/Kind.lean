import Entitlement.Text.Basic

/-!
# Kinds of failure

A failure that comes from outside the licensing rules, from the machine, the network or the
database, has a kind: a name, and the wider families that it belongs to.  A handler names the
families it answers for, and `Kind.isA` tells whether a kind is one of them.

The tables give the families of the general kinds, of the kinds of a failed HTTP exchange, and of
the kinds that the database reports.
-/

namespace Entitlement

/-- A kind of failure and the families that it belongs to, the widest first. -/
structure Kind where
  families : List Text
  name : Text
  deriving DecidableEq

namespace Kind

/-- Whether the kind has the name or belongs to the family of that name. -/
def isA (kind : Kind) (family : Text) : Bool := kind.name = family || kind.families.contains family

/-- The family of all failures. -/
def any : Text := "Exception"

/-- The family of all failures and of what only interrupts. -/
def base : Text := "BaseException"

/-- A kind of failure with its families but for the two widest. -/
def within (families : List Text) (name : Text) : Kind := ⟨base :: any :: families, name⟩

/-! ## Tables -/

/-- Names with the families that they have in common. -/
abbrev Table := List (List Text × List Text)

/-- The words of a text. -/
def words (text : Text) : List Text := Text.splitOn ' ' text

/-- The kind of a name in a table. -/
def find? (table : Table) (name : Text) : Option Kind :=
  (table.find? fun row => row.2.contains name).map fun row => within row.1 name

/-- Other names of a kind. -/
def aliases : List (Text × Text) := [("IOError", "OSError"), ("EnvironmentError", "OSError")]

/-- The name proper of a kind. -/
def properName (name : Text) : Text := (aliases.lookup name).getD name

/-- The kinds that only interrupt. -/
def interrupting : List Text :=
  ["BaseException", "BaseExceptionGroup", "GeneratorExit", "KeyboardInterrupt", "SystemExit"]

/-- The general kinds. -/
def general : Table := [
  ([],
    words "ArithmeticError AssertionError AttributeError BufferError EOFError ImportError" ++
    words "LookupError MemoryError NameError OSError ReferenceError RuntimeError" ++
    words "StopAsyncIteration StopIteration SyntaxError SystemError TypeError ValueError" ++
    words "Warning"),
  (["ArithmeticError"], words "FloatingPointError OverflowError ZeroDivisionError"),
  (["ImportError"], words "ModuleNotFoundError"),
  (["LookupError"], words "IndexError KeyError"),
  (["NameError"], words "UnboundLocalError"),
  (["OSError"],
    words "BlockingIOError ChildProcessError ConnectionError FileExistsError" ++
    words "FileNotFoundError InterruptedError IsADirectoryError NotADirectoryError" ++
    words "PermissionError ProcessLookupError TimeoutError"),
  (["OSError", "ConnectionError"],
    words "BrokenPipeError ConnectionAbortedError ConnectionRefusedError ConnectionResetError"),
  (["RuntimeError"], words "NotImplementedError RecursionError"),
  (["SyntaxError"], words "IndentationError"),
  (["SyntaxError", "IndentationError"], words "TabError"),
  (["ValueError"], words "UnicodeError JSONDecodeError PydanticSerializationError SettingsError"),
  (["ValueError", "UnicodeError"],
    words "UnicodeDecodeError UnicodeEncodeError UnicodeTranslateError"),
  (["Warning"],
    words "BytesWarning DeprecationWarning EncodingWarning FutureWarning ImportWarning" ++
    words "PendingDeprecationWarning ResourceWarning RuntimeWarning SyntaxWarning" ++
    words "UnicodeWarning UserWarning")]

/-- The family of the failures that an HTTP exchange is tried again for. -/
def transportFamily : Text := "TransportError"

/-- The kinds that are raised about nothing: a stream is not in the state asked for. -/
def bare : List Text := words "StreamConsumed StreamClosed ResponseNotRead RequestNotRead"

/-- The kinds of a failed HTTP exchange. -/
def transport : Table := [
  ([], words "HTTPError InvalidURL CookieConflict"),
  (["RuntimeError"], words "StreamError"),
  (["RuntimeError", "StreamError"], bare),
  (["HTTPError"], words "RequestError HTTPStatusError"),
  (["HTTPError", "RequestError"], words "TransportError DecodingError TooManyRedirects"),
  (["HTTPError", "RequestError", "TransportError"],
    words "TimeoutException NetworkError ProtocolError ProxyError UnsupportedProtocol"),
  (["HTTPError", "RequestError", "TransportError", "TimeoutException"],
    words "ConnectTimeout ReadTimeout WriteTimeout PoolTimeout"),
  (["HTTPError", "RequestError", "TransportError", "NetworkError"],
    words "ConnectError ReadError WriteError CloseError"),
  (["HTTPError", "RequestError", "TransportError", "ProtocolError"],
    words "LocalProtocolError RemoteProtocolError")]

/-- The family of the failures that the database server reports. -/
def databaseFamily : Text := "PostgresError"

/-- The kinds of a failure of a statement, of its data or of a routine that it calls. -/
def statementKinds : Table := [
  (["PostgresError", "DataError"],
    words "ArraySubscriptError CharacterNotInRepertoireError DatetimeFieldOverflowError" ++
    words "DivisionByZeroError ErrorInAssignmentError EscapeCharacterConflictError" ++
    words "IndicatorOverflowError IntervalFieldOverflowError InvalidArgumentForLogarithmError" ++
    words "InvalidArgumentForNtileFunctionError InvalidArgumentForNthValueFunctionError" ++
    words "InvalidArgumentForPowerFunctionError InvalidArgumentForWidthBucketFunctionError" ++
    words "InvalidCharacterValueForCastError InvalidDatetimeFormatError" ++
    words "InvalidEscapeCharacterError InvalidEscapeOctetError InvalidEscapeSequenceError" ++
    words "NonstandardUseOfEscapeCharacterError InvalidIndicatorParameterValueError" ++
    words "InvalidParameterValueError InvalidPrecedingOrFollowingSizeError" ++
    words "InvalidRegularExpressionError InvalidRowCountInLimitClauseError" ++
    words "InvalidRowCountInResultOffsetClauseError InvalidTablesampleArgumentError" ++
    words "InvalidTablesampleRepeatError InvalidTimeZoneDisplacementValueError" ++
    words "InvalidUseOfEscapeCharacterError MostSpecificTypeMismatchError" ++
    words "NullValueNotAllowedError NullValueNoIndicatorParameterError" ++
    words "NumericValueOutOfRangeError SequenceGeneratorLimitExceededError" ++
    words "StringDataLengthMismatchError StringDataRightTruncationError SubstringError" ++
    words "TrimError UnterminatedCStringError ZeroLengthCharacterStringError" ++
    words "PostgresFloatingPointError InvalidTextRepresentationError" ++
    words "InvalidBinaryRepresentationError BadCopyFileFormatError" ++
    words "UntranslatableCharacterError"),
  (["PostgresError", "DataError"],
    words "NotAnXmlDocumentError InvalidXmlDocumentError InvalidXmlContentError" ++
    words "InvalidXmlCommentError InvalidXmlProcessingInstructionError" ++
    words "DuplicateJsonObjectKeyValueError InvalidArgumentForSQLJsonDatetimeFunctionError" ++
    words "InvalidJsonTextError InvalidSQLJsonSubscriptError MoreThanOneSQLJsonItemError" ++
    words "NoSQLJsonItemError NonNumericSQLJsonItemError NonUniqueKeysInAJsonObjectError" ++
    words "SingletonSQLJsonItemRequiredError SQLJsonArrayNotFoundError" ++
    words "SQLJsonMemberNotFoundError SQLJsonNumberNotFoundError SQLJsonObjectNotFoundError" ++
    words "TooManyJsonArrayElementsError TooManyJsonObjectMembersError" ++
    words "SQLJsonScalarRequiredError SQLJsonItemCannotBeCastToTargetTypeError"),
  (["PostgresError", "IntegrityConstraintViolationError"],
    words "RestrictViolationError NotNullViolationError ForeignKeyViolationError" ++
    words "UniqueViolationError CheckViolationError ExclusionViolationError"),
  (["PostgresError", "SQLRoutineError"],
    words "FunctionExecutedNoReturnStatementError ModifyingSQLDataNotPermittedError" ++
    words "ProhibitedSQLStatementAttemptedError ReadingSQLDataNotPermittedError"),
  (["PostgresError", "ExternalRoutineError"],
    words "ContainingSQLNotPermittedError ModifyingExternalRoutineSQLDataNotPermittedError" ++
    words "ProhibitedExternalRoutineSQLStatementAttemptedError" ++
    words "ReadingExternalRoutineSQLDataNotPermittedError"),
  (["PostgresError", "ExternalRoutineInvocationError"],
    words "InvalidSqlstateReturnedError NullValueInExternalRoutineNotAllowedError" ++
    words "TriggerProtocolViolatedError SrfProtocolViolatedError" ++
    words "EventTriggerProtocolViolatedError"),
  (["PostgresError", "SyntaxOrAccessError"],
    words "PostgresSyntaxError InsufficientPrivilegeError CannotCoerceError GroupingError" ++
    words "WindowingError InvalidRecursionError InvalidForeignKeyError InvalidNameError" ++
    words "NameTooLongError ReservedNameError DatatypeMismatchError" ++
    words "IndeterminateDatatypeError CollationMismatchError IndeterminateCollationError" ++
    words "WrongObjectTypeError GeneratedAlwaysError UndefinedColumnError" ++
    words "UndefinedFunctionError UndefinedTableError UndefinedParameterError" ++
    words "UndefinedObjectError DuplicateColumnError DuplicateCursorError" ++
    words "DuplicateDatabaseError DuplicateFunctionError DuplicatePreparedStatementError" ++
    words "DuplicateSchemaError DuplicateTableError DuplicateAliasError DuplicateObjectError" ++
    words "AmbiguousColumnError AmbiguousFunctionError AmbiguousParameterError" ++
    words "AmbiguousAliasError InvalidColumnReferenceError InvalidColumnDefinitionError" ++
    words "InvalidCursorDefinitionError InvalidDatabaseDefinitionError" ++
    words "InvalidFunctionDefinitionError InvalidPreparedStatementDefinitionError" ++
    words "InvalidSchemaDefinitionError InvalidTableDefinitionError" ++
    words "InvalidObjectDefinitionError"),
  (["PostgresError", "FDWError"],
    words "FDWColumnNameNotFoundError FDWDynamicParameterValueNeededError" ++
    words "FDWFunctionSequenceError FDWInconsistentDescriptorInformationError" ++
    words "FDWInvalidAttributeValueError FDWInvalidColumnNameError" ++
    words "FDWInvalidColumnNumberError FDWInvalidDataTypeError" ++
    words "FDWInvalidDataTypeDescriptorsError FDWInvalidDescriptorFieldIdentifierError" ++
    words "FDWInvalidHandleError FDWInvalidOptionIndexError FDWInvalidOptionNameError" ++
    words "FDWInvalidStringLengthOrBufferLengthError FDWInvalidStringFormatError" ++
    words "FDWInvalidUseOfNullPointerError FDWTooManyHandlesError FDWOutOfMemoryError" ++
    words "FDWNoSchemasError FDWOptionNameNotFoundError FDWReplyHandleError" ++
    words "FDWSchemaNotFoundError FDWTableNotFoundError FDWUnableToCreateExecutionError" ++
    words "FDWUnableToCreateReplyError FDWUnableToEstablishConnectionError"),
  (["PostgresError", "PLPGSQLError"],
    words "RaiseError NoDataFoundError TooManyRowsError AssertError")]

/-- The other kinds of a failure that the database server reports. -/
def serverKinds : Table := [
  (["PostgresError"],
    words "FatalPostgresError SQLStatementNotYetCompleteError PostgresConnectionError" ++
    words "TriggeredActionError FeatureNotSupportedError InvalidTransactionInitiationError" ++
    words "LocatorError InvalidGrantorError InvalidRoleSpecificationError DiagnosticsError" ++
    words "InvalidArgumentForXqueryError CaseNotFoundError CardinalityViolationError" ++
    words "DataError IntegrityConstraintViolationError InvalidCursorStateError" ++
    words "InvalidTransactionStateError InvalidSQLStatementNameError" ++
    words "TriggeredDataChangeViolationError InvalidAuthorizationSpecificationError" ++
    words "DependentPrivilegeDescriptorsStillExistError InvalidTransactionTerminationError" ++
    words "SQLRoutineError InvalidCursorNameError ExternalRoutineError" ++
    words "ExternalRoutineInvocationError SavepointError InvalidCatalogNameError" ++
    words "InvalidSchemaNameError TransactionRollbackError SyntaxOrAccessError" ++
    words "WithCheckOptionViolationError InsufficientResourcesError ProgramLimitExceededError" ++
    words "ObjectNotInPrerequisiteStateError OperatorInterventionError PostgresSystemError" ++
    words "SnapshotTooOldError ConfigFileError FDWError PLPGSQLError InternalServerError"),
  (["PostgresError", "FatalPostgresError"], words "UnknownPostgresError"),
  (["PostgresError", "PostgresConnectionError"],
    words "ConnectionDoesNotExistError ConnectionFailureError ClientCannotConnectError" ++
    words "ConnectionRejectionError TransactionResolutionUnknownError ProtocolViolationError"),
  (["PostgresError", "FeatureNotSupportedError"], words "InvalidCachedStatementError"),
  (["PostgresError", "LocatorError"], words "InvalidLocatorSpecificationError"),
  (["PostgresError", "InvalidGrantorError"], words "InvalidGrantOperationError"),
  (["PostgresError", "DiagnosticsError"],
    words "StackedDiagnosticsAccessedWithoutActiveHandlerError"),
  (["PostgresError", "InvalidTransactionStateError"],
    words "ActiveSQLTransactionError BranchTransactionAlreadyActiveError" ++
    words "HeldCursorRequiresSameIsolationLevelError" ++
    words "InappropriateAccessModeForBranchTransactionError" ++
    words "InappropriateIsolationLevelForBranchTransactionError" ++
    words "NoActiveSQLTransactionForBranchTransactionError ReadOnlySQLTransactionError" ++
    words "SchemaAndDataStatementMixingNotSupportedError NoActiveSQLTransactionError" ++
    words "InFailedSQLTransactionError IdleInTransactionSessionTimeoutError" ++
    words "TransactionTimeoutError"),
  (["PostgresError", "InvalidAuthorizationSpecificationError"], words "InvalidPasswordError"),
  (["PostgresError", "DependentPrivilegeDescriptorsStillExistError"],
    words "DependentObjectsStillExistError"),
  (["PostgresError", "SavepointError"], words "InvalidSavepointSpecificationError"),
  (["PostgresError", "TransactionRollbackError"],
    words "TransactionIntegrityConstraintViolationError SerializationError" ++
    words "StatementCompletionUnknownError DeadlockDetectedError"),
  (["PostgresError", "InsufficientResourcesError"],
    words "DiskFullError OutOfMemoryError TooManyConnectionsError" ++
    words "ConfigurationLimitExceededError"),
  (["PostgresError", "ProgramLimitExceededError"],
    words "StatementTooComplexError TooManyColumnsError TooManyArgumentsError"),
  (["PostgresError", "ObjectNotInPrerequisiteStateError"],
    words "ObjectInUseError CantChangeRuntimeParamError LockNotAvailableError" ++
    words "UnsafeNewEnumValueUsageError"),
  (["PostgresError", "OperatorInterventionError"],
    words "QueryCanceledError AdminShutdownError CrashShutdownError CannotConnectNowError" ++
    words "DatabaseDroppedError IdleSessionTimeoutError"),
  (["PostgresError", "PostgresSystemError"],
    words "PostgresIOError UndefinedFileError DuplicateFileError FileNameTooLongError"),
  (["PostgresError", "ConfigFileError"], words "LockFileExistsError"),
  (["PostgresError", "InternalServerError"], words "DataCorruptedError IndexCorruptedError")]

/-- The kinds of a failure of the client of the database, and the family of all others. -/
def clientKinds : Table := [
  ([], words "PostgresError InterfaceError InternalClientError"),
  (["InterfaceError"], words "UnsupportedClientFeatureError UnsupportedServerFeatureError"),
  (["InterfaceError", "ValueError"], words "ClientConfigurationError"),
  (["InternalClientError"],
    words "ProtocolError OutdatedSchemaCacheError TargetServerAttributeNotMatched"),
  (["Warning", "UserWarning"], words "InterfaceWarning"),
  (["Warning"], words "PostgresWarning"),
  (["Warning", "PostgresWarning"],
    words "DynamicResultSetsReturned ImplicitZeroBitPadding NullValueEliminatedInSetFunction" ++
    words "PrivilegeNotGranted PrivilegeNotRevoked StringDataRightTruncation" ++
    words "DeprecatedFeature NoData NoAdditionalDynamicResultSetsReturned")]

/-- The kinds of a failure of the database or of its client. -/
def database : Table := serverKinds ++ statementKinds ++ clientKinds

/-- A general kind; an unknown name belongs to the family of all failures only. -/
def ofName (name : Text) : Kind :=
  let name := properName name
  if interrupting.contains name then ⟨[base], name⟩
  else (find? general name).getD (within [] name)

/-- A kind that the database is told to report: its own names come before the general ones. -/
def ofDatabaseName (name : Text) : Kind := (find? database name).getD (ofName name)

/-- A kind of a failed HTTP exchange. -/
def ofTransportName (name : Text) : Kind := (find? transport name).getD (ofName name)

/-! ## The kinds that the library raises itself -/

def typeError : Kind := within [] "TypeError"

def attributeError : Kind := within [] "AttributeError"

def overflow : Kind := within ["ArithmeticError"] "OverflowError"

def zeroDivision : Kind := within ["ArithmeticError"] "ZeroDivisionError"

def valueError : Kind := within [] "ValueError"

def keyError : Kind := within ["LookupError"] "KeyError"

def indexError : Kind := within ["LookupError"] "IndexError"

def outOfMemory : Kind := within [] "MemoryError"

def runtimeError : Kind := within [] "RuntimeError"

def recursion : Kind := within ["RuntimeError"] "RecursionError"

def jsonDecode : Kind := within ["ValueError"] "JSONDecodeError"

def serialization : Kind := within ["ValueError"] "PydanticSerializationError"

def settings : Kind := within ["ValueError"] "SettingsError"

def unicodeDecode : Kind := within ["ValueError", "UnicodeError"] "UnicodeDecodeError"

def unicodeEncode : Kind := within ["ValueError", "UnicodeError"] "UnicodeEncodeError"

def uniqueViolation : Kind :=
  within [databaseFamily, "IntegrityConstraintViolationError"] "UniqueViolationError"

def connectError : Kind :=
  within ["HTTPError", "RequestError", transportFamily, "NetworkError"] "ConnectError"

def invalidUrl : Kind := within [] "InvalidURL"

/-- The family of the failures of a domain name. -/
def domain : Kind := within ["ValueError", "UnicodeError"] "IDNAError"

def domainPoint : Kind := within ["ValueError", "UnicodeError", "IDNAError"] "InvalidCodepoint"

def domainContext : Kind :=
  within ["ValueError", "UnicodeError", "IDNAError"] "InvalidCodepointContext"

def domainDirection : Kind := within ["ValueError", "UnicodeError", "IDNAError"] "IDNABidiError"

end Kind

end Entitlement
