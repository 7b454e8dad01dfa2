import RecordMapper.ValueType

/-! # Errors

An error is a kind, which says what went wrong, together with the kinds of the errors that it was
put on top of as context. The message of an error is that of its kind followed by those of its
causes, the outermost first.
-/

namespace RecordMapper

open Text

/-- A failure reported from outside: a message and the messages of the failures behind it, the
nearest first. -/
structure Report where
  /-- The message. -/
  message : String
  /-- The messages of the failures behind it. -/
  sources : List String
deriving DecidableEq

/-- Why a connection could not be made or used. -/
inductive ConnectionFault
  /-- A plain message. -/
  | plain (message : String)
  /-- A failure reported from outside. -/
  | reported (report : Report)
deriving DecidableEq

/-- What went wrong. -/
inductive ErrorKind
  /-- A failure of another component, passed on. -/
  | foreign (report : Report)
  /-- A message without further structure. -/
  | adhoc (message : String)
  /-- The database failed to run a statement. -/
  | executionFailed (report : Report)
  /-- No driver is registered for the kind of adapter. -/
  | adapterUnknown (adapter : String)
  /-- The operation was canceled, by its deadline or by a caller. -/
  | canceled (deadlineExceeded : Bool)
  /-- A statement does not make sense for its model. -/
  | compilation (message : String)
  /-- A connection could not be made or used. -/
  | connectionFailed (fault : ConnectionFault)
  /-- A model of that name is defined already. -/
  | duplicateModel (name : String)
  /-- A database configuration cannot be used. -/
  | invalidDatabaseConfig (message : String)
  /-- A model declaration cannot be used. -/
  | invalidSchema (message : String)
  /-- The model that an association stores its key on has no such attribute. -/
  | missingForeignKey (model association foreignKey : String)
  /-- A primary key is needed and not there. -/
  | missingPrimaryKey (model : String)
  /-- A value cannot be cast to a type. -/
  | typeConversion (value : Value) (target : ValueType)
  /-- A model has no such association. -/
  | unknownAssociation (model association : String)
  /-- No connection of that name is open. -/
  | unknownConnection (name : String)
  /-- No model of that name is defined. -/
  | unknownModel (name : String)
deriving DecidableEq

/-- An error: its kind and the kinds of its causes, from the nearest cause to the root. -/
structure Error where
  /-- What went wrong, in the outermost words. -/
  kind : ErrorKind
  /-- The kinds of the causes. -/
  causes : List ErrorKind := []
deriving DecidableEq

/-! ## Messages -/

/-- The message of a failure to connect; failures behind a reported one are not shown. -/
def ConnectionFault.message : ConnectionFault → String
  | plain message => message
  | reported report => report.message

namespace ErrorKind

/-- The name of a kind. -/
def name : ErrorKind → String
  | foreign _ => "Anyhow"
  | adhoc _ => "Adhoc"
  | executionFailed _ => "AdapterExecutionFailed"
  | adapterUnknown _ => "AdapterUnknown"
  | canceled _ => "Canceled"
  | compilation _ => "Compilation"
  | connectionFailed _ => "ConnectionFailed"
  | duplicateModel _ => "DuplicateModel"
  | invalidDatabaseConfig _ => "InvalidDatabaseConfig"
  | invalidSchema _ => "InvalidSchema"
  | missingForeignKey _ _ _ => "MissingForeignKey"
  | missingPrimaryKey _ => "MissingPrimaryKey"
  | typeConversion _ _ => "TypeConversion"
  | unknownAssociation _ _ => "UnknownAssociation"
  | unknownConnection _ => "UnknownConnection"
  | unknownModel _ => "UnknownModel"

/-- The message of a kind. -/
def message : ErrorKind → String
  | foreign report => report.message
  | adhoc message => message
  | executionFailed report =>
    "adapter execution failed: " ++ ": ".intercalate (report.message :: report.sources)
  | adapterUnknown adapter => "unknown adapter `" ++ adapter ++ "`"
  | canceled true => "operation canceled: deadline exceeded"
  | canceled false => "operation canceled"
  | compilation message => "compilation failed: " ++ message
  | connectionFailed fault => "connection failed: " ++ fault.message
  | duplicateModel name => "model `" ++ name ++ "` is already defined"
  | invalidDatabaseConfig message => "invalid database config: " ++ message
  | invalidSchema message => "invalid schema: " ++ message
  | missingForeignKey model association foreignKey =>
    "association `" ++ association ++ "` expects foreign key `" ++ foreignKey ++ "` on model `" ++
      model ++ "`"
  | missingPrimaryKey model => "missing primary key for `" ++ model ++ "`"
  | typeConversion value target => "cannot cast " ++ value.display ++ " to " ++ target.name
  | unknownAssociation model association =>
    "model `" ++ model ++ "` has no association `" ++ association ++ "`"
  | unknownConnection name => "unknown connection `" ++ name ++ "`"
  | unknownModel name => "unknown model `" ++ name ++ "`"

/-- What callers can ask about an error to tell it from others. -/
inductive Trait
  | executionFailed
  | adapterUnknown
  | canceled
  | deadlineExceeded
  | compilation
  | connectionFailed
  | duplicateModel
  | invalidDatabaseConfig
  | invalidSchema
  | missingForeignKey
  | missingPrimaryKey
  | typeConversion
  | unknownAssociation
  | unknownConnection
  | unknownModel
deriving DecidableEq

/-- The traits of a kind; failures that are passed on and plain messages have none. -/
def traits : ErrorKind → List Trait
  | foreign _ => []
  | adhoc _ => []
  | executionFailed _ => [.executionFailed]
  | adapterUnknown _ => [.adapterUnknown]
  | canceled deadlineExceeded =>
    if deadlineExceeded then [.canceled, .deadlineExceeded] else [.canceled]
  | compilation _ => [.compilation]
  | connectionFailed _ => [.connectionFailed]
  | duplicateModel _ => [.duplicateModel]
  | invalidDatabaseConfig _ => [.invalidDatabaseConfig]
  | invalidSchema _ => [.invalidSchema]
  | missingForeignKey _ _ _ => [.missingForeignKey]
  | missingPrimaryKey _ => [.missingPrimaryKey]
  | typeConversion _ _ => [.typeConversion]
  | unknownAssociation _ _ => [.unknownAssociation]
  | unknownConnection _ => [.unknownConnection]
  | unknownModel _ => [.unknownModel]

/-- Whether the kind arises while a statement is worked out, before a database is asked. -/
def isCompilationTime : ErrorKind → Bool
  | compilation _ | typeConversion _ _ | unknownModel _ | unknownAssociation _ _
  | missingForeignKey _ _ _ | missingPrimaryKey _ => true
  | _ => false

end ErrorKind

namespace Error

/-- An error without causes. -/
def of (kind : ErrorKind) : Error := ⟨kind, []⟩

/-- The kinds of the error and its causes, the outermost first. -/
def chain (e : Error) : List ErrorKind := e.kind :: e.causes

/-- The messages of the error and its causes, the outermost first, with colons between. -/
def message (e : Error) : String := ": ".intercalate (e.chain.map ErrorKind.message)

/-- The innermost cause, which is the error itself if it has none. -/
def root (e : Error) : Error := of (e.causes.getLastD e.kind)

/-- Whether the error has a trait; its causes do not count. -/
def has (e : Error) (t : ErrorKind.Trait) : Bool := e.kind.traits.contains t

/-- Whether the error or one of its causes arose before a database was asked. -/
def isCompilationTime (e : Error) : Bool := e.chain.any ErrorKind.isCompilationTime

/-- The messages behind the error as a component outside sees them. Failures of a database or a
connection first repeat the error's own words; causes given as context are not among them. -/
def sources (e : Error) : List String :=
  match e.kind with
  | .executionFailed report => e.kind.message :: report.message :: report.sources
  | .connectionFailed (.plain message) => [e.kind.message, message]
  | .connectionFailed (.reported report) => e.kind.message :: report.message :: report.sources
  | .foreign report => report.message :: report.sources
  | _ => []

/-! ## Context -/

/-- Why an error cannot be put on top of another one. -/
inductive ContextFault
  /-- It has causes of its own, which would be lost. -/
  | hasCause
deriving DecidableEq

/-- The words that report the fault. -/
def ContextFault.message : ContextFault → String
  | hasCause => "consequent error must not already have a cause"

/-- Puts `consequent` on top of `e`, which becomes its cause. A consequent that is `shared` with
another holder cannot be taken apart, so only its own message is kept; one that is not must have no
causes. -/
def context (e consequent : Error) (shared : Bool) : Except ContextFault Error :=
  if shared then .ok ⟨.adhoc consequent.kind.message, e.chain⟩
  else if consequent.causes.isEmpty then .ok ⟨consequent.kind, e.chain⟩
  else .error .hasCause

end Error

/-! ## Types and casts -/

/-- The type with the given name or short name; the error repeats the name as given. -/
def ValueType.ofName (s : String) : Except Error ValueType :=
  match ofName? s with
  | some t => .ok t
  | none => .error (.of (.invalidSchema ("unknown attribute type `" ++ s ++ "`")))

/-- The value as one of the type; the error shows the value that cannot be one. -/
def ValueType.cast (t : ValueType) (v : Value) : Except Error Value :=
  match t.cast? v with
  | some w => .ok w
  | none => .error (.of (.typeConversion v t))

/-! ## Shapes under inspection -/

/-- The shape of a message with the messages behind it. -/
def reportShape (message : String) : List String → Shape
  | [] => .fields "Engine" [("message", .text message), ("source", .option none)]
  | source :: sources =>
    .fields "Engine" [("message", .text message),
      ("source", .option (some (reportShape source sources)))]

/-- The shape of a failure passed on from another component. What was said on top of it is a phrase.
-/
def foreignShape (message : String) : List String → Shape
  | [] => .text message
  | source :: sources =>
    .fields "Error" [("context", .phrase message), ("source", foreignShape source sources)]

/-- The shape of a failure to connect. -/
def ConnectionFault.shape : ConnectionFault → Shape
  | plain message => .text message
  | reported report => reportShape report.message report.sources

/-- The name and the fields of what a kind carries. -/
def ErrorKind.content : ErrorKind → Shape
  | foreign report => foreignShape report.message report.sources
  | adhoc message => .fields "AdhocError" [("message", .text message)]
  | executionFailed report =>
    .fields "AdapterExecutionFailed" [("inner", reportShape report.message report.sources)]
  | adapterUnknown adapter => .fields "AdapterUnknown" [("adapter", .text adapter)]
  | canceled deadlineExceeded => .fields "Canceled" [("deadline_exceeded", .bool deadlineExceeded)]
  | compilation message => .fields "CompilationError" [("message", .text message)]
  | connectionFailed fault => .fields "ConnectionFailed" [("inner", fault.shape)]
  | duplicateModel name => .fields "DuplicateModel" [("name", .text name)]
  | invalidDatabaseConfig message => .fields "InvalidDatabaseConfig" [("message", .text message)]
  | invalidSchema message => .fields "InvalidSchema" [("message", .text message)]
  | missingForeignKey model association foreignKey =>
    .fields "MissingForeignKey"
      [("model", .text model), ("association", .text association),
        ("foreign_key", .text foreignKey)]
  | missingPrimaryKey model => .fields "MissingPrimaryKey" [("model", .text model)]
  | typeConversion value target =>
    .fields "TypeConversionError" [("value", value.shape), ("to_type", .text target.name)]
  | unknownAssociation model association =>
    .fields "UnknownAssociation" [("model", .text model), ("association", .text association)]
  | unknownConnection name => .fields "UnknownConnection" [("name", .text name)]
  | unknownModel name => .fields "UnknownModel" [("name", .text name)]

/-- The shape of a kind: its name around what it carries. -/
def ErrorKind.shape (kind : ErrorKind) : Shape := .call kind.name [kind.content]

/-- The shape of a kind and the kinds of its causes. -/
def chainShape (kind : ErrorKind) : List ErrorKind → Shape
  | [] => .fields "Error" [("kind", kind.shape), ("cause", .option none)]
  | cause :: causes =>
    .fields "Error" [("kind", kind.shape), ("cause", .option (some (chainShape cause causes)))]

/-- The shape of an error. -/
def Error.shape (e : Error) : Shape := chainShape e.kind e.causes

end RecordMapper
