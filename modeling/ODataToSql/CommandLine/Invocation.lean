/-!
# Invocations

What the arguments of the program ask for. There are three subcommands, each with options of its
own: an option is `--name value` or `--name=value`, a flag is `--name`. A value that is given
apart is taken up only when the next argument is looked at, so of two mistakes the one in an
option that is complete comes after the one in the argument that completes it.

`Invocation.ofArguments` reads the arguments up to the first mistake.
-/

namespace ODataToSql

/-- What the program is asked to do. -/
inductive Invocation where
  /-- Translate the request in a file with the configuration in a directory. -/
  | translate (configuration request : String) (command : Option String) (validate : Bool)
  /-- Store the configuration to start from in a directory. -/
  | create (configuration : String)
  /-- Print the schema of configuration files. -/
  | printSchema
deriving DecidableEq, Repr

/-- Why the arguments ask for nothing. -/
inductive UsageError where
  | missingSubcommand
  | invalidSubcommand
  | missingRequiredArgument
  | unknownArgument
  /-- An option without its value, or with an empty one where there has to be a path. -/
  | invalidValue
  /-- A value for a flag. -/
  | tooManyValues
  /-- An option that is given twice. -/
  | argumentConflict
  /-- The help text is asked for. -/
  | displayHelp
deriving DecidableEq, Repr

namespace Invocation

/-! ## Options -/

/-- The kinds of options. -/
inductive OptionKind where
  | flag
  | text
  /-- A path, which is not empty. -/
  | path
deriving DecidableEq, Repr

/-- An option of a subcommand. -/
structure OptionSpec where
  name : String
  kind : OptionKind

/-- What was read so far: the values that were taken up, and the option that is still to be. -/
structure Progress where
  given : List (String × String)
  /-- An option with its value, which is missing as long as none was seen. -/
  pending : Option (OptionSpec × Option String)

/-- Takes up an option and its value. -/
def take (given : List (String × String)) (option : OptionSpec) (value : String) :
    Except UsageError (List (String × String)) :=
  if given.any fun entry => entry.1 == option.name then .error .argumentConflict
  else if option.kind = .path ∧ value.isEmpty then .error .invalidValue
  else .ok ((option.name, value) :: given)

/-- Takes up the option that is still to be. -/
def settle (progress : Progress) : Except UsageError (List (String × String)) :=
  match progress.pending with
  | none => .ok progress.given
  | some (_, none) => .error .invalidValue
  | some (option, some value) => take progress.given option value

/-- The name and the value of an argument after its two dashes. -/
def splitLong (text : List Char) : String × Option String :=
  let (name, rest) := text.span (· != '=')
  (String.ofList name, if rest.isEmpty then none else some (String.ofList rest.tail))

/-- Reads an argument that starts with two dashes. -/
def readLong (options : List OptionSpec) (progress : Progress) (text : List Char) :
    Except UsageError Progress :=
  let (name, value) := splitLong text
  if name = "help" then
    match value with
    | some _ => .error .tooManyValues
    | none => do
      let _ ← settle progress
      .error .displayHelp
  else
    match options.find? fun option => option.name == name with
    | none => .error .unknownArgument
    | some option =>
      match option.kind, value with
      | .flag, some _ => .error .tooManyValues
      | .flag, none => do
        let given ← settle progress
        return ⟨← take given option "", none⟩
      | _, some value => do
        let given ← settle progress
        return ⟨← take given option value, none⟩
      | _, none => do
        return ⟨← settle progress, some (option, none)⟩

/-- Reads an argument that starts with one dash. -/
def readShort (progress : Progress) (text : List Char) : Except UsageError Progress :=
  if text.head? = some 'h' then do
    let _ ← settle progress
    .error .displayHelp
  else .error .unknownArgument

/-- Reads an argument of a subcommand. -/
def readArgument (options : List OptionSpec) (progress : Progress) (argument : String) :
    Except UsageError Progress :=
  match argument.toList with
  | '-' :: '-' :: rest => readLong options progress rest
  | '-' :: c :: rest => readShort progress (c :: rest)
  | _ =>
    match progress.pending with
    | some (option, none) => .ok ⟨progress.given, some (option, some argument)⟩
    | _ => .error .unknownArgument

/-- Reads the arguments of a subcommand. After two dashes nothing may follow. -/
def readOptions (options : List OptionSpec) (progress : Progress) :
    List String → Except UsageError (List (String × String))
  | [] => settle progress
  | "--" :: rest => if rest.isEmpty then settle progress else .error .unknownArgument
  | argument :: rest => do
    let progress ← readArgument options progress argument
    readOptions options progress rest

/-- The values of the options of a subcommand, from the last one to the first. -/
def optionValues (options : List OptionSpec) (arguments : List String) :
    Except UsageError (String → Option String) := do
  let given ← readOptions options ⟨[], none⟩ arguments
  return fun name => (given.find? fun entry => entry.1 == name).map Prod.snd

/-- The value of an option that has to be given. -/
def required (value : Option String) : Except UsageError String :=
  match value with
  | some value => .ok value
  | none => .error .missingRequiredArgument

/-! ## Subcommands -/

/-- The names of the subcommands. The last one explains the others. -/
def subcommands : List String := ["translate", "initialize", "print-schema", "help"]

/-- Reads the arguments after `translate`. -/
def ofTranslateArguments (arguments : List String) : Except UsageError Invocation := do
  let value ← optionValues
    [⟨"configuration", .path⟩, ⟨"request", .path⟩, ⟨"command", .text⟩, ⟨"no-validate", .flag⟩,
      ⟨"pretty", .flag⟩]
    arguments
  let configuration ← required (value "configuration")
  let request ← required (value "request")
  return .translate configuration request (value "command") (value "no-validate").isNone

/-- Reads the arguments after `initialize`. -/
def ofCreateArguments (arguments : List String) : Except UsageError Invocation := do
  let value ← optionValues [⟨"configuration", .path⟩] arguments
  return .create (← required (value "configuration"))

/-- Reads the arguments after `print-schema`. -/
def ofPrintSchemaArguments (arguments : List String) : Except UsageError Invocation := do
  let _ ← optionValues [] arguments
  return .printSchema

/-- What asking for help with a subcommand comes to. -/
def helpError : List String → UsageError
  | [] => .displayHelp
  | [name] => if subcommands.contains name then .displayHelp else .invalidSubcommand
  | _ => .invalidSubcommand

/-- Why arguments that do not start with a subcommand ask for nothing. -/
def leadingError (argument : String) (rest : List String) : UsageError :=
  match argument.toList with
  | ['-', '-'] =>
    match rest with
    | [] => .missingSubcommand
    | name :: _ => if subcommands.contains name then .unknownArgument else .invalidSubcommand
  | '-' :: '-' :: text =>
    match splitLong text with
    | ("help", none) => .displayHelp
    | ("help", some _) => .tooManyValues
    | _ => .unknownArgument
  | '-' :: c :: _ => if c = 'h' then .displayHelp else .unknownArgument
  | _ => .invalidSubcommand

/-- Reads the arguments of the program. -/
def ofArguments : List String → Except UsageError Invocation
  | [] => .error .missingSubcommand
  | "translate" :: arguments => ofTranslateArguments arguments
  | "initialize" :: arguments => ofCreateArguments arguments
  | "print-schema" :: arguments => ofPrintSchemaArguments arguments
  | "help" :: arguments => .error (helpError arguments)
  | argument :: rest => .error (leadingError argument rest)

end Invocation
end ODataToSql
