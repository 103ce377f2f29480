import StaffSearch.Settings.Json

/-!
# The command line

The words of the command line are options, some of which take a value: as the rest of the word
behind an equals sign, or as the next word. The short form of an option may have its value right
behind it. There is nothing but options, and none may come twice.

The first fault counts. A value is looked at when the next option is understood or the line ends, so
a word that is not understood comes first.
-/

namespace StaffSearch.CommandLine

open StaffSearch.Text

/-! ## Options -/

/-- The options that take a value. -/
inductive ValueOption where
  /-- The file with the settings. -/
  | config
  /-- The address to listen at. -/
  | bind
  /-- The filter of the log. -/
  | logLevel
  /-- The kind of store. -/
  | store
  /-- The file to write a sample of the settings to. -/
  | generateConfig
  deriving DecidableEq, Repr

/-- The options that stand alone. -/
inductive Question where
  /-- How the program is used. -/
  | help
  /-- Which version it is. -/
  | version
  deriving DecidableEq, Repr

namespace ValueOption

/-- Every option that takes a value. -/
def all : List ValueOption := [config, bind, logLevel, store, generateConfig]

/-- The name of an option. -/
def label : ValueOption → String
  | config => "config"
  | bind => "bind"
  | logLevel => "log-level"
  | store => "store"
  | generateConfig => "generate-config"

/-- The name of the value of an option. -/
def valueLabel : ValueOption → String
  | config => "CONFIG"
  | bind => "BIND"
  | logLevel => "LOG_LEVEL"
  | store => "STORE"
  | generateConfig => "PATH"

/-- An option with its value, as errors name it. -/
def usage (option : ValueOption) : String :=
  "--" ++ option.label ++ " <" ++ option.valueLabel ++ ">"

/-- Whether the value of an option must not be empty. -/
def needsText : ValueOption → Bool
  | config | store | generateConfig => true
  | bind | logLevel => false

end ValueOption

/-- The name of a question. -/
def Question.label : Question → String
  | help => "help"
  | version => "version"

/-- The values of the options. -/
structure Arguments where
  /-- The file with the settings. -/
  config : Option String := none
  /-- The address to listen at. -/
  bind : Option String := none
  /-- The filter of the log. -/
  logLevel : Option String := none
  /-- The kind of store. -/
  store : Option Backend := none
  /-- The file to write a sample of the settings to. -/
  generateConfig : Option String := none
  deriving DecidableEq, Repr

/-- What a command line asks for. -/
inductive Command where
  /-- An answer about the program. -/
  | answer (question : Question)
  /-- A run of the program. -/
  | run (arguments : Arguments)
  deriving DecidableEq, Repr

/-! ## Faults -/

/-- What can be wrong with a command line. -/
inductive UsageError where
  /-- A word is not understood. -/
  | unexpectedArgument (word : String)
  /-- An option has no value. -/
  | missingValue (option : ValueOption)
  /-- The value of an option is none of those it can have. -/
  | invalidValue (option : ValueOption) (value : String)
  /-- An option comes twice. -/
  | repeated (option : ValueOption)
  /-- An option that stands alone has a value. -/
  | unexpectedValue (question : Question) (value : String)
  deriving DecidableEq, Repr

/-- The description of a fault. -/
def UsageError.describe : UsageError → String
  | unexpectedArgument word => "unexpected argument '" ++ word ++ "' found"
  | missingValue option =>
    "a value is required for '" ++ option.usage ++ "' but none was supplied"
  | invalidValue option value => "invalid value '" ++ value ++ "' for '" ++ option.usage ++ "'"
  | repeated option => "the argument '" ++ option.usage ++ "' cannot be used multiple times"
  | unexpectedValue question value =>
    "unexpected value '" ++ value ++ "' for '--" ++ question.label ++
      "' found; no more were expected"

/-! ## Values -/

/-- Whether an option has a value already. -/
def Arguments.has (arguments : Arguments) : ValueOption → Bool
  | .config => arguments.config.isSome
  | .bind => arguments.bind.isSome
  | .logLevel => arguments.logLevel.isSome
  | .store => arguments.store.isSome
  | .generateConfig => arguments.generateConfig.isSome

/-- The arguments with the value of an option. -/
def Arguments.set (arguments : Arguments) (option : ValueOption) (value : String) :
    Except UsageError Arguments :=
  if arguments.has option then .error (.repeated option)
  else if value.isEmpty && option.needsText then .error (.missingValue option)
  else
    match option with
    | .config => .ok { arguments with config := some value }
    | .bind => .ok { arguments with bind := some value }
    | .logLevel => .ok { arguments with logLevel := some value }
    | .generateConfig => .ok { arguments with generateConfig := some value }
    | .store =>
      match Backend.ofLabel? value with
      | some backend => .ok { arguments with store := some backend }
      | none => .error (.invalidValue .store value)

/-- An option that has been understood and whose value has not been looked at. -/
structure Pending where
  /-- The option. -/
  option : ValueOption
  /-- Its value, if it has come. -/
  value : Option String := none

/-- The arguments so far. -/
structure Progress where
  /-- The values that have been looked at. -/
  arguments : Arguments := {}
  /-- The last option. -/
  pending : Option Pending := none

/-- Looks at the value of the last option. -/
def Progress.settle (progress : Progress) : Except UsageError Arguments :=
  match progress.pending with
  | none => .ok progress.arguments
  | some { option, value := none } => .error (.missingValue option)
  | some { option, value := some value } => progress.arguments.set option value

/-! ## Words -/

/-- What a word of the command line does. -/
inductive Word where
  /-- It names an option, perhaps with a value. -/
  | option (option : ValueOption) (value : Option String)
  /-- It asks a question. -/
  | question (question : Question)
  /-- It cannot be understood. -/
  | fault (cause : UsageError)
  /-- It is a value. -/
  | value (value : String)

/-- A word that starts with two hyphens; a value may follow behind an equals sign. -/
def longWord (text : List Char) : Word :=
  let (name, value) := match cutAtFirst? '=' text with
    | some (name, value) => (String.ofList name, some (String.ofList value))
    | none => (String.ofList text, none)
  match ValueOption.all.find? fun option => option.label == name with
  | some option => .option option value
  | none =>
    match [Question.help, Question.version].find? fun question => question.label == name, value with
    | some question, none => .question question
    | some question, some value => .fault (.unexpectedValue question value)
    | none, _ => .fault (.unexpectedArgument ("--" ++ name))

/-- A word that starts with one hyphen; a value may follow at once or behind an equals sign. -/
def shortWord (sign : Char) (rest : List Char) : Word :=
  if sign = 'c' then
    match rest with
    | [] => .option .config none
    | '=' :: value => .option .config (some (String.ofList value))
    | value => .option .config (some (String.ofList value))
  else if sign = 'h' then .question .help
  else if sign = 'V' then .question .version
  else .fault (.unexpectedArgument (String.ofList ['-', sign]))

/-- What a word does. -/
def Word.of (text : String) : Word :=
  match text.toList with
  | '-' :: '-' :: rest => longWord rest
  | '-' :: sign :: rest => shortWord sign rest
  | _ => .value text

/-- Reads words from the command line. -/
def parseFrom (progress : Progress) : List String → Except UsageError Command
  | [] => progress.settle.map .run
  | ["--"] => progress.settle.map .run
  | "--" :: word :: _ => .error (.unexpectedArgument word)
  | word :: rest =>
    match Word.of word with
    | .fault cause => .error cause
    | .question question =>
      match progress.settle with
      | .error cause => .error cause
      | .ok _ => .ok (.answer question)
    | .option option value =>
      match progress.settle with
      | .error cause => .error cause
      | .ok arguments => parseFrom { arguments, pending := some { option, value } } rest
    | .value value =>
      match progress.pending with
      | some { option, value := none } =>
        parseFrom { progress with pending := some { option, value := some value } } rest
      | _ => .error (.unexpectedArgument value)

/-- What the words of a command line ask for; `configVariable` is the file with the settings that
the environment names, which counts if the command line names none. -/
def parse (configVariable : Option String) (words : List String) : Except UsageError Command :=
  match parseFrom {} words, configVariable with
  | .ok (.run arguments), some file =>
    if arguments.config.isSome then .ok (.run arguments)
    else (arguments.set .config file).map .run
  | result, _ => result

/-! ## Questions -/

/-- The name of the program. -/
def programName : String := "employee-search"

/-- The version of the program. -/
def version : String := "0.1.0"

/-- How the program is used. -/
def helpText (configVariable : Option String) : String :=
  String.intercalate "\n" [
    "Natural-language employee search API",
    "",
    "Usage: employee-search [OPTIONS]",
    "",
    "Options:",
    "  -c, --config <CONFIG>         Configuration file (TOML) [env: EMPLOYEE_SEARCH_CONFIG=" ++
      configVariable.getD "" ++ "]",
    "      --bind <BIND>             Listen address, e.g. 0.0.0.0:5000",
    "      --log-level <LOG_LEVEL>   Log filter (trace, debug, info, warn, error)",
    "      --store <STORE>           Record store backend [possible values: mongodb, memory]",
    "      --generate-config <PATH>  Write a sample configuration file and exit",
    "  -h, --help                    Print help",
    "  -V, --version                 Print version",
    ""]

/-- The answer to a question. -/
def answerText (configVariable : Option String) : Question → String
  | .help => helpText configVariable
  | .version => programName ++ " " ++ version ++ "\n"

end StaffSearch.CommandLine
