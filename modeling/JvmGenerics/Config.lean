import JvmGenerics.Import.Run
import JvmGenerics.Logging.Filter
import JvmGenerics.Text.Path
import JvmGenerics.Text.Quoted
import JvmGenerics.Toml.Document

/-!
# Configuration

The settings of an import are read from a TOML document. Every setting has a
standard value, and a document may not contain anything else. A document that
is no TOML is told apart from one with a wrong setting, of which the first one
in the order of the document is reported.
-/

namespace JvmGenerics

/-- The settings of the log. -/
structure LoggingConfig where
  level : String
  json : Bool
deriving DecidableEq

/-- The settings of an import. -/
structure ImportConfig where
  resolveMissingFromClasspath : Bool
  classpath : List String
  logging : LoggingConfig
deriving DecidableEq

/-- The reasons why settings cannot be read. -/
inductive ConfigError
  | unreadable (path : String)
  | notToml
  | unknownField (name : String) (known : List String)
  | wrongType (found expected : String)
deriving DecidableEq

namespace ConfigError

def quoteName (name : String) : String :=
  "`" ++ name ++ "`"

def alternatives : List String → String
  | [first, second] => quoteName first ++ " or " ++ quoteName second
  | names => "one of " ++ ", ".intercalate (names.map quoteName)

/-- What is wrong with the settings, if they could be read as TOML. -/
def message : ConfigError → Option String
  | unreadable _ => none
  | notToml => none
  | unknownField name known =>
    some ("failed to parse toml config: unknown field " ++ quoteName name ++ ", expected "
      ++ alternatives known)
  | wrongType found expected =>
    some ("failed to parse toml config: invalid type: " ++ found ++ ", expected " ++ expected)

end ConfigError

/-- What a value is called where another type is expected. -/
def Toml.Value.described : Toml.Value → String
  | string text => "string " ++ Text.quote text
  | integer value => "integer " ++ ConfigError.quoteName (toString value)
  | float literal => "floating point " ++ ConfigError.quoteName literal.text
  | boolean value => "boolean " ++ ConfigError.quoteName (if value then "true" else "false")
  | datetime _ => "map"
  | array _ => "sequence"
  | table _ _ => "map"
  | tableArray _ => "sequence"

def Toml.Value.asBoolean : Toml.Value → Except ConfigError Bool
  | boolean value => .ok value
  | other => .error (.wrongType other.described "a boolean")

/-- The value as a text, for which the expectation is named. -/
def Toml.Value.asText (expected : String) : Toml.Value → Except ConfigError String
  | string text => .ok text
  | other => .error (.wrongType other.described expected)

def Toml.Value.asPaths : Toml.Value → Except ConfigError (List String)
  | array items => items.mapM (asText "path string")
  | tableArray tables =>
    tables.mapM fun entries => asText "path string" (Toml.Value.table .header entries)
  | other => .error (.wrongType other.described "a sequence")

namespace LoggingConfig

/-- The settings that count where the document has none. -/
def standard : LoggingConfig := ⟨"info", false⟩

def fieldNames : List String := ["level", "json"]

def setField (config : LoggingConfig) (name : String) (value : Toml.Value) :
    Except ConfigError LoggingConfig :=
  match name with
  | "level" => do return { config with level := ← value.asText "a string" }
  | "json" => do return { config with json := ← value.asBoolean }
  | other => .error (.unknownField other fieldNames)

/-- The settings from a table, or from a list that gives them in order. A date
counts as a table with one field of a reserved name. -/
def ofValue : Toml.Value → Except ConfigError LoggingConfig
  | .table _ entries =>
    entries.foldlM (fun config entry => config.setField entry.1 entry.2) standard
  | .array items =>
    (fieldNames.zip items).foldlM (fun config entry => config.setField entry.1 entry.2) standard
  | .tableArray tables =>
    (fieldNames.zip tables).foldlM
      (fun config entry => config.setField entry.1 (.table .header entry.2)) standard
  | .datetime _ => .error (.unknownField "$__toml_private_datetime" fieldNames)
  | other => .error (.wrongType other.described "struct LoggingConfig")

/-- The filter of log events by these settings and the environment. -/
def filter (config : LoggingConfig) (environment : Option String) :
    Except LogFilterError LogFilter :=
  LogFilter.effective config.level environment

end LoggingConfig

namespace ImportConfig

/-- The settings that count where the document has none. -/
def standard : ImportConfig :=
  ⟨ImportOptions.standard.resolveMissingFromClasspath, [], LoggingConfig.standard⟩

def fieldNames : List String :=
  ["resolve_missing_dependencies_from_classpath", "classpath", "logging"]

def setField (config : ImportConfig) (name : String) (value : Toml.Value) :
    Except ConfigError ImportConfig :=
  match name with
  | "resolve_missing_dependencies_from_classpath" => do
    return { config with resolveMissingFromClasspath := ← value.asBoolean }
  | "classpath" => do return { config with classpath := ← value.asPaths }
  | "logging" => do return { config with logging := ← LoggingConfig.ofValue value }
  | other => .error (.unknownField other fieldNames)

def parse (text : String) : Except ConfigError ImportConfig :=
  match Toml.parse text with
  | none => .error .notToml
  | some entries =>
    entries.foldlM (fun config entry => config.setField entry.1 entry.2) standard

/-- Relative paths of the classpath start from the directory of the document. -/
def relativeTo (config : ImportConfig) (base : String) : ImportConfig :=
  { config with classpath := config.classpath.map (Path.join base) }

/-- Read settings from a file at a path, which may be missing and need not be text. -/
def ofFile (path : String) (content : Option ByteArray) : Except ConfigError ImportConfig :=
  match content.bind String.fromUTF8? with
  | none => .error (.unreadable path)
  | some text => do
    let config ← parse text
    return (Path.parent? path).elim config config.relativeTo

def importOptions (config : ImportConfig) : ImportOptions :=
  ⟨config.resolveMissingFromClasspath⟩

end ImportConfig

end JvmGenerics
