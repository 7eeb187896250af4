import SqlCommands.Config
import SqlCommands.Toml.Reader

/-!
# Configuration files

A configuration is kept in a TOML file: three keys at the root, each with a default; other keys
are skipped. `Config.toToml` writes it and `Config.ofToml?` reads it back, acceptable or not;
loading a file also validates it.

Files are reached through a `FileSystem`, whose failures come with a detail of its own.
-/

namespace SqlCommands

/-- Access to files by path, on a state of type `φ`. -/
structure FileSystem (φ : Type) where
  /-- Whether there is something at a path. -/
  exists? : φ → String → Bool
  /-- The text of a file. -/
  read : φ → String → Except String String
  /-- Write a text to a file. -/
  write : φ → String → String → Except String Unit × φ

namespace Config

/-! ### Text -/

/-- A configuration as a file. -/
def toToml (c : Config) : String :=
  "sensitive_data_logging = " ++ (if c.sensitiveDataLogging then "true" else "false") ++ "\n"
    ++ "parameter_prefix = " ++ Toml.Text.print c.parameterPrefix ++ "\n"
    ++ "parameter_name_base = " ++ Toml.Text.print c.parameterNameBase ++ "\n"

/-- A boolean key, or its default where it is absent. -/
def boolEntry? (key : String) (standard : Bool) (es : Toml.Entries) : Option Bool :=
  match es.lookup key with
  | none => some standard
  | some (.boolean b) => some b
  | some _ => none

/-- A string key, or its default where it is absent. -/
def stringEntry? (key standard : String) (es : Toml.Entries) : Option String :=
  match es.lookup key with
  | none => some standard
  | some (.string s) => some s
  | some _ => none

/-- The configuration of a root table. -/
def ofEntries? (es : Toml.Entries) : Option Config := do
  return {
    sensitiveDataLogging :=
      ← boolEntry? "sensitive_data_logging" standard.sensitiveDataLogging es
    parameterPrefix := ← stringEntry? "parameter_prefix" standard.parameterPrefix es
    parameterNameBase := ← stringEntry? "parameter_name_base" standard.parameterNameBase es }

/-- The configuration of a file's text. -/
def ofToml? (text : String) : Option Config := (Toml.parse? text).bind ofEntries?

/-! ### Files -/

/-- The error of a file operation. -/
def fileError (operation path detail : String) : Error :=
  .config ("Failed to " ++ operation ++ " config file '" ++ path ++ "': " ++ detail)

/-- Load an acceptable configuration. -/
def load {φ : Type} (fs : FileSystem φ) (files : φ) (path : String) : Except Error Config := do
  let text ← (fs.read files path).mapError (fileError "read" path)
  match ofToml? text with
  | none => throw (fileError "parse" path "not a configuration")
  | some c => do
    c.validate
    return c

/-- Save a configuration, acceptable or not. -/
def save {φ : Type} (fs : FileSystem φ) (files : φ) (path : String) (c : Config) :
    Except Error Unit × φ :=
  let (result, files) := fs.write files path c.toToml
  (result.mapError (fileError "write" path), files)

/-- Write the default file where there is none. -/
def writeDefault {φ : Type} (fs : FileSystem φ) (files : φ) (path : String) :
    Except Error Unit × φ :=
  if fs.exists? files path then (.ok (), files)
  else
    let (result, files) := fs.write files path defaultText
    (result.mapError (fileError "write default" path), files)

end Config

end SqlCommands
