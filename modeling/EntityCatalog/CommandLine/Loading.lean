import EntityCatalog.Catalog.Basic
import EntityCatalog.Config.Document
import EntityCatalog.Files.Basic
import EntityCatalog.Files.Path
import EntityCatalog.Json.Parser

/-!
Modules loaded from their directories.

A directory holds the configuration of a module, the schemas that it names, and labels for some
locales.  A module without a configuration is left out; a schema or a file of labels that cannot
be read is reported and then missing.
-/

namespace EntityCatalog.CommandLine

/-- The name of the file of a configuration. -/
def configFile : String := "fqm-config.toml"

/-- The name of the directory of labels. -/
def translationsDirectory : String := "translations"

/-- A result with the lines that were reported on the way to it. -/
abbrev Reported (α : Type) := α × List String

variable {m : Type → Type} [Monad m]

/-- Why a configuration is not loaded. -/
inductive ConfigLoadError where
  | absent (path : String)
  | unreadable (reason : FileError)
  | refused (reason : ConfigError)

/-- The reason in words. -/
def ConfigLoadError.message : ConfigLoadError → String
  | absent path => "Config file not found: " ++ path
  | unreadable reason => "Failed to read config file: " ++ reason.message
  | refused reason => reason.message

/-- Loads a configuration. -/
def loadConfig (files : Files m) (path : String) : m (Except ConfigLoadError ModuleConfig) := do
  match ← files.read path with
  | .error e => return .error (if e.isAbsent then .absent path else .unreadable e)
  | .ok document => return (ModuleConfig.parse document).mapError .refused

/-- Loads a JSON value. -/
def loadJson (files : Files m) (path : String) : m (Reported (Option Json)) := do
  match ← files.read path with
  | .error e => return (none, ["Error reading file '" ++ path ++ "': " ++ e.message])
  | .ok document =>
      match Json.parse document with
      | .error e => return (none, ["Error parsing '" ++ path ++ "': " ++ e.message])
      | .ok j => return (some j, [])

/-- Loads the schemas at some paths of a directory. -/
def loadSchemas (files : Files m) (directory : String) :
    List String → m (Reported (List (String × Json)))
  | [] => return ([], [])
  | path :: rest => do
      let (schema, reported) ← loadJson files (Path.join directory path)
      let (schemas, more) ← loadSchemas files directory rest
      return ((schema.map fun j => (path, j)).toList ++ schemas, reported ++ more)

/-- Loads the labels of a file. -/
def loadLabels (files : Files m) (path : String) : m (Reported (Option Labels)) := do
  match ← loadJson files path with
  | (none, reported) => return (none, reported)
  | (some j, reported) =>
      match Shape.map Shape.text .json j with
      | .ok labels => return (some labels, reported)
      | .error e =>
          return (none, reported ++ ["Error reading labels '" ++ path ++ "': " ++ e.message])

/-- The locale of a file of labels. -/
def localeOf? (name : String) : Option String :=
  match Path.splitExtension? name with
  | some (locale, "json") => some locale
  | _ => none

/-- Loads the labels in files of a directory. -/
def loadLocales (files : Files m) (directory : String) :
    List String → m (Reported (List (String × Labels)))
  | [] => return ([], [])
  | name :: rest => do
      match localeOf? name with
      | none => loadLocales files directory rest
      | some locale =>
          let (labels, reported) ← loadLabels files (Path.join directory name)
          let (locales, more) ← loadLocales files directory rest
          return ((labels.map fun ls => (locale, ls)).toList ++ locales, reported ++ more)

/-- Loads the labels of a directory, by locale in order. -/
def loadTranslations (files : Files m) (directory : String) :
    m (Reported (List (String × Labels))) := do
  match ← files.list directory with
  | none => return ([], [])
  | some names =>
      let (locales, reported) ← loadLocales files directory names
      return (locales.mergeSort fun a b => decide (a.1 ≤ b.1), reported)

/-- Loads the module of a directory. -/
def loadModule (files : Files m) (directory : String) : m (Reported (Option CatalogModule)) := do
  let path := Path.join directory configFile
  match ← loadConfig files path with
  | .error e => return (none, ["Error loading '" ++ path ++ "': " ++ e.message])
  | .ok config =>
      let (schemas, reported) ← loadSchemas files directory (config.entityTypes.map (·.schema))
      let (locales, more) ← loadTranslations files (Path.join directory translationsDirectory)
      let loaded : CatalogModule :=
        { config := config.withViewNames
          schemas := OrderedMap.ofList schemas
          labels := OrderedMap.ofList locales }
      return (some loaded, reported ++ more)

/-- Loads the modules of directories. -/
def loadModules (files : Files m) : List String → m (Reported (List CatalogModule))
  | [] => return ([], [])
  | directory :: rest => do
      let (loaded, reported) ← loadModule files directory
      let (modules, more) ← loadModules files rest
      return (loaded.toList ++ modules, reported ++ more)

end EntityCatalog.CommandLine
