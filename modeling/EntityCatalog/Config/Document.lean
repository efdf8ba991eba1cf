import EntityCatalog.Config.Decoding
import EntityCatalog.Text.Blank
import EntityCatalog.Toml.Parser

/-!
Configurations read from TOML documents.

A document is refused where it is no configuration, where its module has no name, and where two of
its resources share one.
-/

namespace EntityCatalog

/-- Why a text is no configuration. -/
inductive ConfigError where
  /-- The text is no TOML document, or not one of a configuration. -/
  | unreadable
  /-- The module has no name. -/
  | unnamedModule
  /-- Two resources share a name. -/
  | duplicateResource (name : String)
deriving DecidableEq, Repr

/-- The reason in words. -/
def ConfigError.message : ConfigError → String
  | .unreadable => "Failed to parse config file"
  | .unnamedModule => "Invalid configuration: metadata.module must not be empty"
  | .duplicateResource name => "Invalid configuration: duplicate entity type name: " ++ name

/-- The first text that occurs a second time. -/
def firstRepeated? : (seen : List String) → List String → Option String
  | _, [] => none
  | seen, name :: rest =>
      if seen.contains name then some name else firstRepeated? (name :: seen) rest

/-- Refuses a module without a name and resources that share one. -/
def ModuleConfig.check (c : ModuleConfig) : Except ConfigError Unit :=
  if (Text.trimBlanks c.metadata.moduleName.toList).isEmpty then .error .unnamedModule
  else
    match firstRepeated? [] (c.entityTypes.map (·.name)) with
    | some name => .error (.duplicateResource name)
    | none => .ok ()

/-- Reads a configuration. -/
def ModuleConfig.parse (document : String) : Except ConfigError ModuleConfig :=
  match Toml.parse document with
  | none => .error .unreadable
  | some j =>
      match ModuleConfig.record.read .toml j with
      | .error _ => .error .unreadable
      | .ok c => c.check.map fun _ => c

end EntityCatalog
