import EntityCatalog.Config.Basic
import EntityCatalog.EntityType.Decoding

/-!
Configurations read from JSON values.

A declared source has no mark that tells tables from queries: the first shape that fits is taken.
-/

namespace EntityCatalog

open Shape

/-- A domain. -/
def Domain.read : Reader Domain := Shape.choice (Domain.all.map fun d => (d.name, d))

/-- The shape of a module's metadata. -/
def ModuleMetadata.record : Record ModuleMetadata where
  title := "ModuleMetadata"
  blank := ⟨"", .other, ""⟩
  closed := true
  slots :=
    [.needed "team" text fun r v => { r with team := v },
     .needed "domain" Domain.read fun r v => { r with domain := v },
     .needed "module" text fun r v => { r with moduleName := v }]

/-- A table with its members, if it has the shape of one. -/
def DeclaredSource.readTable (d : Dialect) (members : List (String × Json)) :
    Except Mismatch DeclaredSource :=
  Record.readObject
    { title := "SourceConfig"
      blank := .table "" ""
      closed := false
      slots :=
        [.needed "name" text fun s v => .table v (s.table?.getD ""),
         .needed "table" text fun s v => .table s.name v] }
    d members

/-- A query with its members, if it has the shape of one. -/
def DeclaredSource.readQuery (d : Dialect) (members : List (String × Json)) :
    Except Mismatch DeclaredSource :=
  (Record.readObject
    { title := "SourceConfig"
      blank := (("", "", []) : String × String × List String)
      closed := false
      slots :=
        [.needed "name" text fun s v => (v, s.2),
         .needed "sql" text fun s v => (s.1, v, s.2.2),
         .free "deps" (list text) fun s v => (s.1, s.2.1, v)] }
    d members).map fun (name, sql, deps) => .query name sql deps

/-- A table if the members have the shape of one, else a query. -/
def DeclaredSource.readMembers (d : Dialect) (members : List (String × Json)) :
    Except Mismatch DeclaredSource :=
  match readTable d members with
  | .ok s => .ok s
  | .error _ =>
      match readQuery d members with
      | .ok s => .ok s
      | .error _ => .error (.noAlternative "SourceConfig")

/-- A declared source, in the form of an object only.  Its members are taken as they are before
they are read. -/
def DeclaredSource.read : Reader DeclaredSource
  | d, .object members => (anything d (.object members)).bind fun _ => readMembers d members
  | _, _ => .error (.noAlternative "SourceConfig")

/-- The shape of a resource. -/
def ResourceConfig.record : Record ResourceConfig where
  title := "EntityTypeConfig"
  blank := { name := "", source := "", schema := "" }
  closed := true
  slots :=
    [.needed "name" text fun r v => { r with name := v },
     .free "private" truth fun r v => { r with isPrivate := v },
     .needed "source" text fun r v => { r with source := v },
     .needed "schema" text fun r v => { r with schema := v },
     .needed "permissions" (list text) fun r v => { r with permissions := v },
     .needed "sort" pair fun r v => { r with sort := ⟨v.1, v.2⟩ },
     .free "useRmbIndexStyle" truth fun r v => { r with legacyIndexStyle := v },
     .free "includeJsonbField" (optional truth) fun r v => { r with includeJsonbField := v },
     .free "fieldAdditions" (list Field.read) fun r v => { r with fieldAdditions := v },
     .free "fieldExclusions" (list text) fun r v => { r with fieldExclusions := v },
     .free "fieldOverrides" (map anything) fun r v => { r with fieldOverrides := v }]

/-- The shape of a configuration. -/
def ModuleConfig.record : Record ModuleConfig where
  title := "ModuleConfig"
  blank := { metadata := ⟨"", .other, ""⟩, sources := [] }
  closed := true
  slots :=
    [.needed "metadata" ModuleMetadata.record.read fun r v => { r with metadata := v },
     .needed "sources" (list DeclaredSource.read) fun r v => { r with sources := v },
     .free "sourceMap" (map text) fun r v => { r with sourceMap := v },
     .free "forceGenerateJoins" truth fun r v => { r with forceGenerateJoins := v },
     .free "entityTypes" (list ResourceConfig.record.read) fun r v => { r with entityTypes := v }]

end EntityCatalog
