import EntityCatalog.OrderedMap
import EntityCatalog.Text.Replace

/-!
The sources that a module declares, and the views that stand for them among all modules.
-/

namespace EntityCatalog

/-- The business domain of a module. -/
inductive Domain where
  | acquisition
  | catalog
  | circulation
  | erm
  | system
  | users
  | other
deriving DecidableEq, Repr

/-- The written name of a domain. -/
def Domain.name : Domain → String
  | .acquisition => "acquisition"
  | .catalog => "catalog"
  | .circulation => "circulation"
  | .erm => "erm"
  | .system => "system"
  | .users => "users"
  | .other => "other"

/-- All domains. -/
def Domain.all : List Domain :=
  [.acquisition, .catalog, .circulation, .erm, .system, .users, .other]

/-- Who owns a module, and its name. -/
structure ModuleMetadata where
  team : String
  domain : Domain
  moduleName : String
deriving DecidableEq, Repr

/-- A declared source: a table, or a query with the tables it reads. -/
inductive DeclaredSource where
  | table (name table : String)
  | query (name sql : String) (deps : List String)
deriving DecidableEq, Repr

namespace DeclaredSource

/-- The name of the source. -/
def name : DeclaredSource → String
  | .table n _ => n
  | .query n _ _ => n

/-- The table behind the source, if it is one. -/
def table? : DeclaredSource → Option String
  | .table _ t => some t
  | .query _ _ _ => none

/-- The view that stands for the source among all modules: the domain, the module without its
`mod-`, and the table or the name of the source. -/
def viewName (s : DeclaredSource) (m : ModuleMetadata) : String :=
  Text.dashesToUnderscores
    ("src__" ++ m.domain.name ++ "__" ++ (Text.stripStart? "mod-" m.moduleName).getD m.moduleName
      ++ "__" ++ s.table?.getD s.name)

end DeclaredSource

/-- The view of each source of a module, under the name of the source. -/
def viewNames (sources : List DeclaredSource) (m : ModuleMetadata) : OrderedMap String :=
  OrderedMap.ofList (sources.map fun s => (s.name, s.viewName m))

end EntityCatalog
