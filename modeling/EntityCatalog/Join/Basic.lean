import EntityCatalog.Uuid.Basic

/-!
Joins between entity types.

A join is declared with its target's name, because the target may belong to a module that is
compiled later.  Once all entity types are known it is resolved to the target's identifier.
-/

namespace EntityCatalog

/-- Which rows without a partner are kept. -/
inductive JoinDirection where
  | inner
  | left
  | right
  | full
deriving DecidableEq, Repr

/-- When two rows belong together. -/
inductive JoinCondition where
  /-- The values are equal. -/
  | equalitySimple
  /-- The values are equal as identifiers. -/
  | equalityCastUuid
  /-- A condition in the query language holds. -/
  | custom (sql : String)
deriving DecidableEq, Repr

/-- The written name of a condition. -/
def JoinCondition.tag : JoinCondition → String
  | .equalitySimple => "equality-simple"
  | .equalityCastUuid => "equality-cast-uuid"
  | .custom _ => "custom"

/-- A join to an entity type that is named by its module and its resource. -/
structure DeclaredJoin where
  targetModule : String
  targetEntity : String
  targetField : String
  direction : Option JoinDirection := none
  /-- The condition, where it does not follow from the type of the column. -/
  condition : Option JoinCondition := none
deriving DecidableEq, Repr

/-- The target as messages name it. -/
def DeclaredJoin.targetLabel (j : DeclaredJoin) : String :=
  j.targetModule ++ "__" ++ j.targetEntity

/-- A join to an entity type that is known by its identifier. -/
structure ResolvedJoin where
  targetId : Uuid
  targetField : String
  direction : Option JoinDirection := none
  condition : JoinCondition
deriving DecidableEq, Repr

end EntityCatalog
