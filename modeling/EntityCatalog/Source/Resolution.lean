import EntityCatalog.EntityType.Basic
import EntityCatalog.Source.Basic

/-!
What a resource reads from.

A resource names its source by a key.  A key that no source has is looked up in the module's
renames, again and again until a declared name is reached.  `follow` walks that chain and keeps the
names that it has looked up: to come back to one of them is to have no end.  A name that is looked
up with success is one more of the renames that are not new any longer, which is why the walk ends
(`length_unvisited_lt`).
-/

namespace EntityCatalog

/-- Why a key leads to no source. -/
inductive SourceError where
  /-- The chain of renames ends at a name that is neither declared nor renamed. -/
  | notFound (key : String)
  /-- The chain of renames has no end. -/
  | cycle (key : String)
deriving DecidableEq, Repr

/-- The reason in words. -/
def SourceError.message : SourceError → String
  | .notFound key => "Source " ++ key ++ " not found in source list"
  | .cycle key => "Source " ++ key ++ " is part of a rename cycle"

/-- Where a chain of renames leads. -/
inductive ChainEnd where
  | declared (source : DeclaredSource)
  | undeclared
  | endless
deriving DecidableEq, Repr

/-- The first source with a name. -/
def declared? (sources : List DeclaredSource) (name : String) : Option DeclaredSource :=
  sources.find? (·.name == name)

/-- The renamed names that a walk has not looked up. -/
def unvisited (renames : OrderedMap String) (visited : List String) : List String :=
  renames.keys.filter fun name => !visited.contains name

theorem length_unvisited_lt {renames : OrderedMap String} {visited : List String}
    {name next : String} (hnext : renames.get? name = some next) (hnew : name ∉ visited) :
    (unvisited renames (name :: visited)).length < (unvisited renames visited).length := by
  have hmem : name ∈ unvisited renames visited := by
    obtain ⟨before, after, hentries, -⟩ := List.lookup_eq_some_iff.mp hnext
    refine List.mem_filter.mpr ⟨?_, by simpa using hnew⟩
    rw [OrderedMap.keys, hentries]
    simp
  have hfilter : unvisited renames (name :: visited)
      = (unvisited renames visited).filter fun other => !(other == name) := by
    rw [unvisited, unvisited, List.filter_filter]
    refine List.filter_congr fun other _ => ?_
    rw [List.contains_cons, Bool.not_or]
  rw [hfilter, List.length_filter_lt_length_iff_exists]
  exact ⟨name, hmem, by simp⟩

/-- Follows the renames from a name, where the given ones have been looked up before. -/
def follow (sources : List DeclaredSource) (renames : OrderedMap String) (visited : List String)
    (name : String) : ChainEnd :=
  match declared? sources name with
  | some s => .declared s
  | none =>
      if _ : name ∈ visited then .endless
      else
        match _ : renames.get? name with
        | some next => follow sources renames (name :: visited) next
        | none => .undeclared
termination_by (unvisited renames visited).length
decreasing_by exact length_unvisited_lt ‹_› ‹_›

/-- What the getters of a resource call `key`: the rename of the source that the key leads to, or
else its table, or else its name. -/
def resolveSource (key : String) (sources : List DeclaredSource) (renames : OrderedMap String) :
    Except SourceError EntitySource :=
  match follow sources renames [] key with
  | .declared s =>
      .ok {
        kind := .db
        sourceAlias := key
        target := some ((renames.get? s.name).getD (s.table?.getD s.name)) }
  | .undeclared => .error (.notFound key)
  | .endless => .error (.cycle key)

end EntityCatalog
