import EntityCatalog.Proofs.Schema.Revision

/-!
# Schemas without some of the properties that are left out

`pruned drop` takes away any of the properties of a schema, at any depth, that ask to be left out:
`drop` is told the steps from the root to a property and chooses.  It is a revision
(`Json.pruned_eq_revised`), and so what is known of revised schemas holds of it.
-/

namespace EntityCatalog

/-! ## Pruning -/

mutual
/-- The value of a node without some of the properties below it that ask to be left out. -/
def Json.pruned : (drop : List Step → Bool) → Json → Json
  | drop, .object members => .object (prunedMembers drop members)
  | _, j => j

/-- The keywords of a node, pruned where they hold properties or items. -/
def prunedMembers : (drop : List Step → Bool) → List (String × Json) → List (String × Json)
  | _, [] => []
  | drop, (key, j) :: rest =>
      (key,
        if key = "properties" then j.prunedTable drop
        else if key = "items" then j.pruned fun steps => drop (.items :: steps)
        else j) :: prunedMembers drop rest

/-- The value of `properties`, pruned. -/
def Json.prunedTable : (drop : List Step → Bool) → Json → Json
  | drop, .object properties => .object (prunedProperties drop properties)
  | _, j => j

/-- Properties, without those that are dropped and pruned below. -/
def prunedProperties : (drop : List Step → Bool) → List (String × Json) → List (String × Json)
  | _, [] => []
  | drop, (key, j) :: rest =>
      if drop [.property key] && (Schema.ofJson j).isIgnored then prunedProperties drop rest
      else (key, j.pruned fun steps => drop (.property key :: steps)) :: prunedProperties drop rest
end

/-! ## Pruning as a revision -/

/-- The revision that lets the chosen ones go, if they ask to be left out, and changes nothing. -/
def pruning (drop : List Step → Bool) : Revision :=
  fun steps j => if drop steps && (Schema.ofJson j).isIgnored then none else some id

mutual
theorem Json.pruned_eq_revised :
    ∀ (drop : List Step → Bool) (j : Json), j.pruned drop = j.revised (pruning drop)
  | drop, .object members => congrArg Json.object (prunedMembers_eq_revised drop members)
  | _, .null => rfl
  | _, .bool _ => rfl
  | _, .number _ => rfl
  | _, .string _ => rfl
  | _, .array _ => rfl

theorem prunedMembers_eq_revised :
    ∀ (drop : List Step → Bool) (members : List (String × Json)),
      prunedMembers drop members = revisedMembers (pruning drop) members
  | _, [] => rfl
  | drop, (key, j) :: rest => by
      rw [prunedMembers, revisedMembers, Json.prunedTable_eq_revised drop j,
        Json.pruned_eq_revised (fun steps => drop (.items :: steps)) j,
        prunedMembers_eq_revised drop rest]
      rfl

theorem Json.prunedTable_eq_revised :
    ∀ (drop : List Step → Bool) (j : Json), j.prunedTable drop = j.revisedTable (pruning drop)
  | drop, .object properties => congrArg Json.object (prunedProperties_eq_revised drop properties)
  | _, .null => rfl
  | _, .bool _ => rfl
  | _, .number _ => rfl
  | _, .string _ => rfl
  | _, .array _ => rfl

theorem prunedProperties_eq_revised :
    ∀ (drop : List Step → Bool) (properties : List (String × Json)),
      prunedProperties drop properties = revisedProperties (pruning drop) properties
  | _, [] => rfl
  | drop, (key, j) :: rest => by
      rw [prunedProperties, revisedProperties, prunedProperties_eq_revised drop rest,
        Json.pruned_eq_revised (fun steps => drop (.property key :: steps)) j, pruning]
      split <;> rfl
end

/-! What is chosen goes, at the root and in the items of an array; what is not chosen stays, though it
asks to be left out. -/

example :
    Json.pruned (fun steps => steps ≠ [.property "notes"])
      (.object
        [("properties", .object
          [("notes", .object [("x-fqm-ignore", .bool true)]),
           ("draft", .object [("x-fqm-ignore", .bool true)]),
           ("parts", .object
             [("items", .object
               [("properties", .object
                 [("secret", .object
                   [("x-fqm-ignore", .bool true), ("x-fqm-visibility", .string "nobody")]),
                  ("name", .object [("type", .string "string")])])])])])])
      = .object
          [("properties", .object
            [("notes", .object [("x-fqm-ignore", .bool true)]),
             ("parts", .object
               [("items", .object
                 [("properties", .object
                   [("name", .object [("type", .string "string")])])])])])] := rfl

end EntityCatalog
