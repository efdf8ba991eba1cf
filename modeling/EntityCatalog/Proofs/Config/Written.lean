import EntityCatalog.Config.Decoding
import EntityCatalog.Config.Encoding
import EntityCatalog.Proofs.EntityType.Written

/-!
# What is written in JSON is read back

A configuration goes the way of columns and entity types, member by member.  Two of its parts do not:
a declared source says nowhere of which kind it is, and is read back because a query has no `table`;
and a member without a value is written as null here, where a column leaves it out.

At the end, what holds of the three kinds of documents and of their parts is put together.
-/

namespace EntityCatalog

open Shape
open Json (string array object)

/-! ## Sources -/

theorem inverts_domain : Inverts Domain.read fun d => string d.name :=
  inverts_choice (fun d => by cases d <;> decide) (by decide)

theorem inverts_moduleMetadata : Inverts ModuleMetadata.record.read ModuleMetadata.toJson := by
  intro m
  refine Record.readObject_of_fills (by decide) ?_
  simp only [List.append_assoc]
  refine .needed (inverts_text _) ?_
  refine .needed (inverts_domain _) ?_
  refine .needed (inverts_text _) ?_
  exact .nil

namespace DeclaredSource

theorem readTable_members (n t : String) :
    readTable .json (member "name" (string n) ++ member "table" (string t)) = .ok (.table n t) := by
  refine Record.readObject_of_fills (by decide) ?_
  simp only [List.append_assoc]
  refine .needed (inverts_text _) ?_
  refine .needed (inverts_text _) ?_
  exact .nil

/-- The members of a query. -/
def queryMembers (n sql : String) (deps : List String) : List (String × Json) :=
  member "name" (string n) ++ member "sql" (string sql)
    ++ member "deps" (array (deps.map string))

/-- A query is no table, for all that is written of one but the table itself is passed over. -/
theorem readTable_queryMembers (n sql : String) (deps : List String) :
    readTable .json (queryMembers n sql deps) = .error (.missing "table") := rfl

theorem readQuery_queryMembers (n sql : String) (deps : List String) :
    readQuery .json (queryMembers n sql deps) = .ok (.query n sql deps) := by
  rw [readQuery, Record.readObject_of_fills (a := (n, sql, deps)) ?_ ?_]
  · rfl
  · decide
  · simp only [queryMembers, List.append_assoc]
    refine .needed (inverts_text _) ?_
    refine .needed (inverts_text _) ?_
    refine .free (inverts_text.list _) ?_
    exact .nil

end DeclaredSource

theorem inverts_declaredSource : Inverts DeclaredSource.read DeclaredSource.toJson := by
  intro s
  cases s with
  | table n t =>
      show DeclaredSource.readMembers .json
        (member "name" (string n) ++ member "table" (string t)) = _
      rw [DeclaredSource.readMembers, DeclaredSource.readTable_members]
  | query n sql deps =>
      show DeclaredSource.readMembers .json (DeclaredSource.queryMembers n sql deps) = _
      rw [DeclaredSource.readMembers, DeclaredSource.readTable_queryMembers]
      dsimp only
      rw [DeclaredSource.readQuery_queryMembers]

/-! ## Resources -/

theorem pair_toPair (s : SortKey) : pair .json s.toPair = .ok (s.columnName, s.direction) := rfl

/-- A truth value that is written as null where there is none. -/
theorem optional_truth_null (v : Option Bool) :
    optional truth .json
      (match v with
       | some b => .bool b
       | none => .null) = .ok v := by
  cases v with
  | none => rfl
  | some b => rfl

theorem map_anything_entries (m : OrderedMap Json) :
    Shape.map anything .json (object m.entries) = .ok m := by
  have hentries : (m.entries.map fun e => (e.1, id e.2)) = m.entries := List.map_id _
  rw [← hentries]
  exact inverts_anything.map m

theorem inverts_resourceConfig : Inverts ResourceConfig.record.read ResourceConfig.toJson := by
  intro r
  refine Record.readObject_of_fills (by decide +kernel) ?_
  simp only [List.append_assoc, fieldsToJson_eq_map]
  refine .needed (inverts_text _) ?_
  refine .free (inverts_truth _) ?_
  refine .needed (inverts_text _) ?_
  refine .needed (inverts_text _) ?_
  refine .needed (inverts_text.list _) ?_
  refine .needed (pair_toPair _) ?_
  refine .free (inverts_truth _) ?_
  refine .free (optional_truth_null _) ?_
  refine .free (inverts_field.list _) ?_
  refine .free (inverts_text.list _) ?_
  refine .free (map_anything_entries _) ?_
  exact .nil

/-! ## Configurations -/

theorem inverts_moduleConfig : Inverts ModuleConfig.record.read ModuleConfig.toJson := by
  intro c
  refine Record.readObject_of_fills (by decide) ?_
  simp only [List.append_assoc]
  refine .needed (inverts_moduleMetadata _) ?_
  refine .needed (inverts_declaredSource.list _) ?_
  refine .free (inverts_text.map _) ?_
  refine .free (inverts_truth _) ?_
  refine .free (inverts_resourceConfig.list _) ?_
  exact .nil

/-- **The JSON form loses nothing.**  Columns, entity types and configurations are read back from
JSON as they were written, and so are types, declared joins and resolved joins by themselves. -/
theorem toJson_lossless :
    (∀ f : Field, Field.read .json f.toJson = .ok f) ∧
      (∀ e : EntityType, EntityType.record.read .json e.toJson = .ok e) ∧
      (∀ c : ModuleConfig, ModuleConfig.record.read .json c.toJson = .ok c) ∧
      (∀ t : DataType, DataType.read .json t.toJson = .ok t) ∧
      (∀ j : DeclaredJoin, DeclaredJoin.read .json j.toJson = .ok j) ∧
      ∀ j : ResolvedJoin, ResolvedJoin.read .json j.toJson = .ok j :=
  ⟨inverts_field, inverts_entityType, inverts_moduleConfig, inverts_dataType,
    inverts_declaredJoin, inverts_resolvedJoin⟩

end EntityCatalog
