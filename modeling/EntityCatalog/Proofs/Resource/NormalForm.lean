import EntityCatalog.Proofs.Column.NormalForm
import EntityCatalog.Proofs.Resource.Editing

/-!
# The normal form of a resource's columns

The columns of a resource are in normal form when the edits begin, whatever its schema says about
who may see a property.  Edits can break it: an addition brings a type of its own, and so does an
override that gives the member `dataType`.  They are the only ones.  A column that is in its place
from the beginning and is given no type has the type that it had, and with that the normal form.

Which column is meant has to be told by its place, since overrides may write names: `GivesType`
looks where the first column of the override's name is when its turn comes.
-/

namespace EntityCatalog

/-! ## One override at a place -/

theorem getElem?_replaceColumn (columns : List Field) (name : String) (new : Field) (i : Nat) :
    (replaceColumn name new columns)[i]?
      = if columns.findIdx? (·.name == name) = some i then some new else columns[i]? := by
  induction columns generalizing i with
  | nil => simp [replaceColumn]
  | cons c columns ih =>
      rw [replaceColumn, List.findIdx?_cons]
      by_cases hc : c.name = name
      · rw [if_pos hc, if_pos (beq_iff_eq.mpr hc)]
        cases i with
        | zero => rw [if_pos rfl, List.getElem?_cons_zero]
        | succ i => rw [if_neg (by simp), List.getElem?_cons_succ, List.getElem?_cons_succ]
      · rw [if_neg hc, beq_eq_false_iff_ne.mpr hc, if_neg Bool.false_ne_true]
        cases i with
        | zero => simp
        | succ i =>
            rw [List.getElem?_cons_succ, List.getElem?_cons_succ, ih]
            refine if_congr ?_ rfl rfl
            simp

theorem length_replaceColumn (columns : List Field) (name : String) (new : Field) :
    (replaceColumn name new columns).length = columns.length := by
  induction columns with
  | nil => rfl
  | cons c columns ih =>
      rw [replaceColumn]
      split
      · rfl
      · rw [List.length_cons, List.length_cons, ih]

theorem getElem?_of_findIdx? {columns : List Field} {name : String} {i : Nat}
    (h : columns.findIdx? (·.name == name) = some i) :
    columns[i]? = columns.find? (·.name == name) := by
  obtain ⟨hi, hname, hbefore⟩ := List.findIdx?_eq_some_iff_getElem.mp h
  rw [List.getElem?_eq_getElem hi, eq_comm, List.find?_eq_some_iff_getElem]
  exact ⟨hname, i, hi, rfl, fun j hj => by simpa using hbefore j hj⟩

/-- Members without a type leave the type as it is. -/
theorem Field.dataType_overridden_of_kept {c c' : Field} {members : List (String × Json)}
    (h : (Json.object members).get? "dataType" = none) (hover : c.overridden members = .ok c') :
    c'.dataType = c.dataType := by
  have hmember := writtenOver_of_overridden hover _ (List.mem_cons_of_mem _ List.mem_cons_self)
  exact hmember.kept (lastValue?_eq_none_of_get? h)

namespace ResourceConfig

/-! ## All edits at a place -/

/-- Whether one of a resource's overrides gives a type to the column at a place: it applies when its
turn comes, and the first column of its name stands there. -/
inductive GivesType (r : ResourceConfig) (columns : List Field) (i : Nat) : Prop
  | intro {before after : List (String × Json)} {name : String}
      {members : List (String × Json)} {new : List Field} :
      r.fieldOverrides.entries = before ++ (name, .object members) :: after →
      (Json.object members).get? "dataType" ≠ none →
      overrideColumn (r.overriddenBy columns before) name (.object members) = .ok new →
      (r.overriddenBy columns before).findIdx? (·.name == name) = some i → GivesType r columns i

variable {r : ResourceConfig} {columns : List Field}

theorem length_overriddenBy (r : ResourceConfig) (columns : List Field) :
    (r.overriddenBy columns r.fieldOverrides.entries).length
      = (addColumns columns r.fieldAdditions).length := by
  refine editColumns_induction
    (P := fun cs => cs.length = (addColumns columns r.fieldAdditions).length) rfl ?_
  intro before o after new _ hlength hedit
  obtain ⟨c, members, c', -, -, -, rfl⟩ := overrideColumn_eq_ok hedit
  rw [length_replaceColumn, hlength]

/-- The column at a place to which no override gives a type has the type that it had. -/
theorem exists_overriddenBy {i : Nat} {c : Field}
    (hc : (addColumns columns r.fieldAdditions)[i]? = some c) (h : ¬ r.GivesType columns i) :
    ∃ c', (r.overriddenBy columns r.fieldOverrides.entries)[i]? = some c' ∧
      c'.dataType = c.dataType := by
  refine editColumns_induction (P := fun cs => ∃ c', cs[i]? = some c' ∧ c'.dataType = c.dataType)
    ⟨c, hc, rfl⟩ ?_
  rintro before ⟨name, value⟩ after new heq ⟨d, hd, htype⟩ hedit
  have hedit' := hedit
  obtain ⟨found, members, c', hfind, rfl, hover, rfl⟩ := overrideColumn_eq_ok hedit
  rw [getElem?_replaceColumn]
  split
  · rename_i hplace
    refine ⟨c', rfl, ?_⟩
    have hkept : (Json.object members).get? "dataType" = none := by
      by_contra hgiven
      exact h (.intro heq hgiven hedit' hplace)
    obtain rfl : d = found := by
      rw [getElem?_of_findIdx? hplace, hfind] at hd
      exact (Option.some.inj hd).symm
    rw [Field.dataType_overridden_of_kept hkept hover, htype]
  · exact ⟨d, hd, htype⟩

/-- What is left of the normal form after the edits of a resource. -/
structure NormalButForEdits (r : ResourceConfig) (columns result : List Field) : Prop where
  /-- The result is what exclusions leave of the columns after additions and overrides. -/
  left : result = (r.overriddenBy columns r.fieldOverrides.entries).filter fun c =>
    !r.fieldExclusions.contains c.name
  places : (r.overriddenBy columns r.fieldOverrides.entries).length
    = (addColumns columns r.fieldAdditions).length
  /-- A column that no addition has replaced and no override has given a type is in normal form. -/
  normal : ∀ before c after, columns = before ++ c :: after →
    (c.name ∈ columnNames before ∨ c.name ∉ columnNames r.fieldAdditions) →
      ¬ r.GivesType columns before.length →
        ∃ c', (r.overriddenBy columns r.fieldOverrides.entries)[before.length]? = some c' ∧
          c'.dataType = c.dataType ∧ c'.IsNormal

theorem normalButForEdits (hnormal : ∀ c ∈ columns, c.IsNormal) :
    r.NormalButForEdits columns (r.editedColumns columns).1 where
  left := (excluded_excludeColumns _ _).left
  places := length_overriddenBy r columns
  normal := by
    intro before c after heq hkept hgiven
    have hplace : (addColumns columns r.fieldAdditions)[before.length]? = some c :=
      (added_addColumns columns r.fieldAdditions).others before c after heq hkept
    obtain ⟨c', hc', htype⟩ := exists_overriddenBy hplace hgiven
    refine ⟨c', hc', htype, Field.isNormal_congr htype (hnormal c ?_)⟩
    rw [heq]
    exact List.mem_append_right _ List.mem_cons_self

/-- **Columns come in normal form.**  Opening objects and closing the properties inside arrays, in
either order, comes to a form that neither changes any more; and the columns of a resource are in
it, all but those that are added or given a type. -/
theorem assemble_normalForm :
    (∀ columns, BroughtToNormalForm columns) ∧
      ∀ (r : ResourceConfig) (schema : Json) (m : ModuleConfig) (a : Assembled),
        r.assemble schema m = .ok a →
          ∃ properties source inferred,
            (Schema.ofJson schema).rootProperties? = some properties ∧
            resolveSource r.source m.sources m.sourceMap = .ok source ∧
            inferColumns (r.site m source) properties = .ok inferred ∧
            r.NormalButForEdits (r.flatColumns source inferred.value) a.entityType.columns := by
  refine ⟨broughtToNormalForm, fun r schema m a h => ?_⟩
  obtain ⟨properties, source, inferred, hroot, hsource, hinf, rfl⟩ := assemble_eq_ok h
  refine ⟨properties, source, inferred, hroot, hsource, hinf, normalButForEdits ?_⟩
  exact (broughtToNormalForm _).normal

/-- A schema with an object in an array in an object, of which all may see a property. -/
def nestedSchema : Json :=
  .object
    [("type", .string "object"),
     ("properties", .object
       [("id", .object [("type", .string "string")]),
        ("personal", .object
          [("type", .string "object"),
           ("properties", .object
             [("addresses", .object
               [("type", .string "array"),
                ("items", .object
                  [("type", .string "object"),
                   ("properties", .object
                     [("street", .object
                       [("type", .string "string"),
                        ("x-fqm-visibility", .string "all")])])])])])])])]

/-- Users with a column that is an object, and an identifier that is a number. -/
def retypedUser : ResourceConfig :=
  { user with
    fieldAdditions := [Field.plain "raw" (.object [Field.plain "text" (.leaf .string)])]
    fieldOverrides := OrderedMap.ofList
      [("id", .object [("dataType", .object [("dataType", .string "integerType")])]),
       ("personal_addresses", .object [("name", .string "addresses")])]
    fieldExclusions := ["jsonb"] }

theorem assemble_normalForm_retypedUser :
    ∃ a, retypedUser.assemble nestedSchema users = .ok a ∧
      a.entityType.columns.map (fun c => (c.name, c.dataType.isObject,
          (c.dataType.at? [.items]).bind fun t => t.properties?.map (·.map (·.queryable))))
        = [("id", false, none), ("addresses", false, some [false]), ("raw", true, none)] ∧
      ∃ properties source inferred,
        (Schema.ofJson nestedSchema).rootProperties? = some properties ∧
        resolveSource retypedUser.source users.sources users.sourceMap = .ok source ∧
        inferColumns (retypedUser.site users source) properties = .ok inferred ∧
        retypedUser.NormalButForEdits (retypedUser.flatColumns source inferred.value)
          a.entityType.columns := by
  obtain ⟨a, ha, hcolumns⟩ := exists_ok_of_toOption
    (f := fun a => a.entityType.columns.map fun c => (c.name, c.dataType.isObject,
      (c.dataType.at? [.items]).bind fun t => t.properties?.map (·.map (·.queryable))))
    (x := retypedUser.assemble nestedSchema users)
    (b := [("id", false, none), ("addresses", false, some [false]), ("raw", true, none)])
    (by decide +kernel)
  exact ⟨a, ha, hcolumns, assemble_normalForm.2 retypedUser nestedSchema users a ha⟩

end ResourceConfig

end EntityCatalog
