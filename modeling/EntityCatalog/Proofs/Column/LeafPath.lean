import EntityCatalog.Proofs.Column.Expansion
import EntityCatalog.Proofs.Column.Inference
import Mathlib.Data.List.Forall2

/-!
# The leaf paths of a schema

A leaf path leads from the root of a schema through properties that are kept and are objects to one
that is kept and is none.  Each is a column of the flat form: `forall₂_leafPaths` pairs the leaf
paths, in the order in which the properties are declared, with the columns that the inferred ones
come to, none left over on either side.

A column is opened under the name that it has by then, so a name grows from the left.  The induction
is therefore on what is done to the names of a level, `rename`: nothing at the root, and below an
object the object's own name in front.
-/

namespace EntityCatalog

/-- A property as a schema declares it: the key and the node. -/
abbrev Property := String × Schema

/-! ## Leaf paths -/

/-- Whether the node at a site is an object. -/
def opens (site : Site) (s : Schema) : Bool :=
  match typeAt site s with
  | .ok t => t.value.isObject
  | .error _ => false

theorem levels_pos_of_opens {site : Site} {s : Schema} (h : opens site s = true) :
    site.levels ≠ 0 := by
  intro hl
  rw [opens, typeAt_tooDeep hl] at h
  exact absurd h (by decide)

theorem levels_property_lt {site : Site} {key : String} {s : Schema}
    (h : opens (site.property key) s = true) : (site.property key).levels < site.levels := by
  have hpos := levels_pos_of_opens h
  rw [Site.levels_property] at hpos ⊢
  omega

/-- The properties of a node. -/
def Property.below (p : Property) : List Property := p.2.properties?.getD []

/-- The leaf paths that begin with one of the properties of the value at a site, depth first. -/
def leafPaths (site : Site) (properties : List Property) : List (List Property) :=
  properties.flatMap fun p =>
    if p.2.standing = .kept then
      if _ : opens (site.property p.1) p.2 = true then
        (leafPaths (site.property p.1) p.below).map (p :: ·)
      else [[p]]
    else []
termination_by site.levels
decreasing_by exact levels_property_lt ‹_›

/-- A path through kept properties, all of them objects but for the last, which is none. -/
inductive IsLeafPath : Site → List Property → List Property → Prop
  | leaf {site : Site} {properties : List Property} {p : Property} :
      p ∈ properties → p.2.standing = .kept → opens (site.property p.1) p.2 = false →
        IsLeafPath site properties [p]
  | step {site : Site} {properties : List Property} {p : Property} {path : List Property} :
      p ∈ properties → p.2.standing = .kept → opens (site.property p.1) p.2 = true →
        IsLeafPath (site.property p.1) p.below path → IsLeafPath site properties (p :: path)

theorem mem_leafPaths_cons {site : Site} {properties : List Property} {path : List Property} :
    path ∈ leafPaths site properties ↔
      ∃ p ∈ properties, p.2.standing = .kept ∧
        ((opens (site.property p.1) p.2 = false ∧ path = [p]) ∨
          (opens (site.property p.1) p.2 = true ∧
            ∃ rest ∈ leafPaths (site.property p.1) p.below, path = p :: rest)) := by
  rw [leafPaths, List.mem_flatMap]
  refine exists_congr fun p => and_congr_right fun _ => ?_
  split
  · rename_i hk
    split
    · rename_i ho
      simp [hk, ho, eq_comm]
    · rename_i ho
      simp [hk, Bool.not_eq_true _ ▸ ho]
  · rename_i hk
    simp [hk]

/-- The list holds the leaf paths and nothing else. -/
theorem mem_leafPaths_iff {site : Site} {properties : List Property} {path : List Property} :
    path ∈ leafPaths site properties ↔ IsLeafPath site properties path := by
  constructor
  · intro h
    induction path generalizing site properties with
    | nil =>
        obtain ⟨p, -, -, ⟨-, hp⟩ | ⟨-, rest, -, hp⟩⟩ := mem_leafPaths_cons.mp h
        · exact absurd hp (by simp)
        · exact absurd hp (by simp)
    | cons q path ih =>
        obtain ⟨p, hp, hk, ⟨ho, heq⟩ | ⟨ho, rest, hrest, heq⟩⟩ := mem_leafPaths_cons.mp h
        · rw [heq]
          exact .leaf hp hk ho
        · obtain ⟨rfl, rfl⟩ := List.cons.inj heq
          exact .step hp hk ho (ih hrest)
  · intro h
    induction h with
    | leaf hp hk ho => exact mem_leafPaths_cons.mpr ⟨_, hp, hk, Or.inl ⟨ho, rfl⟩⟩
    | step hp hk ho _ ih => exact mem_leafPaths_cons.mpr ⟨_, hp, hk, Or.inr ⟨ho, _, ih, rfl⟩⟩

/-! ## Names along a path -/

/-- The name of a property by itself: the one that its schema gives, or else its key's. -/
def Property.columnName (p : Property) : String :=
  (p.2.text? "x-fqm-name").getD (Naming.snakeCase p.1)

/-- What the later properties of a path add to the name of its first. -/
def nameBelow (path : List Property) : String :=
  String.join (path.map fun p => "_" ++ Naming.snakeCase p.columnName)

/-- The name of a path whose first property has its name changed. -/
def nameAlong (rename : String → String) : List Property → String
  | [] => ""
  | p :: rest => rename p.columnName ++ nameBelow rest

/-- Below an object, the names of a level have the object's in front. -/
theorem nameAlong_cons (rename : String → String) (p : Property) {path : List Property}
    (h : path ≠ []) :
    nameAlong rename (p :: path)
      = nameAlong (fun name => rename p.columnName ++ "_" ++ Naming.snakeCase name) path := by
  cases path with
  | nil => exact absurd rfl h
  | cons q rest =>
      rw [nameAlong, nameAlong, nameBelow, nameBelow, List.map_cons, String.join_cons,
        String.append_assoc, String.append_assoc, String.append_assoc]

/-! ## What inference makes of a path -/

/-- The column that inference makes of the last property of a leaf path. -/
inductive MadeAt : Site → List Property → Field → Prop
  | leaf {site : Site} {p : Property} {n : Noted (Option Field)} {f : Field} :
      fieldAt site p.1 p.2 = .ok n → n.value = some f → f.dataType.isObject = false →
        MadeAt site [p] f
  | step {site : Site} {p : Property} {path : List Property} {f : Field} :
      MadeAt (site.property p.1) path f → MadeAt site (p :: path) f

theorem MadeAt.ne_nil {site : Site} {path : List Property} {f : Field} (h : MadeAt site path f) :
    path ≠ [] := by
  cases h with
  | leaf _ _ _ => exact List.cons_ne_nil _ _
  | step _ => exact List.cons_ne_nil _ _

/-- A flat column that comes from a path: the column of the path's last property, renamed. -/
def ComesFrom (site : Site) (rename : String → String) (path : List Property) (c : Field) : Prop :=
  ∃ f, MadeAt site path f ∧ c = f.renamed (nameAlong rename path)

theorem ComesFrom.under {site : Site} {rename : String → String} {path : List Property} {c : Field}
    (p : Property)
    (h : ComesFrom (site.property p.1)
      (fun name => rename p.columnName ++ "_" ++ Naming.snakeCase name) path c) :
    ComesFrom site rename (p :: path) c := by
  obtain ⟨f, hf, rfl⟩ := h
  exact ⟨f, .step hf, by rw [nameAlong_cons rename p hf.ne_nil]⟩

theorem forall₂_flatMap {α β γ : Type} {R : β → γ → Prop} {f : α → List β} {g : α → List γ} :
    ∀ {l : List α}, (∀ a ∈ l, List.Forall₂ R (f a) (g a)) →
      List.Forall₂ R (l.flatMap f) (l.flatMap g)
  | [], _ => .nil
  | a :: l, h => by
      rw [List.flatMap_cons, List.flatMap_cons]
      exact List.rel_append (h a List.mem_cons_self)
        (forall₂_flatMap fun b hb => h b (List.mem_cons_of_mem _ hb))

theorem name_of_ofSchema {key : String} {s : Schema} {e : Extensions} {findings : List Finding}
    (h : Extensions.ofSchema key s = .ok (e, findings)) :
    e.name = s.text? "x-fqm-name" := by
  rw [(ofSchema_eq_ok h).1]
  show (Extensions.typed key s "x-fqm-name" Shape.text).1 = _
  unfold Extensions.typed Schema.text?
  cases s.keyword? "x-fqm-name" with
  | none => rfl
  | some j => cases j <;> rfl

theorem makeField_name (site : Site) (p : Property) {e : Extensions} (t : DataType)
    {findings : List Finding} (h : Extensions.ofSchema p.1 p.2 = .ok (e, findings)) :
    (makeField site p.1 p.2 e t).name = p.columnName := by
  have hname : (makeField site p.1 p.2 e t).name = e.name.getD (Naming.snakeCase p.1) :=
    congrArg ColumnInfo.name (withVisibility_frame _ e.visibility)
  rw [hname, Property.columnName, name_of_ofSchema h]

/-! ## Paths and columns -/

theorem expanded_renamed_of_object {f : Field} {properties : List Field}
    (h : f.dataType = .object properties) (name : String) :
    (f.renamed name).expanded
      = properties.flatMap fun g =>
          (g.renamed (name ++ "_" ++ Naming.snakeCase g.name)).expanded := by
  rw [Field.expanded_of_object (f := f.renamed name) h, List.flatMap_map]
  rfl

/-- The leaf paths and the flat columns go together, one by one and in order. -/
theorem forall₂_leafPaths {site : Site} {properties : List Property} (rename : String → String)
    (hok : ∀ p ∈ properties, ∃ n, fieldAt site p.1 p.2 = .ok n) :
    List.Forall₂ (ComesFrom site rename) (leafPaths site properties)
      (properties.flatMap fun p =>
        (fieldOf site p).flatMap fun f => (f.renamed (rename f.name)).expanded) := by
  induction hl : site.levels using Nat.strongRecOn generalizing site properties rename with
  | ind levels ih =>
    rw [leafPaths]
    -- a property is done with by itself: its paths against its columns
    refine forall₂_flatMap fun p hp => ?_
    obtain ⟨n, hn⟩ := hok p hp
    rw [fieldOf_of_ok hn]
    by_cases hk : p.2.standing = .kept
    · obtain ⟨e, findings, t, he, ht, hval⟩ := fieldAt_kept hn hk
      have hname := makeField_name site p t.value he
      have hopens : opens (site.property p.1) p.2 = t.value.isObject := by rw [opens, ht]
      rw [if_pos hk, hval, Option.toList_some, List.flatMap_singleton, hname]
      cases ho : t.value.isObject with
      | false =>
          rw [dif_neg (by rw [hopens, ho]; decide), Field.expanded_of_not_isObject ho]
          refine .cons ⟨_, .leaf hn hval ho, ?_⟩ .nil
          rw [nameAlong, nameBelow, List.map_nil, String.join_nil, String.append_empty]
      | true =>
          rw [dif_pos (by rw [hopens, ho])]
          obtain ⟨inner, hinner⟩ := DataType.exists_of_isObject ho
          obtain ⟨-, fields, hfields, rfl⟩ := typeAt_object ht hinner
          obtain ⟨hbelow, hfv⟩ := inferFieldsWith_value hfields
          have hlt : (site.property p.1).levels < levels := by
            rw [← hl]
            exact levels_property_lt (by rw [hopens, ho])
          have hrec : List.Forall₂ _ (leafPaths (site.property p.1) p.below) _ :=
            ih _ hlt (fun name => rename p.columnName ++ "_" ++ Naming.snakeCase name) hbelow rfl
          rw [expanded_renamed_of_object hinner, hfv, List.flatMap_assoc,
            List.forall₂_map_left_iff]
          exact hrec.imp fun path c hc => hc.under p
    · rw [if_neg hk, fieldAt_not_kept hn hk]
      exact .nil

end EntityCatalog
