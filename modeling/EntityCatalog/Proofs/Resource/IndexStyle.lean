import EntityCatalog.Proofs.Column.Edits
import EntityCatalog.Proofs.Column.IndexStyle
import EntityCatalog.Proofs.Resource.Provenance

/-!
# One resource in both index styles

The index style is a choice of the resource.  Its entity type in one style is held against that in
the other: they fail together, and where they do not, they differ in the two expressions that
queries compare with, on columns that come from inference and may have been written over since.

What is reported is the same but for one thing.  If an override gives one of these expressions as
what is none, the column is refused in both styles, and the reason may be another one: the member is
read where it stands, and that is another place in a column that has the expression already.
-/

namespace EntityCatalog

/-! ## Pairs of columns -/

/-- Two lists that go with a third are the parts of a list of pairs. -/
theorem exists_pairs {α β γ : Type} {P : α → β → Prop} {Q : α → γ → Prop} {l : List α} {bs : List β}
    {cs : List γ} (hb : List.Forall₂ P l bs) (hc : List.Forall₂ Q l cs) :
    ∃ pairs : List (β × γ), pairs.map (·.1) = bs ∧ pairs.map (·.2) = cs ∧
      List.Forall₂ (fun a pair => P a pair.1 ∧ Q a pair.2) l pairs := by
  induction hb generalizing cs with
  | nil =>
      cases hc
      exact ⟨[], rfl, rfl, .nil⟩
  | cons hab _ ih =>
      cases hc with
      | cons hac hc =>
          obtain ⟨pairs, rfl, rfl, hpairs⟩ := ih hc
          exact ⟨(_, _) :: pairs, rfl, rfl, .cons ⟨hab, hac⟩ hpairs⟩

theorem exists_of_mem_right {α β : Type} {R : α → β → Prop} {as : List α} {bs : List β}
    (h : List.Forall₂ R as bs) {b : β} (hb : b ∈ bs) : ∃ a, a ∈ as ∧ R a b := by
  induction h with
  | nil => exact absurd hb List.not_mem_nil
  | cons hab _ ih =>
      rcases List.mem_cons.mp hb with rfl | hb
      · exact ⟨_, List.mem_cons_self, hab⟩
      · obtain ⟨a, ha, hab⟩ := ih hb
        exact ⟨a, List.mem_cons_of_mem _ ha, hab⟩

/-- What ties the two columns of a leaf path, one for each style, to the path and to each other. -/
structure InBothStyles (site : Site) (path : List Property) (pair : Field × Field) : Prop where
  provenance : Provenance site path pair.1
  restyled : ∃ p, path.getLast? = some p ∧ Restyled site.schemaPrefix p pair.1 pair.2

/-- The two columns that come of two by the same overrides. -/
inductive Descends (overrides : OrderedMap Json) (first first' : Field) : Field → Field → Prop
  | inferred : Descends overrides first first' first first'
  | overridden {c c' d d' : Field} {members : List (String × Json)} :
      Descends overrides first first' c c' → (c.name, .object members) ∈ overrides.entries →
        c.overridden members = .ok d → c'.overridden members = .ok d' →
          Descends overrides first first' d d'

/-- Two columns that come of a pair that inference tells apart. -/
def ToldApart (overrides : OrderedMap Json) (pairs : List (Field × Field)) (c c' : Field) : Prop :=
  ∃ pair ∈ pairs, pair.1 ≠ pair.2 ∧ Descends overrides pair.1 pair.2 c c'

/-- Two columns of an entity type in both styles: they agree but for the expressions that queries
compare with, and altogether unless inference tells them apart. -/
structure Restylable (overrides : OrderedMap Json) (pairs : List (Field × Field)) (c c' : Field) :
    Prop where
  bare_eq : c.bare = c'.bare
  origin : c = c' ∨ ToldApart overrides pairs c c'

/-- Two reports of the same thing.  If a column that inference tells apart is refused for members
that give no expression where one belongs, the reason may be another one. -/
inductive ReportedAlike (overrides : OrderedMap Json) (pairs : List (Field × Field)) :
    Issue → Issue → Prop
  | same {i : Issue} : ReportedAlike overrides pairs i i
  | otherReason {c c' : Field} {members : List (String × Json)} {e e' : Shape.Mismatch} :
      ToldApart overrides pairs c c' → (c.name, .object members) ∈ overrides.entries →
        Field.GivesNoExpression members → c.overridden members = .error e →
          c'.overridden members = .error e' →
            ReportedAlike overrides pairs (EditFailure.overrideInvalid c.name e).issue
              (EditFailure.overrideInvalid c.name e').issue

namespace Restylable

variable {overrides : OrderedMap Json} {pairs : List (Field × Field)} {c c' : Field}

theorem name_eq (h : Restylable overrides pairs c c') : c.name = c'.name :=
  congrArg (·.name) h.bare_eq

theorem refl (c : Field) : Restylable overrides pairs c c := ⟨rfl, Or.inl rfl⟩

theorem of_mem {pair : Field × Field} (h : pair ∈ pairs) (hbare : pair.1.bare = pair.2.bare) :
    Restylable overrides pairs pair.1 pair.2 := by
  refine ⟨hbare, ?_⟩
  by_cases heq : pair.1 = pair.2
  · exact Or.inl heq
  · exact Or.inr ⟨pair, h, heq, .inferred⟩

/-- An override is refused on both sides or keeps the columns as they are to each other. -/
theorem overridden (h : Restylable overrides pairs c c') {members : List (String × Json)}
    (hmem : (c.name, .object members) ∈ overrides.entries) :
    Together
      (fun e e' => ReportedAlike overrides pairs (EditFailure.overrideInvalid c.name e).issue
        (EditFailure.overrideInvalid c.name e').issue)
      (Restylable overrides pairs) (c.overridden members) (c'.overridden members) := by
  rcases (Field.overridden_together h.bare_eq members).results with
    ⟨e, e', hd, hd', he⟩ | ⟨d, d', hd, hd', hbare⟩
  · rw [hd, hd']
    rcases h.origin with rfl | hapart
    · rw [Except.error.inj (hd.symm.trans hd')]
      exact .failed .same
    · rcases he with rfl | hgives
      · exact .failed .same
      · exact .failed (.otherReason hapart hmem hgives hd hd')
  · rw [hd, hd']
    refine .made ⟨hbare, ?_⟩
    rcases h.origin with rfl | ⟨pair, hpair, hne, hdescends⟩
    · exact Or.inl (Except.ok.inj (hd.symm.trans hd'))
    · exact Or.inr ⟨pair, hpair, hne, .overridden hdescends hmem hd hd'⟩

end Restylable

namespace ResourceConfig

/-- The resource in the older index style, or not. -/
def inStyle (r : ResourceConfig) (legacy : Bool) : ResourceConfig :=
  { r with legacyIndexStyle := legacy }

theorem source_inStyle (r : ResourceConfig) (legacy : Bool) :
    (r.inStyle legacy).source = r.source :=
  rfl

/-! ## Edits in both styles -/

/-- The edits of a resource keep columns in both styles as they are to each other. -/
theorem editedColumns_forall₂ (r : ResourceConfig) {pairs : List (Field × Field)}
    {columns columns' : List Field}
    (h : List.Forall₂ (Restylable r.fieldOverrides pairs) columns columns') :
    List.Forall₂ (Restylable r.fieldOverrides pairs) (r.editedColumns columns).1
        (r.editedColumns columns').1 ∧
      List.Forall₂ (ReportedAlike r.fieldOverrides pairs)
        ((r.editedColumns columns).2.map EditFailure.issue)
        ((r.editedColumns columns').2.map EditFailure.issue) := by
  have hname : ∀ c c', Restylable r.fieldOverrides pairs c c' → c.name = c'.name :=
    fun _ _ hc => hc.name_eq
  have hadded := forall₂_addColumns hname Restylable.refl h r.fieldAdditions
  have hoverride : ∀ o ∈ r.fieldOverrides.entries, ∀ cs cs',
      List.Forall₂ (Restylable r.fieldOverrides pairs) cs cs' →
        Together (fun e e' => ReportedAlike r.fieldOverrides pairs e.issue e'.issue)
          (List.Forall₂ (Restylable r.fieldOverrides pairs)) (overrideColumn cs o.1 o.2)
          (overrideColumn cs' o.1 o.2) := by
    rintro ⟨name, value⟩ ho cs cs' hcs
    refine overrideColumn_together hname (fun _ => .same) hcs fun c c' members hc hn hv => ?_
    subst hn hv
    exact hc.overridden ho
  obtain ⟨hover, hoverFailures⟩ := editColumns_forall₂ hoverride hadded
  have hexclude : ∀ name ∈ r.fieldExclusions, ∀ cs cs',
      List.Forall₂ (Restylable r.fieldOverrides pairs) cs cs' →
        Together Eq (List.Forall₂ (Restylable r.fieldOverrides pairs)) (excludeColumn cs name)
          (excludeColumn cs' name) :=
    fun name _ _ _ hcs => excludeColumn_together hname hcs name
  obtain ⟨hexcluded, hexcludedFailures⟩ := editColumns_forall₂ hexclude hover
  refine ⟨hexcluded, ?_⟩
  rw [editedColumns, editedColumns, List.map_append, List.map_append]
  refine List.rel_append ?_ ?_
  · rw [List.forall₂_map_left_iff, List.forall₂_map_right_iff]
    exact hoverFailures
  · rw [List.forall₂_map_left_iff, List.forall₂_map_right_iff]
    exact hexcludedFailures.imp fun e e' he => he ▸ .same

/-! ## Assembly in both styles -/

/-- The flat columns of inference in both styles, path by path. -/
theorem exists_pairs_inStyle {site : Site} (hs : site.scope = .document [])
    {properties : List Property} {n n' : Noted (List Field)}
    (h : inferColumns (site.inStyle false) properties = .ok n)
    (h' : inferColumns (site.inStyle true) properties = .ok n') :
    ∃ pairs : List (Field × Field),
      pairs.map (·.1) = (n.value.flatMap Field.expanded).map Field.restricted ∧
        pairs.map (·.2) = (n'.value.flatMap Field.expanded).map Field.restricted ∧
        List.Forall₂ (InBothStyles (site.inStyle false)) (leafPaths (site.inStyle false) properties)
          pairs := by
  have hflat : ∀ {legacy : Bool} {n : Noted (List Field)},
      inferColumns (site.inStyle legacy) properties = .ok n →
        List.Forall₂
          (fun path c => ∃ d, ComesFrom (site.inStyle legacy) id path d ∧ c = d.restricted)
          (leafPaths site properties)
          ((n.value.flatMap Field.expanded).map Field.restricted) := by
    intro legacy n h
    obtain ⟨hok, hvalue⟩ := inferColumns_value h
    have hpaths := forall₂_leafPaths id hok
    rw [leafPaths_inStyle] at hpaths
    rw [List.forall₂_map_right_iff, hvalue, List.flatMap_assoc]
    exact hpaths.imp fun path d hd => ⟨d, hd, rfl⟩
  obtain ⟨pairs, hfst, hsnd, hpairs⟩ := exists_pairs (hflat h) (hflat h')
  refine ⟨pairs, hfst, hsnd, ?_⟩
  rw [leafPaths_inStyle]
  refine hpairs.imp fun path pair hpair => ?_
  obtain ⟨⟨d, hd, hfirst⟩, d', ⟨f', hf', rfl⟩, hsecond⟩ := hpair
  obtain ⟨c, c'⟩ := pair
  obtain rfl : c = d.restricted := hfirst
  obtain rfl : c' = _ := hsecond
  have hscope : (site.inStyle false).scope = .document [] := hs
  refine ⟨hd.provenance hscope, ?_⟩
  obtain ⟨f, hf, rfl⟩ := hd
  obtain ⟨p, hlast, hp⟩ := hf.restyled hf' hs
  exact ⟨p, hlast, hp.flat _⟩

/-- The entity types of a resource in both styles, where `pairs` are the columns of its leaf paths
before any edit. -/
structure StyleChange (r : ResourceConfig) (schema : Json) (m : ModuleConfig)
    (source : EntitySource) (properties : List Property) (pairs : List (Field × Field))
    (a a' : Assembled) : Prop where
  sources : a.entityType.sources = [source]
  root : (Schema.ofJson schema).rootProperties? = some properties
  inferred : List.Forall₂ (InBothStyles ((r.inStyle false).site m source))
    (leafPaths ((r.inStyle false).site m source) properties) pairs
  plain : a.entityType.columns
    = (r.editedColumns (pairs.map (·.1)
        ++ if r.includesJsonbField then [jsonbColumn source.sourceAlias] else [])).1
  legacy : a'.entityType.columns
    = (r.editedColumns (pairs.map (·.2)
        ++ if r.includesJsonbField then [jsonbColumn source.sourceAlias] else [])).1
  others : a'.entityType = { a.entityType with columns := a'.entityType.columns }
  columns : List.Forall₂ (Restylable r.fieldOverrides pairs) a.entityType.columns
    a'.entityType.columns
  issues : List.Forall₂ (ReportedAlike r.fieldOverrides pairs) a.issues a'.issues

/-- What results from columns that are inferred in both styles. -/
theorem styleChange_of_inferColumns {r : ResourceConfig} {schema : Json} {m : ModuleConfig}
    {source : EntitySource} {properties : List Property} {n n' : Noted (List Field)}
    (hroot : (Schema.ofJson schema).rootProperties? = some properties)
    (h : inferColumns ((r.inStyle false).site m source) properties = .ok n)
    (h' : inferColumns ((r.inStyle true).site m source) properties = .ok n')
    (hfindings : n.findings = n'.findings) :
    ∃ pairs, r.StyleChange schema m source properties pairs
      ⟨r.entityType m source (r.editedColumns (r.flatColumns source n.value)).1,
        n.findings.map Located.issue
          ++ (r.editedColumns (r.flatColumns source n.value)).2.map EditFailure.issue⟩
      ⟨r.entityType m source (r.editedColumns (r.flatColumns source n'.value)).1,
        n'.findings.map Located.issue
          ++ (r.editedColumns (r.flatColumns source n'.value)).2.map EditFailure.issue⟩ := by
  have hscope : (r.site m source).scope = .document [] := rfl
  obtain ⟨pairs, hfst, hsnd, hpairs⟩ := exists_pairs_inStyle hscope h h'
  have hflat : List.Forall₂ (Restylable r.fieldOverrides pairs) (r.flatColumns source n.value)
      (r.flatColumns source n'.value) := by
    rw [flatColumns_eq, flatColumns_eq, ← hfst, ← hsnd]
    refine List.rel_append ?_ (List.forall₂_same.mpr fun c _ => .refl c)
    rw [List.forall₂_map_left_iff, List.forall₂_map_right_iff, List.forall₂_same]
    intro pair hpair
    obtain ⟨path, -, hboth⟩ := exists_of_mem_right hpairs hpair
    obtain ⟨p, -, hp⟩ := hboth.restyled
    exact .of_mem hpair hp.bare_eq
  obtain ⟨hcolumns, hfailures⟩ := r.editedColumns_forall₂ hflat
  refine ⟨pairs, rfl, hroot, hpairs, ?_, ?_, rfl, hcolumns, ?_⟩
  · rw [hfst, ← flatColumns_eq]
    rfl
  · rw [hsnd, ← flatColumns_eq]
    rfl
  · rw [hfindings]
    exact List.rel_append (List.forall₂_same.mpr fun _ _ => .same) hfailures

/-- **The index style reaches two expressions.**  In both styles a resource fails with the same
error or is assembled; and then its entity types differ only in the expressions that queries compare
with, on columns that inference tells apart, and what is reported is the same but for the reasons
for which such a column is refused. -/
theorem assemble_inStyle (r : ResourceConfig) (schema : Json) (m : ModuleConfig) :
    (∃ e, (r.inStyle false).assemble schema m = .error e ∧
        (r.inStyle true).assemble schema m = .error e) ∨
      ∃ source properties pairs a a',
        (r.inStyle false).assemble schema m = .ok a ∧
          (r.inStyle true).assemble schema m = .ok a' ∧
          r.StyleChange schema m source properties pairs a a' := by
  rw [assemble, assemble]
  cases hroot : (Schema.ofJson schema).rootProperties? with
  | none => exact Or.inl ⟨_, rfl, rfl⟩
  | some properties =>
      simp only [source_inStyle]
      cases hsource : resolveSource r.source m.sources m.sourceMap with
      | error e => exact Or.inl ⟨_, rfl, rfl⟩
      | ok source =>
          dsimp only
          have hboth : Together Eq (fun n n' => n.findings = n'.findings)
              (inferColumns ((r.inStyle false).site m source) properties)
              (inferColumns ((r.inStyle true).site m source) properties) :=
            inferColumns_inStyle ((r.inStyle false).site m source) true properties
          rcases hboth.results with ⟨e, e', h, h', rfl⟩ | ⟨n, n', h, h', hfindings⟩
          · rw [h, h']
            exact Or.inl ⟨_, rfl, rfl⟩
          · obtain ⟨pairs, hchange⟩ := styleChange_of_inferColumns hroot h h' hfindings
            rw [h, h']
            exact Or.inr ⟨source, properties, pairs, _, _, rfl, rfl, hchange⟩

/-- Users with two members over those of a column, neither of which may have its value. -/
def misgivenUser : ResourceConfig :=
  { user with
    fieldOverrides :=
      OrderedMap.ofList
        [("name", .object
          [("essential", .string "yes"), ("filterValueGetter", .number (.integer 7))])] }

/-- A schema with one text. -/
def nameSchema : Json :=
  .object
    [("type", .string "object"),
     ("properties", .object [("name", .object [("type", .string "string")])])]

/-- What is reported can depend on the style: of two members that are refused, the first is named,
and the style is among what decides which that is. -/
theorem issues_differ_by_style :
    ∃ a a', (misgivenUser.inStyle false).assemble nameSchema users = .ok a ∧
      (misgivenUser.inStyle true).assemble nameSchema users = .ok a' ∧
      a.issues.map (·.message)
        = ["Invalid override for field name: invalid type: string \"yes\", expected a boolean"] ∧
      a'.issues.map (·.message)
        = ["Invalid override for field name: invalid type: integer `7`, expected a string"] ∧
      a.issues ≠ a'.issues := by
  obtain ⟨a, ha, hplain⟩ := exists_ok_of_toOption (f := fun a => a.issues.map (·.message))
    (x := (misgivenUser.inStyle false).assemble nameSchema users)
    (b := ["Invalid override for field name: invalid type: string \"yes\", expected a boolean"])
    (by decide +kernel)
  obtain ⟨a', ha', hlegacy⟩ := exists_ok_of_toOption (f := fun a => a.issues.map (·.message))
    (x := (misgivenUser.inStyle true).assemble nameSchema users)
    (b := ["Invalid override for field name: invalid type: integer `7`, expected a string"])
    (by decide +kernel)
  refine ⟨a, a', ha, ha', hplain, hlegacy, fun heq => ?_⟩
  have hsame := congrArg (List.map (·.message)) heq
  rw [hplain, hlegacy] at hsame
  exact absurd hsame (by decide)

end ResourceConfig

end EntityCatalog
