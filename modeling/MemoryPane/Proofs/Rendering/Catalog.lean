import MemoryPane.Rendering.Catalog

/-!
What a catalog accepts and what it makes. A declaration is refused for one of three reasons, of
which the first that applies is given (`declare_eq_error_iff`); a list of declarations is refused
for the first one in it that is (`ofDeclarations_eq_error_iff`), and declared in order otherwise
(`ofDeclarations_eq_ok_iff`). `Catalog.Obtained` says in four cases what comes of asking for a
rendering.
-/

namespace MemoryPane

/-- Why a declaration is refused where the given kinds can be made and the given ids are taken. -/
inductive Declaration.Refused (kinds ids : List String) (d : Declaration) : Failure → Prop
  | unknownKind : d.kind ∉ kinds → Refused kinds ids d (.unknownKind d.kind)
  | emptyColumn : d.kind ∈ kinds → d.columnSize = 0 →
      Refused kinds ids d (.badConfig (.emptyColumn d.id))
  | duplicate : d.kind ∈ kinds → 0 < d.columnSize → d.id ∈ ids →
      Refused kinds ids d (.badConfig (.duplicateRendering d.id))

namespace Catalog

variable {catalog next : Catalog} {id kind : String} {d : Declaration} {ds : List Declaration}
  {failure : Failure}

/-- The ids that are taken. -/
def ids (catalog : Catalog) : List String := catalog.declarations.map Declaration.id

/-- The kinds that can be made. -/
def kinds (catalog : Catalog) : List String := catalog.makers.map Prod.fst

theorem lookup_eq_none_iff {α : Type} {entries : List (String × α)} {key : String} :
    entries.lookup key = none ↔ key ∉ entries.map Prod.fst := by
  rw [List.lookup_eq_none_iff, List.mem_map]
  constructor
  · rintro other ⟨entry, member, rfl⟩
    simpa using other entry member
  · intro missing entry member
    simpa using fun same : key = entry.1 => missing ⟨entry, member, same.symm⟩

theorem isNone_maker?_iff : (catalog.maker? kind).isNone = true ↔ kind ∉ catalog.kinds := by
  rw [Option.isNone_iff_eq_none]
  exact lookup_eq_none_iff

theorem isSome_declaration?_iff :
    (catalog.declaration? id).isSome = true ↔ id ∈ catalog.ids := by
  simp [declaration?, ids]

theorem mem_of_declaration? (found : catalog.declaration? id = some d) :
    d ∈ catalog.declarations ∧ d.id = id :=
  ⟨List.mem_of_find?_eq_some found, by simpa using List.find?_some found⟩

/-! ## Declaring -/

/-- The declaration can be added to the catalog. -/
structure Accepts (catalog : Catalog) (d : Declaration) : Prop where
  kind : d.kind ∈ catalog.kinds
  column : 0 < d.columnSize
  fresh : d.id ∉ catalog.ids

/-- The catalog with one more declaration, which nobody asked for yet. -/
def enter (catalog : Catalog) (d : Declaration) : Catalog :=
  { catalog with declarations := catalog.declarations ++ [d] }

@[simp] theorem ids_enter (catalog : Catalog) (d : Declaration) :
    (catalog.enter d).ids = catalog.ids ++ [d.id] :=
  List.map_append

/-- A declaration is entered if it is acceptable, and refused for some reason otherwise. -/
theorem declare_cases (catalog : Catalog) (d : Declaration) :
    (catalog.Accepts d ∧ catalog.declare d = .ok (catalog.enter d)) ∨
      ∃ failure, d.Refused catalog.kinds catalog.ids failure ∧
        catalog.declare d = .error failure := by
  simp only [declare, isNone_maker?_iff, isSome_declaration?_iff]
  split
  next unknown => exact .inr ⟨_, .unknownKind unknown, rfl⟩
  next known =>
      have kind := Decidable.not_not.mp known
      split
      next empty => exact .inr ⟨_, .emptyColumn kind empty, rfl⟩
      next full =>
          have column := Nat.pos_of_ne_zero full
          split
          next taken => exact .inr ⟨_, .duplicate kind column taken, rfl⟩
          next fresh => exact .inl ⟨⟨kind, column, fresh⟩, rfl⟩

theorem Accepts.not_refused (accepts : catalog.Accepts d) :
    ¬ d.Refused catalog.kinds catalog.ids failure := by
  rintro (unknown | ⟨-, empty⟩ | ⟨-, -, taken⟩)
  · exact unknown accepts.kind
  · exact Nat.ne_of_gt accepts.column empty
  · exact accepts.fresh taken

theorem nodup_ids_enter (distinct : catalog.ids.Nodup) (accepts : catalog.Accepts d) :
    (catalog.enter d).ids.Nodup := by
  rw [ids_enter]
  refine List.nodup_append.mpr ⟨distinct, by simp, ?_⟩
  rintro id taken own member rfl
  exact accepts.fresh (List.mem_singleton.mp member ▸ taken)

theorem declare_of_refused (refused : d.Refused catalog.kinds catalog.ids failure) :
    catalog.declare d = .error failure := by
  simp only [declare, isNone_maker?_iff, isSome_declaration?_iff]
  cases refused with
  | unknownKind unknown => rw [if_pos unknown]
  | emptyColumn known empty => rw [if_neg (not_not_intro known), if_pos empty]
  | duplicate known full taken =>
      rw [if_neg (not_not_intro known), if_neg (Nat.ne_of_gt full), if_pos taken]

theorem declare_eq_error_iff :
    catalog.declare d = .error failure ↔ d.Refused catalog.kinds catalog.ids failure := by
  refine ⟨fun failed => ?_, declare_of_refused⟩
  rcases catalog.declare_cases d with ⟨-, eq⟩ | ⟨other, refused, eq⟩ <;> rw [eq] at failed
  · contradiction
  · exact Except.error.inj failed ▸ refused

/-- The declarations can be added to the catalog one after the other. -/
structure AcceptsAll (catalog : Catalog) (ds : List Declaration) : Prop where
  kinds : ∀ d ∈ ds, d.kind ∈ catalog.kinds
  columns : ∀ d ∈ ds, 0 < d.columnSize
  distinct : (catalog.ids ++ ds.map Declaration.id).Nodup

theorem acceptsAll_nil_iff : catalog.AcceptsAll [] ↔ catalog.ids.Nodup :=
  ⟨fun all => by simpa using all.distinct, fun distinct => ⟨by simp, by simp, by simpa⟩⟩

theorem acceptsAll_cons_iff :
    catalog.AcceptsAll (d :: ds) ↔ catalog.Accepts d ∧ (catalog.enter d).AcceptsAll ds := by
  have ids : (catalog.enter d).ids ++ ds.map Declaration.id =
      catalog.ids ++ (d :: ds).map Declaration.id := by simp
  constructor
  · rintro ⟨kinds, columns, distinct⟩
    rw [List.forall_mem_cons] at kinds columns
    refine ⟨⟨kinds.1, columns.1, fun taken => ?_⟩, kinds.2, columns.2, ids ▸ distinct⟩
    exact (List.nodup_append.mp distinct).2.2 _ taken _ List.mem_cons_self rfl
  · rintro ⟨⟨kind, column, -⟩, kinds, columns, distinct⟩
    exact ⟨List.forall_mem_cons.mpr ⟨kind, kinds⟩, List.forall_mem_cons.mpr ⟨column, columns⟩,
      ids ▸ distinct⟩

/-- Declarations are all entered, in order, if they can be added one after the other. -/
theorem foldlM_declare_eq_ok_iff (distinct : catalog.ids.Nodup) :
    ds.foldlM declare catalog = .ok next ↔
      catalog.AcceptsAll ds ∧
        { catalog with declarations := catalog.declarations ++ ds } = next := by
  induction ds generalizing catalog with
  | nil => simp [acceptsAll_nil_iff, distinct, pure, Except.pure]
  | cons d ds ih =>
      rw [List.foldlM_cons, acceptsAll_cons_iff]
      rcases catalog.declare_cases d with ⟨accepts, eq⟩ | ⟨failure, refused, eq⟩ <;> rw [eq]
      · show ds.foldlM declare (catalog.enter d) = .ok next ↔ _
        rw [ih (nodup_ids_enter distinct accepts), and_iff_right accepts]
        simp [enter]
      · exact iff_of_false (by simp [bind, Except.bind])
          fun all => all.1.1.not_refused refused

/-- The first declaration that is refused decides how declaring all of them fails. -/
theorem foldlM_declare_eq_error_iff :
    ds.foldlM declare catalog = .error failure ↔
      ∃ before d after mid, ds = before ++ d :: after ∧
        before.foldlM declare catalog = .ok mid ∧ mid.declare d = .error failure := by
  constructor
  · intro failed
    induction ds generalizing catalog with
    | nil => contradiction
    | cons d ds ih =>
        cases declared : catalog.declare d with
        | error refused =>
            rw [List.foldlM_cons, declared] at failed
            exact ⟨[], d, ds, catalog, rfl, rfl, declared.trans failed⟩
        | ok entered =>
            rw [List.foldlM_cons, declared] at failed
            obtain ⟨before, last, after, mid, rfl, fine, refused⟩ := ih failed
            have fine : (d :: before).foldlM declare catalog = .ok mid := by
              rw [List.foldlM_cons, declared]
              exact fine
            exact ⟨d :: before, last, after, mid, rfl, fine, refused⟩
  · rintro ⟨before, d, after, mid, rfl, fine, refused⟩
    rw [List.foldlM_append, fine]
    show (d :: after).foldlM declare mid = _
    rw [List.foldlM_cons, refused]
    rfl

/-- The declarations are such that a new catalog can list them. -/
structure Declarable (ds : List Declaration) : Prop where
  kinds : ∀ d ∈ ds, d.kind = "hex" ∨ d.kind = "ascii"
  columns : ∀ d ∈ ds, 1 ≤ d.columnSize
  distinct : (ds.map Declaration.id).Nodup

theorem ofDeclarations_eq_ok_iff :
    ofDeclarations ds = .ok catalog ↔
      Declarable ds ∧ { standard with declarations := ds } = catalog := by
  have standard_ids : standard.ids.Nodup := List.nodup_nil
  rw [ofDeclarations, foldlM_declare_eq_ok_iff standard_ids]
  refine and_congr ⟨fun ⟨kinds, columns, distinct⟩ => ⟨?_, columns, distinct⟩,
    fun ⟨kinds, columns, distinct⟩ => ⟨?_, columns, distinct⟩⟩ Iff.rfl
  · simpa [Catalog.kinds, standard] using kinds
  · simpa [Catalog.kinds, standard] using kinds

/-- A new catalog cannot list the declarations because of the first that is refused. -/
theorem ofDeclarations_eq_error_iff :
    ofDeclarations ds = .error failure ↔
      ∃ before d after, ds = before ++ d :: after ∧ Declarable before ∧
        d.Refused ["hex", "ascii"] (before.map Declaration.id) failure := by
  rw [ofDeclarations, foldlM_declare_eq_error_iff]
  constructor
  · rintro ⟨before, d, after, mid, eq, fine, refused⟩
    obtain ⟨declarable, rfl⟩ := ofDeclarations_eq_ok_iff.mp fine
    exact ⟨before, d, after, eq, declarable, declare_eq_error_iff.mp refused⟩
  · rintro ⟨before, d, after, eq, declarable, refused⟩
    exact ⟨before, d, after, _, eq, ofDeclarations_eq_ok_iff.mpr ⟨declarable, rfl⟩,
      declare_eq_error_iff.mpr refused⟩

/-! ## Asking for a rendering -/

/-- The rendering that is made for a declaration now, if it is made in this way. -/
def make (catalog : Catalog) (d : Declaration) (maker : Maker) : Instance :=
  ⟨catalog.instances.length, maker d⟩

/-- The catalog once it made a rendering. -/
def keep (catalog : Catalog) (id : String) (made : Instance) : Catalog :=
  { catalog with instances := (id, made) :: catalog.instances }

theorem instance?_keep (catalog : Catalog) (id other : String) (made : Instance) :
    (catalog.keep id made).instance? other =
      if other = id then some made else catalog.instance? other := by
  rw [instance?, keep, List.lookup_cons]
  by_cases same : other = id
  · rw [if_pos same, beq_iff_eq.mpr same]
  · rw [if_neg same, beq_eq_false_iff_ne.mpr same]
    rfl

/-- What comes of asking a catalog for a rendering. -/
inductive Obtained (catalog : Catalog) (id : String) : Except Failure (Instance × Catalog) → Prop
  | shared {made : Instance} : catalog.instance? id = some made →
      Obtained catalog id (.ok (made, catalog))
  | made {d : Declaration} {maker : Maker} : catalog.instance? id = none →
      catalog.declaration? id = some d → catalog.maker? d.kind = some maker →
      Obtained catalog id (.ok (catalog.make d maker, catalog.keep id (catalog.make d maker)))
  | undeclared : catalog.instance? id = none → catalog.declaration? id = none →
      Obtained catalog id (.error (.unknownRendering id))
  | unmakable {d : Declaration} : catalog.instance? id = none →
      catalog.declaration? id = some d → catalog.maker? d.kind = none →
      Obtained catalog id (.error (.unknownKind d.kind))

theorem obtained (catalog : Catalog) (id : String) :
    catalog.Obtained id (catalog.obtain id) := by
  unfold obtain
  cases found : catalog.instance? id with
  | some made => exact .shared found
  | none =>
      cases declared : catalog.declaration? id with
      | none => exact .undeclared found declared
      | some d =>
          dsimp only
          cases known : catalog.maker? d.kind with
          | none => exact .unmakable found declared known
          | some maker => exact .made found declared known

/-- Whatever was obtained is what the catalog holds from then on. -/
theorem instance?_of_obtain {made : Instance} (came : catalog.obtain id = .ok (made, next)) :
    next.instance? id = some made := by
  have how := catalog.obtained id
  rw [came] at how
  cases how with
  | shared found => exact found
  | made => rw [instance?_keep, if_pos rfl]

/-- What was not made before is made as it is declared, in the way its kind is made now. -/
theorem exists_make_of_obtain {made : Instance} (missing : catalog.instance? id = none)
    (came : catalog.obtain id = .ok (made, next)) :
    ∃ d maker, catalog.declaration? id = some d ∧ catalog.maker? d.kind = some maker ∧
      made = catalog.make d maker := by
  have how := catalog.obtained id
  rw [came] at how
  cases how with
  | shared found =>
      rw [missing] at found
      contradiction
  | made missing declared known => exact ⟨_, _, declared, known, rfl⟩

/-- A rendering that was made before is the one to get. -/
theorem obtain_of_instance? {made : Instance} (found : catalog.instance? id = some made) :
    catalog.obtain id = .ok (made, catalog) := by
  rw [obtain, found]

end Catalog

end MemoryPane
