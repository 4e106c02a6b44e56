import MemoryPane.Proofs.Rendering.Catalog

/-!
Runs of a catalog, in which renderings are declared, kinds are made in new ways and renderings are
asked for in any order. `Step` says in four cases what one action can do to a catalog, and
`WellFormed` what every step keeps; so a rendering that is declared can always be made.

`handedOut` collects from a run the renderings that were handed out under an id. What a catalog
holds under an id is the first of them (`instance?_run`), and so are all that follow
(`instance?_run_of_mem`): a rendering is made when it is first asked for, and never again
(`shares_of_new`).
-/

namespace MemoryPane.Catalog

/-! ## Runs -/

/-- What can happen to a catalog. -/
inductive Action where
  | declare (d : Declaration)
  | setMaker (kind : String) (maker : Maker)
  | obtain (id : String)

/-- The catalog after an action. Whatever is refused leaves it as it was. -/
def act (catalog : Catalog) : Action → Catalog
  | .declare d =>
    match catalog.declare d with
    | .ok next => next
    | .error _ => catalog
  | .setMaker kind maker => catalog.setMaker kind maker
  | .obtain id =>
    match catalog.obtain id with
    | .ok (_, next) => next
    | .error _ => catalog

/-- The catalog after a sequence of actions. -/
def run (catalog : Catalog) (actions : List Action) : Catalog := actions.foldl act catalog

@[simp] theorem run_cons (catalog : Catalog) (action : Action) (actions : List Action) :
    catalog.run (action :: actions) = (catalog.act action).run actions := rfl

/-- The catalog lists the declarations it was created with, be they none, and nothing happened to it
since. -/
def New (catalog : Catalog) : Prop := ∃ ds, ofDeclarations ds = .ok catalog

/-- A new catalog is the standard one with declarations that it can list. -/
theorem new_iff {catalog : Catalog} :
    catalog.New ↔ ∃ ds, Declarable ds ∧ { standard with declarations := ds } = catalog :=
  exists_congr fun _ => ofDeclarations_eq_ok_iff

/-- The rendering that the action hands out under `id`. -/
def given? (catalog : Catalog) (id : String) : Action → Option Instance
  | .obtain other => if other = id then (catalog.obtain id).toOption.map Prod.fst else none
  | .declare _ | .setMaker _ _ => none

/-- The renderings handed out under `id` in the course of a run, in order. -/
def handedOut (catalog : Catalog) (id : String) : List Action → List Instance
  | [] => []
  | action :: actions =>
    (catalog.given? id action).toList ++ (catalog.act action).handedOut id actions

variable {catalog next : Catalog} {id : String} {made : Instance}

/-! ## What a run keeps -/

/-- All that one action can do to a catalog. -/
inductive Step (catalog : Catalog) : Catalog → Prop
  | idle : Step catalog catalog
  | declared {d : Declaration} : catalog.Accepts d → Step catalog (catalog.enter d)
  | taught (kind : String) (maker : Maker) : Step catalog (catalog.setMaker kind maker)
  | made {id : String} {d : Declaration} {maker : Maker} : catalog.instance? id = none →
      catalog.declaration? id = some d → Step catalog (catalog.keep id (catalog.make d maker))

theorem step_act (catalog : Catalog) (action : Action) : Step catalog (catalog.act action) := by
  cases action with
  | declare d =>
      simp only [act]
      rcases catalog.declare_cases d with ⟨accepts, eq⟩ | ⟨failure, -, eq⟩ <;> rw [eq]
      · exact .declared accepts
      · exact .idle
  | setMaker kind maker => exact .taught kind maker
  | obtain id =>
      simp only [act]
      have came := catalog.obtained id
      generalize catalog.obtain id = result at came ⊢
      cases came with
      | shared | undeclared | unmakable => exact .idle
      | made missing declared => exact .made missing declared

structure WellFormed (catalog : Catalog) : Prop where
  distinct : catalog.ids.Nodup
  columns : ∀ d ∈ catalog.declarations, 1 ≤ d.columnSize
  /-- Whatever is declared can be made. -/
  kinds : ∀ d ∈ catalog.declarations, d.kind ∈ catalog.kinds
  /-- Whatever was made is declared. -/
  declared : ∀ id made, catalog.instance? id = some made → id ∈ catalog.ids
  numbered : ∀ id made, catalog.instance? id = some made →
    made.serial < catalog.instances.length
  apart : ∀ id other made made', catalog.instance? id = some made →
    catalog.instance? other = some made' → made.serial = made'.serial → id = other
  /-- No rendering was made twice. -/
  once : (catalog.instances.map Prod.fst).Nodup

namespace WellFormed

theorem of_new (new : catalog.New) : catalog.WellFormed := by
  obtain ⟨ds, declarable, rfl⟩ := new_iff.mp new
  exact {
    distinct := declarable.distinct
    columns := declarable.columns
    kinds := by simpa [Catalog.kinds, standard] using declarable.kinds
    declared := fun _ _ found => absurd found (by simp [instance?, standard])
    numbered := fun _ _ found => absurd found (by simp [instance?, standard])
    apart := fun _ _ _ _ found => absurd found (by simp [instance?, standard])
    once := List.nodup_nil }

theorem enter (wf : catalog.WellFormed) {d : Declaration} (accepts : catalog.Accepts d) :
    (catalog.enter d).WellFormed := by
  have member (other : Declaration) :
      other ∈ (catalog.enter d).declarations ↔ other ∈ catalog.declarations ∨ other = d := by
    simp [Catalog.enter]
  exact {
    distinct := nodup_ids_enter wf.distinct accepts
    columns := by
      intro other declared
      rcases (member other).mp declared with before | rfl
      · exact wf.columns other before
      · exact accepts.column
    kinds := by
      intro other declared
      rcases (member other).mp declared with before | rfl
      · exact wf.kinds other before
      · exact accepts.kind
    declared := by
      intro id made found
      rw [ids_enter]
      exact List.mem_append_left _ (wf.declared id made found)
    numbered := wf.numbered
    apart := wf.apart
    once := wf.once }

theorem setMaker (wf : catalog.WellFormed) (kind : String) (maker : Maker) :
    (catalog.setMaker kind maker).WellFormed :=
  { wf with kinds := fun d member => List.mem_cons_of_mem kind (wf.kinds d member) }

theorem keep (wf : catalog.WellFormed) {d : Declaration} (missing : catalog.instance? id = none)
    (declared : catalog.declaration? id = some d) (maker : Maker) :
    (catalog.keep id (catalog.make d maker)).WellFormed := by
  have number : (catalog.make d maker).serial = catalog.instances.length := rfl
  exact { wf with
    declared := by
      intro other made found
      rw [instance?_keep] at found
      split at found
      next own =>
          obtain ⟨member, same⟩ := mem_of_declaration? declared
          rw [own, ← same]
          exact List.mem_map_of_mem member
      next => exact wf.declared other made found
    numbered := by
      intro other made found
      rw [instance?_keep] at found
      split at found
      next => exact Option.some.inj found ▸ Nat.lt_succ_self _
      next => exact Nat.lt_succ_of_lt (wf.numbered other made found)
    apart := by
      -- a rendering made now has a higher number than all before
      intro first second made made' found found' same
      rw [instance?_keep] at found found'
      split at found <;> split at found'
      next own own' => rw [own, own']
      next =>
          have earlier := wf.numbered second made' found'
          rw [← same, ← Option.some.inj found, number] at earlier
          exact absurd earlier (Nat.lt_irrefl _)
      next =>
          have earlier := wf.numbered first made found
          rw [same, ← Option.some.inj found', number] at earlier
          exact absurd earlier (Nat.lt_irrefl _)
      next => exact wf.apart first second made made' found found' same
    once := List.nodup_cons.mpr ⟨lookup_eq_none_iff.mp missing, wf.once⟩ }

theorem step (wf : catalog.WellFormed) (step : Step catalog next) : next.WellFormed := by
  cases step with
  | idle => exact wf
  | declared accepts => exact wf.enter accepts
  | taught kind maker => exact wf.setMaker kind maker
  | made missing declared => exact wf.keep missing declared _

theorem run (wf : catalog.WellFormed) (actions : List Action) :
    (catalog.run actions).WellFormed := by
  induction actions generalizing catalog with
  | nil => exact wf
  | cons action actions ih => exact ih (wf.step (catalog.step_act action))

/-- The only reason not to get a rendering is that it is not declared. -/
theorem obtain_eq_error_iff (wf : catalog.WellFormed) {failure : Failure} :
    catalog.obtain id = .error failure ↔
      failure = .unknownRendering id ∧ id ∉ catalog.ids := by
  have came := catalog.obtained id
  generalize catalog.obtain id = result at came ⊢
  cases came with
  | shared found => exact iff_of_false (by simp) fun missing => missing.2 (wf.declared id _ found)
  | made missing declared =>
      obtain ⟨member, rfl⟩ := mem_of_declaration? declared
      exact iff_of_false (by simp) fun missing => missing.2 (List.mem_map_of_mem member)
  | undeclared missing undeclared =>
      have fresh : id ∉ catalog.ids := fun taken => by
        rw [← isSome_declaration?_iff, undeclared] at taken
        contradiction
      simpa [fresh] using eq_comm
  | unmakable missing declared unknown =>
      have kind := wf.kinds _ (mem_of_declaration? declared).1
      exact absurd kind (lookup_eq_none_iff.mp unknown)

end WellFormed

/-! ## What is handed out -/

/-- Whatever a catalog holds it keeps, and it comes to hold what it hands out. -/
theorem instance?_act (catalog : Catalog) (id : String) (action : Action) :
    (catalog.act action).instance? id = (catalog.instance? id).or (catalog.given? id action) := by
  cases action with
  | declare d =>
      simp only [act, given?, Option.or_none]
      rcases catalog.declare_cases d with ⟨accepts, eq⟩ | ⟨failure, -, eq⟩ <;> rw [eq]
      rfl
  | setMaker kind maker =>
      rw [given?, Option.or_none]
      rfl
  | obtain other =>
      simp only [act, given?]
      have came := catalog.obtained other
      by_cases own : other = id
      · subst own
        rw [if_pos rfl]
        generalize catalog.obtain other = result at came ⊢
        cases came with
        | shared found => exact found.trans (by rw [found, Option.some_or])
        | made missing => exact (instance?_keep _ _ _ _).trans (by rw [missing, if_pos rfl]; rfl)
        | undeclared | unmakable => exact Option.or_none.symm
      · rw [if_neg own, Option.or_none]
        generalize catalog.obtain other = result at came ⊢
        cases came with
        | made => exact (instance?_keep _ _ _ _).trans (if_neg (Ne.symm own))
        | shared | undeclared | unmakable => rfl

/-- What a catalog holds under an id is the first that it handed out under it. -/
theorem instance?_run (catalog : Catalog) (id : String) (actions : List Action) :
    (catalog.run actions).instance? id =
      (catalog.instance? id).or (catalog.handedOut id actions).head? := by
  induction actions generalizing catalog with
  | nil => exact Option.or_none.symm
  | cons action actions ih =>
      rw [run_cons, ih, instance?_act, Option.or_assoc, handedOut]
      cases catalog.given? id action <;> rfl

theorem given?_eq_some_iff {action : Action} :
    catalog.given? id action = some made ↔
      action = .obtain id ∧ ∃ next, catalog.obtain id = .ok (made, next) := by
  cases action with
  | obtain other =>
      by_cases own : other = id
      · cases came : catalog.obtain id with
        | error failure => simp [given?, came, Except.toOption]
        | ok answer => simp [given?, own, came, Except.toOption, Prod.ext_iff]
      · simp [given?, own]
  | declare | setMaker => simp [given?]

/-- All that a catalog hands out under an id is the same. -/
theorem instance?_run_of_mem {actions : List Action}
    (member : made ∈ catalog.handedOut id actions) :
    (catalog.run actions).instance? id = some made := by
  induction actions generalizing catalog with
  | nil => contradiction
  | cons action actions ih =>
      rcases List.mem_append.mp member with now | later
      · obtain ⟨rfl, next, came⟩ := given?_eq_some_iff.mp (Option.mem_toList.mp now)
        have held : (catalog.act (.obtain id)).instance? id = some made := by
          simp only [act, came]
          exact instance?_of_obtain came
        rw [run_cons, instance?_run, held, Option.some_or]
      · exact ih later

/-- The rendering was made in the run when it was first handed out, as it was declared and in the
way that its kind was made then. -/
def MadeFirst (catalog : Catalog) (actions : List Action) (id : String) (made : Instance) : Prop :=
  ∃ before after d maker, actions = before ++ .obtain id :: after ∧
    catalog.handedOut id before = [] ∧ (catalog.run before).declaration? id = some d ∧
    (catalog.run before).maker? d.kind = some maker ∧ made = (catalog.run before).make d maker

theorem madeFirst_of_mem {actions : List Action} (missing : catalog.instance? id = none)
    (member : made ∈ catalog.handedOut id actions) : catalog.MadeFirst actions id made := by
  induction actions generalizing catalog with
  | nil => contradiction
  | cons action actions ih =>
      have held := instance?_act catalog id action
      rw [missing, Option.none_or] at held
      cases given : catalog.given? id action with
      | none =>
          rw [handedOut, given] at member
          obtain ⟨before, after, d, maker, rfl, none, declared, known, eq⟩ :=
            ih (held.trans given) member
          refine ⟨action :: before, after, d, maker, rfl, ?_, declared, known, eq⟩
          rw [handedOut, given, none]
          rfl
      | some first =>
          obtain rfl : first = made := by
            have last := instance?_run_of_mem member
            rw [run_cons, instance?_run, held, given, Option.some_or] at last
            exact Option.some.inj last
          obtain ⟨rfl, next, came⟩ := given?_eq_some_iff.mp given
          obtain ⟨d, maker, declared, known, eq⟩ := exists_make_of_obtain missing came
          exact ⟨[], actions, d, maker, rfl, rfl, declared, known, eq⟩

/-! ## Sharing -/

/-- A catalog in good order. -/
structure Orderly (catalog : Catalog) : Prop where
  distinct : (catalog.declarations.map Declaration.id).Nodup
  columns : ∀ d ∈ catalog.declarations, 1 ≤ d.columnSize
  makers : ∀ d ∈ catalog.declarations, ∃ maker, catalog.maker? d.kind = some maker
  refuses : ∀ d failure, catalog.declare d = .error failure ↔
    d.Refused catalog.kinds catalog.ids failure
  /-- A declaration that is refused changes nothing. -/
  refused : ∀ d failure, catalog.declare d = .error failure → catalog.act (.declare d) = catalog
  /-- The only reason not to get a rendering is that it is not declared. -/
  missing : ∀ id failure, catalog.obtain id = .error failure ↔
    failure = .unknownRendering id ∧ ∀ d ∈ catalog.declarations, d.id ≠ id
  untouched : ∀ id failure, catalog.obtain id = .error failure → catalog.act (.obtain id) = catalog

theorem WellFormed.orderly (wf : catalog.WellFormed) : catalog.Orderly where
  distinct := wf.distinct
  columns := wf.columns
  makers := by
    intro d member
    have known := mt isNone_maker?_iff.mp (not_not_intro (wf.kinds d member))
    simpa [Option.ne_none_iff_exists'] using known
  refuses := fun _ _ => declare_eq_error_iff
  refused := by
    intro d failure refused
    simp only [act, refused]
  missing := by
    intro id failure
    rw [wf.obtain_eq_error_iff]
    simp [ids]
  untouched := by
    intro id failure refused
    simp only [act, refused]

/-- In a run that begins with the catalog, renderings are made once and shared. -/
structure Shares (catalog : Catalog) (actions : List Action) : Prop where
  once : ((catalog.run actions).instances.map Prod.fst).Nodup
  /-- All who ask get the same. -/
  same : ∀ id, ∀ made ∈ catalog.handedOut id actions,
    ∀ other ∈ catalog.handedOut id actions, made = other
  /-- Asking once more gives the same and makes nothing. -/
  kept : ∀ id, ∀ made ∈ catalog.handedOut id actions,
    (catalog.run actions).obtain id = .ok (made, catalog.run actions)
  first : ∀ id, ∀ made ∈ catalog.handedOut id actions, catalog.MadeFirst actions id made
  apart : ∀ id other, id ≠ other → ∀ made ∈ catalog.handedOut id actions,
    ∀ made' ∈ catalog.handedOut other actions, made.serial ≠ made'.serial
  isMade : ∀ id, (catalog.run actions).isMade id = true ↔ catalog.handedOut id actions ≠ []

/-- Whatever happens to a new catalog, it stays in good order and its renderings are shared. -/
theorem shares_of_new (new : catalog.New) (actions : List Action) :
    (catalog.run actions).Orderly ∧ catalog.Shares actions := by
  have wf := (WellFormed.of_new new).run actions
  have missing (id : String) : catalog.instance? id = none := by
    obtain ⟨ds, -, rfl⟩ := new_iff.mp new
    rfl
  have held {id : String} {made : Instance} (member : made ∈ catalog.handedOut id actions) :
      (catalog.run actions).instance? id = some made := instance?_run_of_mem member
  refine ⟨wf.orderly, ?_⟩
  exact {
    once := wf.once
    same := fun id made member other member' =>
      Option.some.inj ((held member).symm.trans (held member'))
    kept := fun id made member => obtain_of_instance? (held member)
    first := fun id made member => madeFirst_of_mem (missing id) member
    apart := fun id other differ made member made' member' same =>
      differ (wf.apart id other made made' (held member) (held member') same)
    isMade := by
      intro id
      rw [isMade, instance?_run, missing, Option.none_or, Option.isSome_iff_ne_none, ne_eq,
        List.head?_eq_none_iff] }

/-- After its kind came to be made in another way, an id gives the same rendering as before, and an
id that nobody asked for yet gives one made in the new way. -/
theorem shares_of_new_sample :
    let loud : Maker := fun d => .hex d.id (d.label ++ "!") d.columnSize
    let actions : List Action := [
      .obtain "hex", .setMaker "hex" loud, .obtain "hex", .declare ⟨"hex", "Twice", "hex", 4⟩,
      .declare ⟨"wide", "Wide", "hex", 8⟩, .obtain "none", .obtain "wide"]
    let start : Catalog := { standard with declarations := standardDeclarations }
    let made := fun id => (start.handedOut id actions).map fun made =>
      (made.serial, made.rendering.label)
    start.New ∧ (start.run actions).Orderly ∧ start.Shares actions ∧
      made "hex" = [(0, "Hex"), (0, "Hex")] ∧ made "wide" = [(1, "Wide!")] ∧ made "none" = [] ∧
      (start.run actions).ids = ["hex", "ascii", "wide"] := by
  intro loud actions start made
  have new : start.New := ⟨standardDeclarations, rfl⟩
  obtain ⟨orderly, shares⟩ := shares_of_new new actions
  exact ⟨new, orderly, shares, by decide +kernel, by decide +kernel, by decide +kernel,
    by decide +kernel⟩

end MemoryPane.Catalog
