import MemoryPane.Proofs.Tab.Run
import MemoryPane.Proofs.Workspace

/-!
When a tab can be opened. In a workspace that was made of usable preferences there are two reasons
why not: the rendering is not declared, or the units of the source do not divide a line
(`create_eq_error_iff`). `Tab.Opens` says this and what becomes of the bus, and holds of every
workspace that can be made, whatever happened to it since (`opens_of_created`).
-/

namespace MemoryPane

/-- Why a layout that can be used does not fit a source. A whole block is shown in whatever units
the layout has, so that only a ranged one can be the reason. -/
inductive Source.Unfit {σ : Type} (layout : Layout) (source : Source σ) : Failure → Prop
  | emptyUnit {block : RangedBlock σ} : source.feed = .ranged block → block.unit = 0 →
      Unfit layout source (.badConfig .emptyUnit)
  | unevenLine {block : RangedBlock σ} : source.feed = .ranged block → 0 < block.unit →
      ¬ block.unit ∣ layout.width →
      Unfit layout source (.badConfig (.unevenLine layout.width block.unit))

theorem Source.not_unfit_of_whole {σ : Type} {layout : Layout} {source : Source σ}
    {block : WholeBlock σ} (whole : source.feed = .whole block) {failure : Failure} :
    ¬ source.Unfit layout failure := by
  rintro (⟨ranged, -⟩ | ⟨ranged, -⟩) <;>
  · rw [whole] at ranged
    contradiction

/-- Where the layout can be used, all that can be wrong with it comes from the source's own unit. -/
theorem Layout.Usable.check_effectiveLayout_eq_error_iff {σ : Type} {layout : Layout}
    (usable : layout.Usable) {source : Source σ} {failure : Failure} :
    (Pane.effectiveLayout source layout).check = .error failure ↔
      source.Unfit layout failure := by
  rw [Layout.check_eq_error_iff, Pane.effectiveLayout, Source.unit?]
  cases feed : source.feed with
  | whole block =>
      refine iff_of_false ?_ (Source.not_unfit_of_whole feed)
      rintro ⟨fault, faulty, -⟩
      exact usable.not_faulty faulty
  | ranged block =>
      constructor
      · rintro ⟨fault, faulty, rfl⟩
        cases faulty with
        | emptyLine empty => exact absurd empty (Nat.ne_of_gt usable.width_pos)
        | emptyUnit wide empty => exact .emptyUnit feed empty
        | unevenLine wide full uneven => exact .unevenLine feed full uneven
        | emptyAlignment wide full even empty =>
            exact absurd empty (Nat.ne_of_gt usable.alignment_pos)
      · rintro (⟨same, empty⟩ | ⟨same, full, uneven⟩) <;>
          obtain rfl := Feed.ranged.inj (feed.symm.trans same)
        · exact ⟨_, .emptyUnit usable.width_pos empty, rfl⟩
        · exact ⟨_, .unevenLine usable.width_pos full uneven, rfl⟩

namespace Tab

variable {σ η : Type} {workspace : Workspace} {source : Source σ} {host : η} {renderingId : String}
  {env : σ}

/-- A rendering that is not declared is asked for in vain, and nothing else is done. -/
theorem create_of_undeclared (wf : workspace.catalog.WellFormed)
    (undeclared : renderingId ∉ workspace.catalog.ids) :
    create workspace source host renderingId env =
      (.error (.unknownRendering renderingId), workspace) := by
  rw [create, wf.obtain_eq_error_iff.mpr ⟨rfl, undeclared⟩]

/-- With a rendering that is declared, a tab cannot be opened only where its pane cannot be
created. -/
theorem create_eq_error_iff (wf : workspace.catalog.WellFormed)
    (declared : renderingId ∈ workspace.catalog.ids) {failure : Failure} :
    (create workspace source host renderingId env).1 = .error failure ↔
      Pane.create source host workspace.layout workspace.viewport = .error failure := by
  have result := opened workspace source host renderingId env
  generalize create workspace source host renderingId env = answer at result ⊢
  cases result with
  | unknown missing => exact absurd declared (wf.obtain_eq_error_iff.mp missing).2
  | unfit found refused => simp [refused]
  | opened found fits => simp [fits]

/-- A tab that cannot be opened does not touch the bus. -/
theorem bus_of_create_eq_error {failure : Failure}
    (failed : (create workspace source host renderingId env).1 = .error failure) :
    (create workspace source host renderingId env).2.bus = workspace.bus := by
  have result := opened workspace source host renderingId env
  generalize create workspace source host renderingId env = answer at result failed ⊢
  cases result with
  | unknown | unfit => rfl
  | opened => contradiction

/-- What comes of opening a tab in the workspace. -/
structure Opens (workspace : Workspace) (source : Source σ) (host : η) (renderingId : String)
    (env : σ) : Prop where
  unknown : ∀ id,
    (create workspace source host renderingId env).1 = .error (.unknownRendering id) ↔
      id = renderingId ∧ renderingId ∉ workspace.catalog.ids
  /-- The layout is the only other reason why a tab cannot be opened. -/
  unfit : renderingId ∈ workspace.catalog.ids →
    ∀ failure, (create workspace source host renderingId env).1 = .error failure ↔
      source.Unfit workspace.layout failure
  whole : renderingId ∈ workspace.catalog.ids → ∀ block, source.feed = .whole block →
    ∃ tab, (create workspace source host renderingId env).1 = .ok tab
  failing : ∀ failure, (create workspace source host renderingId env).1 = .error failure →
    (create workspace source host renderingId env).2.bus = workspace.bus
  /-- A tab that is opened has a subscription of its own, which is registered on an open bus. -/
  succeeding : ∀ tab, (create workspace source host renderingId env).1 = .ok tab →
    tab.subscription = some ⟨workspace.bus.nextNumber⟩ ∧
      (create workspace source host renderingId env).2.bus = workspace.bus.subscribe.2

theorem opens_of_wellFormed (usable : workspace.layout.Usable)
    (wf : workspace.catalog.WellFormed) (source : Source σ) (host : η) (renderingId : String)
    (env : σ) : Opens workspace source host renderingId env := by
  have unfit (declared : renderingId ∈ workspace.catalog.ids) (failure : Failure) :
      (create workspace source host renderingId env).1 = .error failure ↔
        source.Unfit workspace.layout failure := by
    rw [create_eq_error_iff wf declared, Pane.create_eq_error_iff,
      usable.check_effectiveLayout_eq_error_iff]
  exact {
    unknown := by
      intro id
      by_cases declared : renderingId ∈ workspace.catalog.ids
      · rw [unfit declared]
        exact iff_of_false nofun fun missing => missing.2 declared
      · rw [create_of_undeclared wf declared]
        simp [declared, eq_comm]
    unfit
    whole := by
      intro declared block whole
      cases result : (create workspace source host renderingId env).1 with
      | ok tab => exact ⟨tab, rfl⟩
      | error failure =>
          exact absurd ((unfit declared failure).mp result) (Source.not_unfit_of_whole whole)
    failing := fun _ failed => bus_of_create_eq_error failed
    succeeding := fun _ created => subscription_of_create created }

/-- Preferences decide whether there is a workspace, and in every workspace, whatever happened to it
since, a tab can be opened with each rendering that is declared unless the source does not fit. -/
theorem opens_of_created (preferences : Preferences) :
    (∀ workspace, Workspace.create preferences = .ok workspace ↔
      preferences.layout.Usable ∧ Catalog.Declarable preferences.renderings ∧
        { preferences
          catalog := { Catalog.standard with declarations := preferences.renderings } } =
          workspace) ∧
    (∀ failure, Workspace.create preferences = .error failure ↔ preferences.Refused failure) ∧
    ∀ (start : Workspace) (events : List Bus.Action) (uses : List Catalog.Action),
      Workspace.create preferences = .ok start →
      ∀ {σ η : Type} (source : Source σ) (host : η) (renderingId : String) (env : σ),
        Opens (start.after events uses) source host renderingId env := by
  refine ⟨fun _ => Workspace.create_eq_ok_iff, fun _ => Workspace.create_eq_error_iff, ?_⟩
  intro start events uses created σ η source host renderingId env
  obtain ⟨usable, declarable, rfl⟩ := Workspace.create_eq_ok_iff.mp created
  have new : Catalog.New { Catalog.standard with declarations := preferences.renderings } :=
    Catalog.new_iff.mpr ⟨preferences.renderings, declarable, rfl⟩
  let start : Workspace := {
    preferences
    catalog := { Catalog.standard with declarations := preferences.renderings } }
  have fits : (start.after events uses).layout.Usable := usable
  exact opens_of_wellFormed fits ((Catalog.WellFormed.of_new new).run uses) source host renderingId
    env

/-- Lines of 16 bytes fit every whole block, but no ranged one with units of three bytes. A kind
that nobody can make counts before an empty column and an id that is taken. -/
theorem opens_of_created_sample :
    let events : List Bus.Action := [.subscribe, .publish (.suspended ⟨1⟩)]
    let uses : List Catalog.Action := [.obtain "hex", .declare ⟨"wide", "Wide", "hex", 8⟩]
    let used := Sample.workspace.after events uses
    let whole := Image.source ⟨1⟩ ⟨1⟩ (.whole Image.wholeBlock)
    let uneven := Image.source ⟨1⟩ ⟨1⟩ (.ranged (Image.rangedBlock 0 3 false))
    let opening := fun source renderingId =>
      create used source ({} : Recorder) renderingId Pane.Sample.image
    let taken : Preferences := { renderings := [⟨"a", "A", "hex", 4⟩, ⟨"a", "B", "octal", 0⟩] }
    (∃ tab, (opening whole "wide").1 = .ok tab ∧ tab.subscription = some ⟨1⟩ ∧
      (opening whole "wide").2.bus.registered = [⟨0⟩, ⟨1⟩]) ∧
      (opening uneven "wide").1 = .error (.badConfig (.unevenLine 16 3)) ∧
      (opening uneven "narrow").1 = .error (.unknownRendering "narrow") ∧
      Workspace.create taken = .error (.unknownKind "octal") := by
  intro events uses used whole uneven opening taken
  have opens (source : Source Image) (renderingId : String) :
      Opens used source ({} : Recorder) renderingId Pane.Sample.image :=
    (opens_of_created {}).2.2 Sample.workspace events uses rfl source ({} : Recorder) renderingId
      Pane.Sample.image
  have declared : "wide" ∈ used.catalog.ids := by decide +kernel
  have absent : "narrow" ∉ used.catalog.ids := by decide +kernel
  obtain ⟨tab, created⟩ := (opens whole "wide").whole declared Image.wholeBlock rfl
  obtain ⟨subscribed, bus⟩ := (opens whole "wide").succeeding tab created
  refine ⟨⟨tab, created, subscribed, bus ▸ rfl⟩, ?uneven, ?narrow, ?taken⟩
  case uneven =>
    have ranged : uneven.feed = .ranged (Image.rangedBlock 0 3 false) := rfl
    have apart : ¬ 3 ∣ used.layout.width := by decide
    exact ((opens uneven "wide").unfit declared _).mpr (.unevenLine ranged (by decide) apart)
  case narrow => exact ((opens uneven "narrow").unknown _).mpr ⟨rfl, absent⟩
  case taken =>
    have usable : taken.layout.Usable := ⟨by decide, by decide, by decide, by decide⟩
    have split : taken.renderings = [⟨"a", "A", "hex", 4⟩] ++ ⟨"a", "B", "octal", 0⟩ :: [] := rfl
    have declarable : Catalog.Declarable [⟨"a", "A", "hex", 4⟩] := ⟨by simp, by simp, by simp⟩
    exact ((opens_of_created taken).2.1 _).mpr
      (.rendering usable split declarable (.unknownKind (by simp)))

end Tab

end MemoryPane
