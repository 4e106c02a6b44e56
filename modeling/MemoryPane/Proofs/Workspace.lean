import MemoryPane.Proofs.Bus.Run
import MemoryPane.Proofs.Rendering.Sharing
import MemoryPane.Workspace

/-!
What a workspace can be made of. A layout can be used or has a fault, of several the first
(`Layout.check_eq_error_iff`). Preferences are refused for the fault of their layout, or else for
the first rendering in them that cannot be declared (`Workspace.create_eq_error_iff`); otherwise the
workspace has an empty bus and a catalog that lists their renderings in order
(`Workspace.create_eq_ok_iff`). `Workspace.after` is such a workspace after it was used for a while.
-/

namespace MemoryPane

namespace Layout

variable {layout : Layout} {fault : Fault}

/-- What is the first thing wrong with a layout. -/
inductive Faulty (layout : Layout) : Fault → Prop
  | emptyLine : layout.width = 0 → Faulty layout .emptyLine
  | emptyUnit : 0 < layout.width → layout.unit = 0 → Faulty layout .emptyUnit
  | unevenLine : 0 < layout.width → 0 < layout.unit → ¬ layout.unit ∣ layout.width →
      Faulty layout (.unevenLine layout.width layout.unit)
  | emptyAlignment : 0 < layout.width → 0 < layout.unit → layout.unit ∣ layout.width →
      layout.alignment = 0 → Faulty layout .emptyAlignment

theorem Usable.not_faulty (usable : layout.Usable) : ¬ layout.Faulty fault := by
  rintro (empty | ⟨-, empty⟩ | ⟨-, -, uneven⟩ | ⟨-, -, -, empty⟩)
  · exact Nat.ne_of_gt usable.width_pos empty
  · exact Nat.ne_of_gt usable.unit_pos empty
  · exact uneven usable.unit_dvd_width
  · exact Nat.ne_of_gt usable.alignment_pos empty

theorem check_of_faulty (faulty : layout.Faulty fault) :
    layout.check = .error (.badConfig fault) := by
  unfold check
  cases faulty with
  | emptyLine empty => rw [if_pos empty]
  | emptyUnit wide empty => rw [if_neg (Nat.ne_of_gt wide), if_pos empty]
  | unevenLine wide full uneven =>
      rw [if_neg (Nat.ne_of_gt wide), if_neg (Nat.ne_of_gt full),
        if_pos fun even => uneven (Nat.dvd_of_mod_eq_zero even)]
  | emptyAlignment wide full even empty =>
      rw [if_neg (Nat.ne_of_gt wide), if_neg (Nat.ne_of_gt full),
        if_neg (not_not_intro (Nat.mod_eq_zero_of_dvd even)), if_pos empty]

/-- A layout that cannot be used has a fault. -/
theorem exists_faulty (layout : Layout) : layout.Usable ∨ ∃ fault, layout.Faulty fault := by
  rcases Nat.eq_zero_or_pos layout.width with empty | wide
  · exact .inr ⟨_, .emptyLine empty⟩
  rcases Nat.eq_zero_or_pos layout.unit with empty | full
  · exact .inr ⟨_, .emptyUnit wide empty⟩
  by_cases even : layout.unit ∣ layout.width
  · rcases Nat.eq_zero_or_pos layout.alignment with empty | aligned
    · exact .inr ⟨_, .emptyAlignment wide full even empty⟩
    · exact .inl ⟨wide, full, even, aligned⟩
  · exact .inr ⟨_, .unevenLine wide full even⟩

theorem check_eq_error_iff {failure : Failure} :
    layout.check = .error failure ↔ ∃ fault, layout.Faulty fault ∧ .badConfig fault = failure := by
  constructor
  · intro failed
    rcases layout.exists_faulty with usable | ⟨fault, faulty⟩
    · rw [check_eq_ok_iff.mpr usable] at failed
      contradiction
    · rw [check_of_faulty faulty] at failed
      exact ⟨fault, faulty, Except.error.inj failed⟩
  · rintro ⟨fault, faulty, rfl⟩
    exact check_of_faulty faulty

end Layout

/-- Why preferences are refused. The layout counts before the renderings, and of these the first
that cannot be declared. -/
inductive Preferences.Refused (preferences : Preferences) : Failure → Prop
  | layout {fault : Fault} : preferences.layout.Faulty fault →
      Refused preferences (.badConfig fault)
  | rendering {before after : List Declaration} {d : Declaration} {failure : Failure} :
      preferences.layout.Usable → preferences.renderings = before ++ d :: after →
      Catalog.Declarable before →
      d.Refused ["hex", "ascii"] (before.map Declaration.id) failure → Refused preferences failure

namespace Workspace

variable {preferences : Preferences} {workspace : Workspace} {failure : Failure}

theorem create_of_faulty {fault : Fault} (faulty : preferences.layout.Faulty fault) :
    create preferences = .error (.badConfig fault) := by
  rw [create, Layout.check_of_faulty faulty]
  rfl

theorem create_of_usable (usable : preferences.layout.Usable) :
    create preferences =
      (Catalog.ofDeclarations preferences.renderings).map fun catalog =>
        { preferences, catalog } := by
  rw [create, Layout.check_eq_ok_iff.mpr usable]
  cases Catalog.ofDeclarations preferences.renderings <;> rfl

/-- A workspace is made exactly of preferences whose layout can be used and whose renderings can be
declared. -/
theorem create_eq_ok_iff :
    create preferences = .ok workspace ↔
      preferences.layout.Usable ∧ Catalog.Declarable preferences.renderings ∧
        { preferences
          catalog := { Catalog.standard with declarations := preferences.renderings } } =
          workspace := by
  rcases preferences.layout.exists_faulty with usable | ⟨fault, faulty⟩
  · rw [create_of_usable usable, and_iff_right usable]
    cases made : Catalog.ofDeclarations preferences.renderings with
    | error failure =>
        refine iff_of_false (by simp [Except.map]) fun declarable => ?_
        rw [Catalog.ofDeclarations_eq_ok_iff.mpr ⟨declarable.1, rfl⟩] at made
        contradiction
    | ok catalog =>
        obtain ⟨declarable, rfl⟩ := Catalog.ofDeclarations_eq_ok_iff.mp made
        simp [Except.map, declarable]
  · rw [create_of_faulty faulty]
    exact iff_of_false (by simp) fun all => all.1.not_faulty faulty

theorem create_eq_error_iff :
    create preferences = .error failure ↔ preferences.Refused failure := by
  constructor
  · intro failed
    rcases preferences.layout.exists_faulty with usable | ⟨fault, faulty⟩
    · rw [create_of_usable usable] at failed
      cases made : Catalog.ofDeclarations preferences.renderings with
      | ok => simp [made, Except.map] at failed
      | error first =>
          obtain rfl : first = failure := by simpa [made, Except.map] using failed
          obtain ⟨before, d, after, eq, declarable, refused⟩ :=
            Catalog.ofDeclarations_eq_error_iff.mp made
          exact .rendering usable eq declarable refused
    · rw [create_of_faulty faulty] at failed
      exact Except.error.inj failed ▸ .layout faulty
  · rintro (faulty | ⟨usable, eq, declarable, refused⟩)
    · exact create_of_faulty faulty
    · rw [create_of_usable usable,
        Catalog.ofDeclarations_eq_error_iff.mpr ⟨_, _, _, eq, declarable, refused⟩]
      rfl

/-- The workspace after events passed over its bus and its catalog was used. -/
def after (workspace : Workspace) (events : List Bus.Action) (uses : List Catalog.Action) :
    Workspace :=
  { workspace with bus := workspace.bus.run events, catalog := workspace.catalog.run uses }

end Workspace

end MemoryPane
