import MemoryPane.Proofs.Pane.Refresh

/-!
Events and what they leave of a pane, up to its host. Two panes match if they differ at most in
their hosts, and these are seen alike (`Pane.Matches`). Matching panes refresh alike and load alike,
refreshing a second time changes nothing more (`refresh_refresh`), and an event that asks for no
refresh and does not end the block leaves a matching pane (`exists_handle_eq`).
-/

namespace MemoryPane.Pane

variable {σ η : Type} {pane other : Pane σ η}

/-! ## What an event is to a pane -/

/-- The event says that the content that the pane shows may have changed. -/
def asksRefresh (pane : Pane σ η) : Event → Bool
  | .contentChanged block => block = pane.source.block
  | .suspended target => target = pane.source.target
  | _ => false

/-- The event names the block or the target of the pane. -/
def concerns (pane : Pane σ η) (event : Event) : Bool :=
  event.block? == some pane.source.block || event == .suspended pane.source.target

/-- What asks for a refresh depends on the source alone. -/
theorem asksRefresh_eq (source : other.source = pane.source) :
    other.asksRefresh = pane.asksRefresh := by
  funext event
  unfold asksRefresh
  rw [source]

theorem concerns_eq (source : other.source = pane.source) : other.concerns = pane.concerns := by
  funext event
  rw [concerns, concerns, source]

variable [Host η]

/-! ## Panes that match -/

/-- The two panes differ at most in their hosts, and these are seen alike. -/
structure Matches (pane other : Pane σ η) : Prop where
  eq : other = { pane with host := other.host }
  isVisible : Host.isVisible other.host = Host.isVisible pane.host
  showsFailure : Host.showsFailure other.host = Host.showsFailure pane.host

namespace Matches

theorem source_eq (alike : pane.Matches other) : other.source = pane.source := by rw [alike.eq]

theorem refl (pane : Pane σ η) : pane.Matches pane := ⟨rfl, rfl, rfl⟩

theorem symm (alike : pane.Matches other) : other.Matches pane where
  eq := by rw [alike.eq]
  isVisible := alike.isVisible.symm
  showsFailure := alike.showsFailure.symm

theorem trans {last : Pane σ η} (first : pane.Matches other) (second : other.Matches last) :
    pane.Matches last where
  eq := by rw [second.eq, first.eq]
  isVisible := second.isVisible.trans first.isVisible
  showsFailure := second.showsFailure.trans first.showsFailure

end Matches

/-! ## Refreshing -/

/-- Of its host a refresh asks only how it is seen, and tells it of new content if it is done. -/
theorem refresh_with_host {host : η} (visible : Host.isVisible host = Host.isVisible pane.host)
    (failing : Host.showsFailure host = Host.showsFailure pane.host) (env : σ) :
    { pane with host }.refresh env =
      ((pane.refresh env).1,
        { (pane.refresh env).2 with
          host := if (pane.refresh env).1 then Host.noticeContent host else host }) := by
  unfold refresh
  dsimp only
  rw [visible, failing]
  split
  · rfl
  · split <;> rfl

/-- Matching panes refresh alike. -/
theorem Matches.refresh (quiet : Host.Quiet η) (alike : pane.Matches other) (env : σ) :
    (other.refresh env).1 = (pane.refresh env).1 ∧
      (pane.refresh env).2.Matches (other.refresh env).2 := by
  obtain ⟨eq, visible, failing⟩ := alike
  obtain ⟨seen, shown⟩ := host_refresh_of_quiet quiet pane env
  obtain ⟨seen', shown'⟩ := host_refresh_of_quiet quiet other env
  have again := refresh_with_host visible failing env
  rw [← eq] at again
  refine ⟨?_, ?_, ?_, ?_⟩
  · rw [again]
  · rw [again]
  · rw [seen', seen, visible]
  · rw [shown', shown, failing]

/-- Refreshing a second time changes nothing but the host. -/
theorem refresh_refresh (quiet : Host.Quiet η) (pane : Pane σ η) (env : σ) :
    ((pane.refresh env).2.refresh env).1 = (pane.refresh env).1 ∧
      (pane.refresh env).2.Matches ((pane.refresh env).2.refresh env).2 := by
  obtain ⟨seen, shown⟩ := host_refresh_of_quiet quiet pane env
  rw [refresh_again seen shown]
  refine ⟨rfl, ?_⟩
  dsimp only
  split
  · exact ⟨rfl, quiet.isVisible_noticeContent _, quiet.showsFailure_noticeContent _⟩
  · exact .refl _

/-! ## Handling an event -/

section Handle

variable {event : Event}

theorem handle_of_asksRefresh (asks : pane.asksRefresh event = true) (env : σ) :
    pane.handle event env = pane.respondRefresh env := by
  cases event with
  | contentChanged block | suspended target => exact if_pos (by simpa [asksRefresh] using asks)
  | stateChanged | disposed => contradiction

/-- An event that asks for no refresh and does not end the block tells the host at most. -/
theorem exists_handle_eq (quiet : Host.Quiet η) (rests : pane.asksRefresh event = false)
    (stays : event ≠ .disposed pane.source.block) (env : σ) :
    ∃ response next, pane.handle event env = (response, next) ∧ pane.Matches next ∧
      response ≠ .refreshed ∧ response ≠ .disposed := by
  have ignored : pane.handle event env = (.ignored, pane) →
      ∃ response next, pane.handle event env = (response, next) ∧ pane.Matches next ∧
        response ≠ .refreshed ∧ response ≠ .disposed :=
    fun eq => ⟨.ignored, pane, eq, .refl pane, by decide, by decide⟩
  cases event with
  | contentChanged block | suspended target =>
      exact ignored (if_neg (by simpa [asksRefresh] using rests))
  | stateChanged block =>
      by_cases own : block = pane.source.block
      · exact ⟨.relabelled, { pane with host := Host.noticeNames pane.host }, if_pos own,
          ⟨rfl, quiet.isVisible_noticeNames _, quiet.showsFailure_noticeNames _⟩, by decide,
          by decide⟩
      · exact ignored (if_neg own)
  | disposed block => exact ignored (if_neg fun own => stays (congrArg Event.disposed own))

theorem handle_disposed (pane : Pane σ η) (env : σ) :
    pane.handle (.disposed pane.source.block) env = (.disposed, pane.dispose) :=
  if_pos rfl

/-- A response says whether the event was about the pane. -/
theorem isRelevant_handle (pane : Pane σ η) (event : Event) (env : σ) :
    (pane.handle event env).1.isRelevant = pane.concerns event := by
  have respond : (pane.respondRefresh env).1.isRelevant = true := by
    show (if (pane.refresh env).1 then Response.refreshed else .skipped).isRelevant = true
    split <;> rfl
  have ignored : Response.ignored.isRelevant = false := rfl
  cases event with
  | contentChanged block =>
      by_cases own : block = pane.source.block <;>
        simp [handle, own, concerns, Event.block?, respond, ignored]
  | suspended target =>
      by_cases own : target = pane.source.target <;>
        simp [handle, own, concerns, Event.block?, respond, ignored]
  | stateChanged block | disposed block =>
      by_cases own : block = pane.source.block <;>
        simp [handle, own, concerns, Event.block?, Response.isRelevant]

/-- An event about something else is ignored. -/
theorem handle_of_not_concerns (apart : pane.concerns event = false) (env : σ) :
    pane.handle event env = (.ignored, pane) := by
  cases event with
  | contentChanged block | stateChanged block | disposed block | suspended block =>
      exact if_neg fun own => by simp [concerns, own, Event.block?] at apart

/-- An event ends the pane if it is the end of the block that the pane shows. -/
theorem fst_handle_eq_disposed_iff {env : σ} :
    (pane.handle event env).1 = .disposed ↔ event = .disposed pane.source.block := by
  have respond : (pane.respondRefresh env).1 ≠ .disposed := by
    show (if (pane.refresh env).1 then Response.refreshed else .skipped) ≠ .disposed
    split <;> decide
  cases event with
  | contentChanged block =>
      by_cases own : block = pane.source.block <;> simp [handle, own, respond]
  | suspended target =>
      by_cases own : target = pane.source.target <;> simp [handle, own, respond]
  | stateChanged block | disposed block =>
      by_cases own : block = pane.source.block <;> simp [handle, own]

theorem source_handle (pane : Pane σ η) (event : Event) (env : σ) :
    (pane.handle event env).2.source = pane.source := by
  have respond : (pane.respondRefresh env).2.source = pane.source := (pane.refresh_frame env).1
  cases event with
  | contentChanged block | suspended target =>
      simp only [handle]
      split
      · exact respond
      · rfl
  | stateChanged block | disposed block =>
      simp only [handle]
      split <;> rfl

end Handle

/-! ## Loading -/

theorem Matches.highlight (alike : pane.Matches other) : other.highlight = pane.highlight := by
  have failing := alike.showsFailure
  funext afresh line
  rw [alike.eq]
  unfold Pane.highlight
  dsimp only
  rw [failing]

/-- Matching panes load alike. -/
theorem Matches.loadAt (alike : pane.Matches other) (start : Address) (lines : Nat) (afresh : Bool)
    (env : σ) :
    ∃ host, other.loadAt start lines afresh env =
      ((pane.loadAt start lines afresh env).1,
        { (pane.loadAt start lines afresh env).2.1 with host },
        (pane.loadAt start lines afresh env).2.2) := by
  have marks := alike.highlight
  obtain ⟨eq, -, -⟩ := alike
  generalize other.host = host at eq
  subst eq
  have rebuilt (top : Address) (cells : List Cell) :
      { pane with host }.rebuild top cells afresh =
        { pane.rebuild top cells afresh with host } := by
    rw [rebuild, marks]
    rfl
  have received (top : Address) (extent : Layout.Extent) (reply : Reply (List Cell)) :
      ∃ host', { pane with host }.receive top extent afresh reply =
        ((pane.receive top extent afresh reply).1,
          { (pane.receive top extent afresh reply).2 with host := host' }) := by
    unfold receive
    rw [rebuilt]
    cases reply with
    | content => exact ⟨_, rfl⟩
    | nothing => exact ⟨_, rfl⟩
    | failed => exact ⟨_, rfl⟩
  rcases Classical.em (pane.Accepts lines env) with accepts | refuses
  · have accepts' : { pane with host }.Accepts lines env := accepts
    rw [loadAt_of_accepts accepts, loadAt_of_accepts accepts']
    dsimp only
    obtain ⟨host', eq⟩ := received (start.alignDown pane.layout.alignment)
      ⟨pane.layout.width * lines, pane.layout.lineUnits * lines⟩ _
    exact ⟨host', by rw [eq]⟩
  · have refuses' : ¬ { pane with host }.Accepts lines env := refuses
    rw [loadAt_of_not_accepts refuses, loadAt_of_not_accepts refuses']
    exact ⟨host, rfl⟩

/-- The two panes hold the same lines and compare with the same, and want to see the same. -/
structure HoldsLike (pane other : Pane σ η) : Prop where
  window : pane.window = other.window
  snapshot : pane.snapshot = other.snapshot
  top : pane.top = other.top
  tally : pane.tally = other.tally
  viewport : pane.viewport = other.viewport

theorem Matches.holdsLike (alike : pane.Matches other) : other.HoldsLike pane := by
  rw [alike.eq]
  exact ⟨rfl, rfl, rfl, rfl, rfl⟩

theorem Matches.loadView (alike : pane.Matches other) (env : σ) :
    (other.loadView env).1 = (pane.loadView env).1 ∧
      (other.loadView env).2.1.HoldsLike (pane.loadView env).2.1 ∧
      (other.loadView env).2.2 = (pane.loadView env).2.2 := by
  have plan : other.plan env = pane.plan env := by
    rw [alike.eq]
    rfl
  have viewport : other.viewport = pane.viewport := by rw [alike.eq]
  rcases alike.loadAt (pane.plan env).start (pane.plan env).lines pane.viewport.afresh env with
    ⟨host, eq⟩
  rw [loadView_eq, loadView_eq, plan, viewport]
  dsimp only
  rw [eq]
  exact ⟨rfl, ⟨rfl, rfl, rfl, rfl, rfl⟩, rfl⟩

end MemoryPane.Pane
