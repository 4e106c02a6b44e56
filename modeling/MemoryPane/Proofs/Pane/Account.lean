import MemoryPane.Proofs.Pane.Handle

/-!
What the host is told in the course of a run. A load that builds a window is announced as the table
or as a failure (`host_loadAt`), and a refresh or an event is announced as its answer says
(`host_refresh`, `host_handle`); nothing else reaches the host. A `Recorder` that nobody else
changes thus keeps account of all that a run came to: the results of its loads and the responses to
its refreshes and events (`Recorder.Accounts`, `accounts_of_undisturbed`).

In particular a host shows a failure exactly as long as the last window was built without an answer
of the source, and in that time the pane compares with nothing (`distrusts_of_showsFailure`).
-/

namespace MemoryPane

namespace LoadResult

/-- The failure that the placeholders of the window stand for. -/
def substituted? : LoadResult → Option Failure
  | substituted failure => some failure
  | _ => none

/-- How the last load ended that built a window. -/
def lastBuilt? (results : List LoadResult) : Option LoadResult :=
  (results.filter buildsWindow).getLast?

theorem lastBuilt?_concat (results : List LoadResult) (result : LoadResult) :
    lastBuilt? (results ++ [result]) =
      if result.buildsWindow then some result else lastBuilt? results := by
  rw [lastBuilt?, List.filter_append]
  cases built : result.buildsWindow with
  | true =>
      rw [List.filter_cons_of_pos built, List.filter_nil, List.getLast?_concat, if_pos rfl]
  | false =>
      rw [List.filter_cons_of_neg (by rw [built]; exact Bool.false_ne_true), List.filter_nil,
        List.append_nil, if_neg Bool.false_ne_true, lastBuilt?]

end LoadResult

namespace Pane

/-! ## What a host is told -/

section Announcements

variable {σ η : Type} [Host η]

/-- The host once it knows how a load ended. -/
def announceResult (host : η) : LoadResult → η
  | .loaded => Host.showTable host
  | .substituted failure => Host.showFailure failure host
  | .targetGone | .disposed | .refused _ => host

/-- The host once it knows how a refresh or an event was answered. -/
def announceResponse (host : η) : Response → η
  | .refreshed => Host.noticeContent host
  | .relabelled => Host.noticeNames host
  | .ignored | .skipped | .disposed => host

theorem host_receive (pane : Pane σ η) (top : Address) (extent : Layout.Extent) (afresh : Bool)
    (reply : Reply (List Cell)) :
    (pane.receive top extent afresh reply).2.host =
      announceResult pane.host (pane.receive top extent afresh reply).1 := by
  cases reply <;> rfl

theorem host_loadAt (pane : Pane σ η) (start : Address) (lines : Nat) (afresh : Bool) (env : σ) :
    (pane.loadAt start lines afresh env).2.1.host =
      announceResult pane.host (pane.loadAt start lines afresh env).1 := by
  rcases Classical.em (pane.Accepts lines env) with accepts | refuses
  · rw [loadAt_of_accepts accepts]
    exact pane.host_receive _ _ afresh _
  · rw [loadAt_of_not_accepts refuses, refusal]
    split
    · rfl
    · split <;> rfl

theorem host_loadView (pane : Pane σ η) (env : σ) :
    (pane.loadView env).2.1.host = announceResult pane.host (pane.loadView env).1 := by
  rw [loadView_eq]
  exact pane.host_loadAt _ _ _ env

theorem host_refresh (pane : Pane σ η) (env : σ) :
    (pane.refresh env).2.host = announceResponse pane.host (pane.respondRefresh env).1 := by
  unfold respondRefresh refresh
  split
  · rfl
  · split <;> rfl

theorem host_handle (pane : Pane σ η) (event : Event) (env : σ) :
    (pane.handle event env).2.host = announceResponse pane.host (pane.handle event env).1 := by
  cases event with
  | contentChanged block | suspended target =>
      simp only [handle]
      split
      · exact pane.host_refresh env
      · rfl
  | stateChanged block | disposed block =>
      simp only [handle]
      split <;> rfl

/-- How a refresh or an event is answered. A refresh that nobody asked for is answered like one that
an event asks for. -/
def response? (pane : Pane σ η) : Action σ η → Option Response
  | .refresh env => some (pane.respondRefresh env).1
  | .handle event env => some (pane.handle event env).1
  | _ => none

/-- How the loads of a run end, in order. -/
def results (pane : Pane σ η) : List (Action σ η) → List LoadResult
  | [] => []
  | action :: actions => (pane.outcome? action).toList ++ (pane.act action).results actions

/-- How the refreshes and the events of a run are answered, in order. -/
def responses (pane : Pane σ η) : List (Action σ η) → List Response
  | [] => []
  | action :: actions => (pane.response? action).toList ++ (pane.act action).responses actions

end Announcements

/-! ## While the host shows a failure -/

section Failing

variable {σ η : Type} [Host η] {pane : Pane σ η}

/-- The pane knows of nothing to compare with. What it loads next it shows without change states, if
the source does not mark them, and a refresh takes no snapshot. -/
structure Distrusts (pane : Pane σ η) : Prop where
  loads : pane.source.marksChanges = false → ∀ load result, pane.outcome? load = some result →
    result.buildsWindow = true → ∀ line ∈ (pane.act load).window,
      line.reliable = false ∧ ∀ cell ∈ line.cells, cell.isKnown = false ∧ cell.isChanged = false
  refreshes : ∀ env, (pane.source.status env).isGone = false → (pane.refresh env).2.snapshot = ∅
  handles : ∀ event env, pane.asksRefresh event = true →
    (pane.source.status env).isGone = false → (pane.handle event env).2.snapshot = ∅

theorem snapshot_refresh_of_showsFailure (wf : pane.WellFormed)
    (failing : Host.showsFailure pane.host = true) {env : σ}
    (present : (pane.source.status env).isGone = false) : (pane.refresh env).2.snapshot = ∅ := by
  cases ended : pane.disposed with
  | true =>
      rw [refresh_of_halted (by rw [ended, Bool.true_or])]
      exact (wf.ended ended).2.1
  | false =>
      have running : (pane.disposed || (pane.source.status env).isGone) = false := by
        rw [ended, present, Bool.false_or]
      cases visible : Host.isVisible pane.host with
      | true => rw [refresh_of_failing running visible failing]
      | false =>
          rw [refresh_of_hidden running visible]
          rfl

theorem distrusts_of_showsFailure (wf : pane.WellFormed)
    (failing : Host.showsFailure pane.host = true) : pane.Distrusts where
  loads := by
    intro unmarked load result ends built line member
    obtain ⟨start, lines, afresh, env, viewport, -, rfl, eq⟩ := exists_loadAt_of_outcome? ends
    rw [eq] at member
    obtain ⟨fresh, -, bare, rfl⟩ :=
      exists_fresh_of_mem_window wf.usable (buildsWindow_loadAt_iff.mp built) member
    rw [highlight_of_showsFailure unmarked failing]
    refine ⟨bare, fun cell inside => ?_⟩
    rw [Line.forget, Line.cells_mapCells, List.mem_map] at inside
    obtain ⟨former, -, rfl⟩ := inside
    have unknown := former.isKnown_forget
    exact ⟨unknown, Bool.eq_false_iff.mpr fun changed =>
      Bool.eq_false_iff.mp unknown (Cell.isKnown_of_isChanged changed)⟩
  refreshes := fun _ present => snapshot_refresh_of_showsFailure wf failing present
  handles := by
    intro event env asks present
    rw [handle_of_asksRefresh asks]
    exact snapshot_refresh_of_showsFailure wf failing present

end Failing

end Pane

/-! ## Keeping account -/

/-- The recorder keeps account of loads that ended in this way, and of refreshes and events that
were answered in this way. -/
structure Recorder.Accounts (host : Recorder) (results : List LoadResult)
    (responses : List Response) : Prop where
  failures : host.failures = (results.filterMap LoadResult.substituted?).map Failure.message
  tables : host.tables = results.count .loaded
  contentNotices : host.contentNotices = responses.count .refreshed
  nameNotices : host.nameNotices = responses.count .relabelled
  /-- The last window built is one of placeholders. -/
  failing : host.failing = true ↔
    ∃ failure, LoadResult.lastBuilt? results = some (.substituted failure)

namespace Recorder.Accounts

variable {host : Recorder} {results : List LoadResult} {responses : List Response}

theorem empty : Accounts {} [] [] := ⟨rfl, rfl, rfl, rfl, by simp [LoadResult.lastBuilt?]⟩

theorem seen (accounts : host.Accounts results responses) (visible : Bool) :
    { host with visible }.Accounts results responses :=
  { accounts with }

theorem result (accounts : host.Accounts results responses) (result : LoadResult) :
    (Pane.announceResult host result).Accounts (results ++ [result]) responses where
  failures := by
    rw [List.filterMap_append, List.map_append, ← accounts.failures]
    cases result with
    | substituted failure => rfl
    | loaded | targetGone | disposed | refused => exact (List.append_nil _).symm
  tables := by
    rw [List.count_append, ← accounts.tables]
    cases result <;> rfl
  contentNotices := by
    rw [← accounts.contentNotices]
    cases result <;> rfl
  nameNotices := by
    rw [← accounts.nameNotices]
    cases result <;> rfl
  failing := by
    rw [LoadResult.lastBuilt?_concat]
    cases result with
    | loaded => exact iff_of_false Bool.false_ne_true (by simp [LoadResult.buildsWindow])
    | substituted failure => exact iff_of_true rfl ⟨failure, rfl⟩
    | targetGone | disposed | refused => exact accounts.failing

theorem response (accounts : host.Accounts results responses) (response : Response) :
    (Pane.announceResponse host response).Accounts results (responses ++ [response]) where
  failures := by
    rw [← accounts.failures]
    cases response <;> rfl
  tables := by
    rw [← accounts.tables]
    cases response <;> rfl
  contentNotices := by
    rw [List.count_append, ← accounts.contentNotices]
    cases response <;> rfl
  nameNotices := by
    rw [List.count_append, ← accounts.nameNotices]
    cases response <;> rfl
  failing := by
    rw [← accounts.failing]
    cases response <;> rfl

end Recorder.Accounts

namespace Pane

variable {σ : Type}

/-- The action is not one by which somebody else changes what the recorder keeps account of. -/
def SparesAccount (pane : Pane σ Recorder) : Action σ Recorder → Prop
  | .setHost host => ∃ visible, host = { pane.host with visible }
  | _ => True

/-- In the course of a run, nobody else changes what the recorder keeps account of. -/
def Undisturbed (pane : Pane σ Recorder) : List (Action σ Recorder) → Prop
  | [] => True
  | action :: actions => pane.SparesAccount action ∧ (pane.act action).Undisturbed actions

theorem accounts_act {pane : Pane σ Recorder} {results : List LoadResult}
    {responses : List Response} (accounts : pane.host.Accounts results responses)
    {action : Action σ Recorder} (spares : pane.SparesAccount action) :
    (pane.act action).host.Accounts (results ++ (pane.outcome? action).toList)
      (responses ++ (pane.response? action).toList) := by
  have idle : pane.host.Accounts (results ++ []) (responses ++ []) := by
    rwa [List.append_nil, List.append_nil]
  cases action with
  | loadAt start lines afresh env =>
      show Recorder.Accounts _ (results ++ [_]) (responses ++ [])
      rw [List.append_nil, act, host_loadAt]
      exact accounts.result _
  | loadView env =>
      show Recorder.Accounts _ (results ++ [_]) (responses ++ [])
      rw [List.append_nil, act, host_loadView]
      exact accounts.result _
  | refresh env =>
      show Recorder.Accounts _ (results ++ []) (responses ++ [_])
      rw [List.append_nil, act, host_refresh]
      exact accounts.response _
  | handle event env =>
      show Recorder.Accounts _ (results ++ []) (responses ++ [_])
      rw [List.append_nil, act, host_handle]
      exact accounts.response _
  | setHost host =>
      obtain ⟨visible, rfl⟩ := spares
      exact idle.seen visible
  | settle | clearSnapshot | dispose | setViewport => exact idle

theorem accounts_run {pane : Pane σ Recorder} {results : List LoadResult}
    {responses : List Response} (accounts : pane.host.Accounts results responses)
    {actions : List (Action σ Recorder)} (undisturbed : pane.Undisturbed actions) :
    (pane.run actions).host.Accounts (results ++ pane.results actions)
      (responses ++ pane.responses actions) := by
  induction actions generalizing pane results responses with
  | nil =>
      rw [Pane.results, Pane.responses, List.append_nil, List.append_nil]
      exact accounts
  | cons action actions ih =>
      rw [Pane.results, Pane.responses, ← List.append_assoc, ← List.append_assoc]
      exact ih (accounts_act accounts undisturbed.1) undisturbed.2

/-- A new recorder keeps account of whatever happens to its pane. As long as the last window that
was built is one of placeholders, the pane compares with nothing. -/
theorem accounts_of_undisturbed {source : Source σ} {layout : Layout} {viewport : Viewport}
    {start : Pane σ Recorder} (created : create source {} layout viewport = .ok start)
    {actions : List (Action σ Recorder)} (undisturbed : start.Undisturbed actions) :
    (start.run actions).host.Accounts (start.results actions) (start.responses actions) ∧
      ∀ failure,
        LoadResult.lastBuilt? (start.results actions) = some (.substituted failure) →
        (start.run actions).Distrusts := by
  have fresh : start.host.Accounts [] [] := by
    obtain ⟨-, rfl⟩ := create_eq_ok_iff.mp created
    exact .empty
  have accounts := accounts_run fresh undisturbed
  rw [List.nil_append, List.nil_append] at accounts
  exact ⟨accounts, fun failure last => distrusts_of_showsFailure
    ((WellFormed.create created).run actions) (accounts.failing.mpr ⟨failure, last⟩)⟩

/-- The source fails after a snapshot was taken, and the host cannot be seen while the target stops.
The next load shows a byte that was written in the meantime, but not as changed. -/
theorem accounts_of_undisturbed_sample :
    let failing : Recorder := {
      failing := true
      failures := ["unable to retrieve content: the byte source returned nothing"]
      tables := 1
      contentNotices := 1 }
    let actions : List (Action Image Recorder) := [
      .loadAt ⟨0x1000⟩ 2 false Sample.image, .refresh Sample.image,
      .loadAt ⟨0x1000⟩ 2 true { Sample.image with outage := some .silent },
      .setHost { failing with visible := false }, .handle (.suspended ⟨1⟩) Sample.image,
      .setHost failing, .handle (.stateChanged ⟨1⟩) Sample.image, .refresh Sample.written]
    let load : Action Image Recorder := .loadAt ⟨0x1000⟩ 2 true Sample.written
    let pane := Sample.pane.run actions
    create Sample.source {} {} {} = .ok Sample.pane ∧
      Sample.pane.Undisturbed actions ∧
      Sample.pane.results actions = [.loaded, .substituted .noContent] ∧
      Sample.pane.responses actions = [.refreshed, .skipped, .relabelled, .refreshed] ∧
      pane.host.Accounts (Sample.pane.results actions) (Sample.pane.responses actions) ∧
      pane.outcome? load = some .loaded ∧
      ∀ line ∈ (pane.act load).window, line.reliable = false ∧
        ∀ cell ∈ line.cells, cell.isKnown = false ∧ cell.isChanged = false := by
  intro failing actions load pane
  have created : create Sample.source {} {} {} = .ok Sample.pane := rfl
  have undisturbed : Sample.pane.Undisturbed actions := by
    refine ⟨trivial, trivial, trivial, ⟨false, ?hidden⟩, trivial, ⟨true, ?shown⟩, trivial, trivial,
      trivial⟩
    case hidden | shown => decide +kernel
  have results : Sample.pane.results actions = [.loaded, .substituted .noContent] := by
    decide +kernel
  have loaded : pane.outcome? load = some .loaded := by decide +kernel
  obtain ⟨accounts, distrusts⟩ := accounts_of_undisturbed created undisturbed
  refine ⟨created, undisturbed, results, by decide +kernel, accounts, loaded, ?_⟩
  have unmarked : pane.source.marksChanges = false := by
    rw [(Sample.pane.frame_run actions).1]
    rfl
  exact (distrusts .noContent (by rw [results]; rfl)).loads unmarked load .loaded loaded rfl

end Pane

end MemoryPane
