import MemoryPane.Proofs.Pane.Disposal
import MemoryPane.Proofs.Tab.Session

/-!
The end of a tab. Disposing of a tab, closing it, or catching up with the end of its block leaves it
without a subscription and its pane without a line (`ended_act`). Both stay so (`Ended.run`), hence
the tab answers nothing any more (`Ended.silent`), and the bus is left to the others
(`Ended.bus_run`). The bus forgets the subscriber with the next publication
(`not_mem_registered_run_of_ended`), or at once if `close` finds the subscription still there
(`not_mem_registered_close`).
-/

namespace MemoryPane.Tab

variable {σ η : Type} [Host η]

/-- The tab has ended: nothing is shown, loaded, handled or asked of the host any more. -/
structure Silent (tab : Tab σ η) : Prop where
  pane : tab.pane.Silent
  rows : tab.rows = []
  load : ∀ env, ∃ viewport,
    tab.load env = (.disposed, { tab with pane := { tab.pane with viewport } }, env)
  catchUp : ∀ bus env, tab.catchUp bus env = (0, tab, bus, env)
  setEnabled : ∀ enabled env, tab.setEnabled enabled env = (none, { tab with enabled }, env)
  /-- It cannot end a second time. -/
  dispose : ∀ bus, tab.dispose bus = (tab, bus)
  close : ∀ bus, tab.close bus = (tab, bus)

namespace Session

/-- The tab has let go of its subscription and of all lines. -/
structure Ended (session : Session σ η) : Prop where
  pane : session.tab.pane.Ended
  unsubscribed : session.tab.subscription = none

/-- The action ends the tab. -/
def Ends (session : Session σ η) : Action σ η → Prop
  | .close | .closeElsewhere | .dispose => True
  | .catchUp _ => .disposed session.tab.pane.source.block ∈ session.tab.waiting session.bus
  | _ => False

variable {session : Session σ η} {id : Subscriber}

theorem ended_act {ending : Action σ η} (ends : session.Ends ending) :
    (session.act ending).Ended := by
  obtain ⟨tab, bus⟩ := session
  cases ending with
  | close | closeElsewhere | dispose => exact ⟨tab.pane.ended_dispose, rfl⟩
  | catchUp env =>
      have waits : .disposed tab.pane.source.block ∈ tab.waiting bus := ends
      cases subscribed : tab.subscription with
      | none =>
          rw [waiting, subscribed] at waits
          exact (List.not_mem_nil waits).elim
      | some id =>
          rw [waiting, subscribed] at waits
          rw [act]
          dsimp only
          rw [catchUp_of_mem subscribed env waits]
          exact ⟨Pane.ended_dispose _, rfl⟩
  | load | setEnabled | setLabel | onPane | onBus => exact ends.elim

/-! ## A tab that has ended stays so -/

namespace Ended

theorem act (ended : session.Ended) (action : Action σ η) : (session.act action).Ended where
  pane := by
    obtain ⟨actions, eq⟩ := session.exists_run_pane action
    rw [eq]
    exact ended.pane.run actions
  unsubscribed := (act_of_unsubscribed ended.unsubscribed action).1

theorem run (ended : session.Ended) (actions : List (Action σ η)) :
    (session.run actions).Ended := by
  induction actions generalizing session with
  | nil => exact ended
  | cons action actions ih => exact ih (ended.act action)

/-- Only others use the bus. -/
theorem bus_run (ended : session.Ended) (actions : List (Action σ η)) :
    (session.run actions).bus = session.bus.run (actions.filterMap Action.onBus?) := by
  induction actions generalizing session with
  | nil => rfl
  | cons action actions ih =>
      rw [run_cons, ih (ended.act action), (act_of_unsubscribed ended.unsubscribed action).2]
      cases others : action.onBus? <;> simp [others]

omit [Host η] in
theorem dispose_eq (ended : session.Ended) (bus : Bus) :
    session.tab.dispose bus = (session.tab, bus) := by
  rw [dispose, ended.pane.dispose_eq, ended.unsubscribed]
  simp [← ended.unsubscribed]

theorem silent (ended : session.Ended) : session.tab.Silent where
  pane := ended.pane.silent
  rows := by rw [rows, ended.pane.window, List.map_nil]
  load := by
    intro env
    obtain ⟨viewport, eq⟩ := Pane.exists_loadView_eq_of_disposed ended.pane.disposed env
    rw [load, eq]
    exact ⟨viewport, rfl⟩
  catchUp := by
    intro bus env
    rw [catchUp, ended.unsubscribed]
  setEnabled := by
    intro enabled env
    exact if_pos (by simp [isDisposed, ended.pane.disposed])
  dispose := ended.dispose_eq
  close := by
    intro bus
    rw [close, ended.unsubscribed]
    exact ended.dispose_eq bus

end Ended

/-! ## The bus forgets the subscriber -/

theorem not_mem_registered_run_of_ended (follows : session.Follows id) (ended : session.Ended)
    {event : Event} {after : List (Action σ η)} (published : .onBus (.publish event) ∈ after) :
    id ∉ (session.run after).bus.registered := by
  have dropped : session.bus.isLive id = false := by
    rcases follows.subscription with kept | ⟨-, dropped⟩
    · rw [ended.unsubscribed] at kept
      contradiction
    · exact dropped
  rw [ended.bus_run]
  exact follows.wellFormed.not_mem_registered_run_of_publish follows.made dropped
    (List.mem_filterMap.mpr ⟨_, published, rfl⟩)

theorem not_mem_registered_close (subscribed : session.tab.subscription = some id) :
    id ∉ (session.act .close).bus.registered := by
  obtain ⟨tab, bus⟩ := session
  have subscribed : tab.subscription = some id := subscribed
  simp [act, close, dispose, subscribed, Bus.drop, Bus.unsubscribe]

/-! ## Ending for good -/

/-- Once a pane has ended, it stays silent whatever happens later. Once a tab has ended, so does the
tab, and the bus has forgotten it after one more publication, or at once if it was closed while
subscribed. -/
theorem ends_for_good :
    (∀ (pane : Pane σ η) (ending : Pane.Action σ η), pane.Ends ending →
      ∀ after, ((pane.act ending).run after).Silent) ∧
    ∀ (start : Session σ η) (id : Subscriber), start.Opened id →
      ∀ (before : List (Action σ η)) (ending : Action σ η), (start.run before).Ends ending →
        ∀ after,
          let last := ((start.run before).act ending).run after
          last.tab.Silent ∧
            ((∃ event, .onBus (.publish event) ∈ after) → id ∉ last.bus.registered) ∧
            (ending = .close → (start.run before).tab.subscription ≠ none →
              id ∉ last.bus.registered) := by
  constructor
  · intro pane ending ends after
    exact Pane.silent_run_of_ends ends after
  · intro start id opened before ending ends after last
    have follows := (opened.follows.run before).act ending
    have ended := ended_act ends
    refine ⟨(ended.run after).silent, ?_, ?_⟩
    · rintro ⟨event, published⟩
      exact not_mem_registered_run_of_ended follows ended published
    · rintro rfl held
      have subscribed := (opened.follows.run before).subscription.resolve_right (held ·.1)
      show id ∉ (((start.run before).act .close).run after).bus.registered
      rw [ended.bus_run]
      exact Bus.not_mem_registered_run follows.made (not_mem_registered_close subscribed) _

/-- A tab just opened on a new bus. -/
def sample : Session Image Recorder where
  tab := { Sample.tab with pane := Pane.Sample.pane }
  bus := { registered := [⟨0⟩], mailboxes := [⟨⟨0⟩, []⟩], nextNumber := 1 }

theorem opened_sample : sample.Opened ⟨0⟩ :=
  ⟨Sample.workspace, Pane.Sample.source, {}, "hex", Pane.Sample.image, [], rfl, rfl, rfl, rfl⟩

/-- The end of its block ends the tab, which the bus counts until the next event. Another that is
closed is not counted from then on. -/
theorem ends_for_good_sample :
    ((Pane.Sample.pane.act .dispose).run [.loadView Pane.Sample.image]).Silent ∧
      let disposed := sample.run [.load Pane.Sample.image, .onBus (.publish (.disposed ⟨1⟩))]
      let ended := disposed.act (.catchUp Pane.Sample.image)
      let last := ended.run [.onBus (.publish (.suspended ⟨1⟩)), .load Pane.Sample.image]
      let closed := (sample.run []).act .close
      ended.bus.registered = [⟨0⟩] ∧ last.tab.Silent ∧ ⟨0⟩ ∉ last.bus.registered ∧
        ⟨0⟩ ∉ closed.bus.registered := by
  have panes := (@ends_for_good Image Recorder _).1
  have tabs := (@ends_for_good Image Recorder _).2 sample ⟨0⟩ opened_sample
  refine ⟨panes _ .dispose trivial _, ?_⟩
  intro disposed ended last closed
  obtain ⟨silent, forgets, -⟩ := tabs
    [.load Pane.Sample.image, .onBus (.publish (.disposed ⟨1⟩))] (.catchUp Pane.Sample.image)
    (by show Event.disposed _ ∈ _; decide +kernel)
    [.onBus (.publish (.suspended ⟨1⟩)), .load Pane.Sample.image]
  exact ⟨by decide +kernel, silent, forgets ⟨.suspended ⟨1⟩, by simp⟩,
    (tabs [] .close trivial []).2.2 rfl (by simp [sample, run, Sample.tab])⟩

/-- Closing does not always remove the subscriber at once: a tab that was disposed of before has no
subscription left by which to remove it. -/
theorem not_forall_not_mem_registered_close :
    ¬ ∀ (start : Session Image Recorder) (id : Subscriber), start.Opened id →
      ∀ before : List (Action Image Recorder),
        id ∉ ((start.run before).act .close).bus.registered := by
  intro forgotten
  have counted : (⟨0⟩ : Subscriber) ∈ ((sample.run [.dispose]).act .close).bus.registered := by
    decide +kernel
  exact forgotten sample ⟨0⟩ opened_sample [.dispose] counted

end Session

end MemoryPane.Tab
