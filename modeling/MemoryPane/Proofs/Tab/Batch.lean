import MemoryPane.Proofs.Bus.Run
import MemoryPane.Proofs.Tab.CatchUp

/-!
Catching up amounts to one refresh. However many events wait for a tab, its content is loaded at
most once, after all of them (`catchUp_of_stays`), and what the pane holds in the end is what any
one of the events that ask for a refresh would have brought about alone (`holdsLike_catchUp`). An
end of the block among the events ends the tab, and nothing is loaded (`catchUp_of_mem`).
-/

namespace MemoryPane.Tab

variable {σ η : Type} [Host η] {tab : Tab σ η} {id : Subscriber}

/-! ## The two ways to catch up -/

section

variable (subscribed : tab.subscription = some id) (bus : Bus) (env : σ)
include subscribed

theorem catchUp_eq :
    tab.catchUp bus env =
      let (count, left) := digest tab.enabled env (bus.pending id) tab.pane
      let bus := (bus.drain id).2
      if left.disposed then
        (count.handled, { tab with pane := left.dispose, subscription := none }, bus.drop id, env)
      else if count.refreshed then
        let (_, pane, env) := left.loadView env
        (count.handled, { tab with pane }, bus, env)
      else (count.handled, { tab with pane := left }, bus, env) := by
  rw [catchUp, subscribed]
  rfl

/-- An end of the block ends the tab, and nothing is loaded. -/
theorem catchUp_of_mem {bus : Bus} (ends : .disposed tab.pane.source.block ∈ bus.pending id) :
    tab.catchUp bus env =
      let (count, left) := digest tab.enabled env (bus.pending id) tab.pane
      (count.handled, { tab with pane := left.dispose, subscription := none },
        (bus.drain id).2.drop id, env) := by
  rw [catchUp_eq subscribed]
  exact if_pos (disposed_digest_of_mem ends)

end

/-! ## What is handled -/

/-- The events that were about the tab are counted: all of them up to the first that ends it, or the
end alone if the tab is not enabled. -/
theorem fst_catchUp (subscribed : tab.subscription = some id) (bus : Bus) (env : σ) :
    (tab.catchUp bus env).1 =
      (digest tab.enabled env (bus.pending id) tab.pane).1.handled := by
  rw [catchUp_eq subscribed]
  dsimp only
  split
  · rfl
  · split <;> rfl

/-- The tab takes all that waits for it, and may drop its subscription afterwards. -/
theorem subscription_catchUp (subscribed : tab.subscription = some id) (bus : Bus) (env : σ) :
    ((tab.catchUp bus env).2.1.subscription = some id ∧
        (tab.catchUp bus env).2.2.1 = (bus.drain id).2) ∨
      ((tab.catchUp bus env).2.1.subscription = none ∧
        (tab.catchUp bus env).2.2.1 = (bus.drain id).2.drop id) := by
  rw [catchUp_eq subscribed]
  dsimp only
  split
  · exact .inr ⟨rfl, rfl⟩
  · split <;> exact .inl ⟨subscribed, rfl⟩

/-- Nothing waits any more. -/
theorem pending_catchUp (subscribed : tab.subscription = some id) (bus : Bus) (env : σ) :
    (tab.catchUp bus env).2.2.1.pending id = [] := by
  rcases subscription_catchUp subscribed bus env with ⟨-, eq⟩ | ⟨-, eq⟩
  · rw [eq, Bus.pending_eq, Bus.mail?_drain, if_pos rfl]
    cases bus.mail? id <;> rfl
  · rw [eq, Bus.pending_eq, Bus.mail?_drop, if_pos rfl]
    rfl

/-! ## A batch that does not end the block -/

section Stays

variable (quiet : Host.Quiet η) (subscribed : tab.subscription = some id)
  (live : tab.isDisposed = false) {bus : Bus} (env : σ)
  (stays : .disposed tab.pane.source.block ∉ bus.pending id)
include quiet subscribed live stays

/-- The content is loaded if a refresh took place. -/
theorem catchUp_of_stays :
    tab.catchUp bus env =
      let (count, left) := digest tab.enabled env (bus.pending id) tab.pane
      let bus := (bus.drain id).2
      if count.refreshed then
        let (_, pane, env) := left.loadView env
        (count.handled, { tab with pane }, bus, env)
      else (count.handled, { tab with pane := left }, bus, env) := by
  rw [catchUp_eq subscribed]
  have still : (digest tab.enabled env (bus.pending id) tab.pane).2.disposed = false :=
    (disposed_digest_of_stays quiet tab.enabled env stays).trans live
  exact if_neg (by simp [still])

/-- The subscription stays. -/
theorem subscription_catchUp_of_stays :
    (tab.catchUp bus env).2.1.subscription = some id := by
  rw [catchUp_of_stays quiet subscribed live env stays]
  dsimp only
  split <;> exact subscribed

/-- A batch that does not end the block refreshes the pane once, if any of its events asks for it,
and is followed by one load if the refresh took place. -/
theorem pane_catchUp_of_stays (enabled : tab.enabled = true) :
    let asked := (bus.pending id).any tab.pane.asksRefresh
    let left := (digest true env (bus.pending id) tab.pane).2
    (if asked then (tab.pane.refresh env).2 else tab.pane).Matches left ∧
      if asked && (tab.pane.refresh env).1 then
        (tab.catchUp bus env).2.1.pane = (left.loadView env).2.1 ∧
          (tab.catchUp bus env).2.2.2 = (left.loadView env).2.2
      else (tab.catchUp bus env).2.1.pane = left ∧ (tab.catchUp bus env).2.2.2 = env := by
  obtain ⟨refreshed, left⟩ := @matches_digest σ η _ tab.pane env _ quiet
    fun event member own => stays (own ▸ member)
  refine ⟨left, ?_⟩
  rw [catchUp_of_stays quiet subscribed live env stays, enabled, ← refreshed]
  dsimp only
  split <;> exact ⟨rfl, rfl⟩

/-- What a batch leaves does not depend on how many events ask for a refresh, nor on which. -/
theorem holdsLike_catchUp (enabled : tab.enabled = true) {other : Bus}
    (others : .disposed tab.pane.source.block ∉ other.pending id)
    (asked : (bus.pending id).any tab.pane.asksRefresh =
      (other.pending id).any tab.pane.asksRefresh) :
    (tab.catchUp bus env).2.1.pane.HoldsLike (tab.catchUp other env).2.1.pane ∧
      (tab.catchUp bus env).2.2.2 = (tab.catchUp other env).2.2.2 := by
  obtain ⟨left, caught⟩ := pane_catchUp_of_stays quiet subscribed live env stays enabled
  obtain ⟨left', caught'⟩ := pane_catchUp_of_stays quiet subscribed live env others enabled
  rw [← asked] at left' caught'
  have alike := left'.symm.trans left
  split at caught
  next loads =>
      rw [if_pos loads] at caught'
      rw [caught.1, caught.2, caught'.1, caught'.2]
      exact (alike.loadView env).2
  next rests =>
      rw [if_neg rests] at caught'
      rw [caught.1, caught.2, caught'.1, caught'.2]
      exact ⟨alike.holdsLike, rfl⟩

/-- A tab that is not enabled is left as it was, unless its block ended. -/
theorem catchUp_of_disabled (disabled : tab.enabled = false) :
    tab.catchUp bus env = (0, tab, (bus.drain id).2, env) := by
  have passed : digest tab.enabled env (bus.pending id) tab.pane = ({}, tab.pane) := by
    rw [disabled, digest_false, if_neg stays]
  rw [catchUp_of_stays quiet subscribed live env stays, passed]
  rfl

/-- A batch that neither asks for a refresh nor ends the block leaves all lines and reads
nothing. -/
theorem holdsLike_catchUp_of_rests
    (rest : ∀ event ∈ bus.pending id, tab.pane.asksRefresh event = false) :
    (tab.catchUp bus env).2.1.pane.HoldsLike tab.pane ∧ (tab.catchUp bus env).2.2.2 = env := by
  have none : (bus.pending id).any tab.pane.asksRefresh = false :=
    List.any_eq_false.mpr fun event member => by simp [rest event member]
  cases enabled : tab.enabled with
  | false =>
      rw [catchUp_of_disabled quiet subscribed live env stays enabled]
      exact ⟨⟨rfl, rfl, rfl, rfl, rfl⟩, rfl⟩
  | true =>
      obtain ⟨left, caught⟩ := pane_catchUp_of_stays quiet subscribed live env stays enabled
      rw [none] at left caught
      rw [caught.1, caught.2]
      exact ⟨left.holdsLike, rfl⟩

/-- The source is read at most once. -/
theorem readsOnce_catchUp :
    (tab.catchUp bus env).2.2.2 = env ∨
      tab.pane.ReadsOnce env (tab.catchUp bus env).2.2.2 := by
  have source := source_digest tab.enabled env (bus.pending id) tab.pane
  have read :=
    Pane.readsOnce_loadView (digest tab.enabled env (bus.pending id) tab.pane).2 env
  rw [Pane.readsOnce_eq source] at read
  rw [catchUp_of_stays quiet subscribed live env stays]
  dsimp only
  split
  · exact read
  · exact .inl rfl

end Stays

/-! ## All that catching up does -/

/-- What a tab does about the events that wait for it as the subscriber `id`. -/
structure CatchesUp (tab : Tab σ η) (id : Subscriber) (bus : Bus) (env : σ) : Prop where
  /-- Nothing waits any more. -/
  emptied : (tab.catchUp bus env).2.2.1.pending id = []
  /-- The events that name the block or the target are counted, as far as the first end of the
  block. -/
  counted : tab.enabled = true →
    (tab.catchUp bus env).1 =
      ((bus.pending id).take
        ((bus.pending id).idxOf (.disposed tab.pane.source.block) + 1)).countP tab.pane.concerns
  /-- A tab that is not enabled counts nothing but the end, -/
  ignored : tab.enabled = false →
    (tab.catchUp bus env).1 = if .disposed tab.pane.source.block ∈ bus.pending id then 1 else 0
  /-- and is left as it was without one. -/
  rests : tab.enabled = false → .disposed tab.pane.source.block ∉ bus.pending id →
    (tab.catchUp bus env).2.1 = tab ∧ (tab.catchUp bus env).2.2.2 = env
  /-- The end of the block ends the tab, and nothing is read. -/
  ends : .disposed tab.pane.source.block ∈ bus.pending id →
    (tab.catchUp bus env).2.1.isDisposed = true ∧
      (tab.catchUp bus env).2.1.subscription = none ∧
      (tab.catchUp bus env).2.2.1.isLive id = false ∧ (tab.catchUp bus env).2.2.2 = env
  /-- Otherwise the tab stays subscribed, and the source is read at most once, -/
  reads : .disposed tab.pane.source.block ∉ bus.pending id →
    (tab.catchUp bus env).2.1.subscription = some id ∧
      ((tab.catchUp bus env).2.2.2 = env ∨ tab.pane.ReadsOnce env (tab.catchUp bus env).2.2.2)
  /-- by a load of the pane that all of the events have left, if one of them refreshed it. -/
  loads : tab.enabled = true → .disposed tab.pane.source.block ∉ bus.pending id →
    let asked := (bus.pending id).any tab.pane.asksRefresh
    let left := (digest true env (bus.pending id) tab.pane).2
    (if asked then (tab.pane.refresh env).2 else tab.pane).Matches left ∧
      if asked && (tab.pane.refresh env).1 then
        (tab.catchUp bus env).2.1.pane = (left.loadView env).2.1 ∧
          (tab.catchUp bus env).2.2.2 = (left.loadView env).2.2
      else (tab.catchUp bus env).2.1.pane = left ∧ (tab.catchUp bus env).2.2.2 = env
  /-- If any of the events ask for a refresh, each of them alone would have led to the same. -/
  once : tab.enabled = true → .disposed tab.pane.source.block ∉ bus.pending id →
    ∀ event ∈ bus.pending id, tab.pane.asksRefresh event = true →
      ∀ other : Bus, other.pending id = [event] →
        (tab.catchUp bus env).2.1.pane.HoldsLike (tab.catchUp other env).2.1.pane ∧
          (tab.catchUp bus env).2.2.2 = (tab.catchUp other env).2.2.2
  /-- If none does, nothing is read and no line changes. -/
  idles : .disposed tab.pane.source.block ∉ bus.pending id →
    (∀ event ∈ bus.pending id, tab.pane.asksRefresh event = false) →
      (tab.catchUp bus env).2.1.pane.HoldsLike tab.pane ∧ (tab.catchUp bus env).2.2.2 = env

/-- Catching up with a batch of events amounts to one refresh. -/
theorem catchesUp (quiet : Host.Quiet η) (subscribed : tab.subscription = some id)
    (live : tab.isDisposed = false) (bus : Bus) (env : σ) : tab.CatchesUp id bus env where
  emptied := pending_catchUp subscribed bus env
  counted := by
    intro enabled
    rw [fst_catchUp subscribed, enabled, handled_digest]
  ignored := by
    intro disabled
    rw [fst_catchUp subscribed, disabled, digest_false]
    split <;> rfl
  rests := by
    intro disabled stays
    rw [catchUp_of_disabled quiet subscribed live env stays disabled]
    exact ⟨rfl, rfl⟩
  ends := by
    intro ends
    rw [catchUp_of_mem subscribed env ends]
    exact ⟨rfl, rfl, Bus.isLive_drop _ _, rfl⟩
  reads := fun stays =>
    ⟨subscription_catchUp_of_stays quiet subscribed live env stays,
      readsOnce_catchUp quiet subscribed live env stays⟩
  loads := fun enabled stays => pane_catchUp_of_stays quiet subscribed live env stays enabled
  once := by
    intro enabled stays event member asks other alone
    apply holdsLike_catchUp quiet subscribed live env stays enabled
    · rw [alone, List.mem_singleton]
      exact fun own => stays (own ▸ member)
    · rw [alone, List.any_eq_true.mpr ⟨event, member, asks⟩]
      simp [asks]
  idles := holdsLike_catchUp_of_rests quiet subscribed live env

/-- The four events on the bus, three of them about the tab, lead to one read. -/
theorem catchesUp_sample :
    let (count, _, _, next) := Sample.tab.catchUp Sample.bus Pane.Sample.written
    count = 3 ∧ next.reads = Pane.Sample.written.reads + 1 ∧
      Sample.tab.CatchesUp ⟨0⟩ Sample.bus Pane.Sample.written :=
  ⟨by decide +kernel, by decide +kernel,
    catchesUp Recorder.quiet rfl rfl Sample.bus Pane.Sample.written⟩

end MemoryPane.Tab
