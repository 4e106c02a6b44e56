import MemoryPane.Proofs.Pane.Handle
import MemoryPane.Tab

/-!
Batches of events. What a batch does to a pane is said in three cases. A batch that does not end the
block amounts to one refresh or to none, however many of its events ask for one
(`matches_digest`). A batch that ends the block leaves a pane that has ended
(`disposed_digest_of_mem`). If the tab is not enabled, nothing counts but the end
(`digest_false`).
-/

namespace MemoryPane.Tab

variable {σ η : Type} [Host η] {pane : Pane σ η} {env : σ} {event : Event} {events : List Event}

/-! ## One event of a batch -/

theorem digest_cons_of_skipped (skipped : event.isDisposal = false) :
    digest false env (event :: events) pane = digest false env events pane := by
  rw [digest, if_pos (by simp [skipped])]

theorem digest_cons_disposed (enabled : Bool) (env : σ) (events : List Event) (pane : Pane σ η) :
    digest enabled env (.disposed pane.source.block :: events) pane =
      ({ handled := 1 }, pane.dispose) := by
  rw [digest, if_neg (by simp [Event.isDisposal]), pane.handle_disposed]
  rfl

theorem digest_cons {enabled : Bool} (counts : (enabled || event.isDisposal) = true)
    (stays : event ≠ .disposed pane.source.block) :
    digest enabled env (event :: events) pane =
      let (response, next) := pane.handle event env
      let (rest, last) := digest enabled env events next
      ({ handled := rest.handled + response.isRelevant.toNat
         refreshed := rest.refreshed || response = .refreshed }, last) := by
  rw [digest, if_neg (by cases enabled <;> simp_all)]
  dsimp only
  rw [if_neg fun ends => stays (Pane.fst_handle_eq_disposed_iff.mp ends)]

/-! ## Batches -/

theorem source_digest (enabled : Bool) (env : σ) (events : List Event) (pane : Pane σ η) :
    (digest enabled env events pane).2.source = pane.source := by
  induction events generalizing pane with
  | nil => rfl
  | cons event events ih =>
      rw [digest]
      split
      · exact ih pane
      · dsimp only
        split
        · exact pane.source_handle event env
        · exact (ih (pane.handle event env).2).trans (pane.source_handle event env)

/-- Without an end of the block, a batch amounts to one refresh if one is asked for, and tells the
host at most besides. -/
theorem matches_digest (quiet : Host.Quiet η)
    (stays : ∀ event ∈ events, event ≠ .disposed pane.source.block) :
    (digest true env events pane).1.refreshed =
        (events.any pane.asksRefresh && (pane.refresh env).1) ∧
      (if events.any pane.asksRefresh then (pane.refresh env).2 else pane).Matches
        (digest true env events pane).2 := by
  induction events generalizing pane with
  | nil => exact ⟨rfl, .refl pane⟩
  | cons event events ih =>
      have rest (next : Pane σ η) (source : next.source = pane.source) :=
        @ih next fun later member => source ▸ stays later (List.mem_cons_of_mem event member)
      rw [digest_cons rfl (stays event List.mem_cons_self), List.any_cons]
      cases asks : pane.asksRefresh event with
      | true =>
          -- all later refreshes repeat this one
          have source : (pane.refresh env).2.source = pane.source := (pane.refresh_frame env).1
          obtain ⟨same, again⟩ := pane.refresh_refresh quiet env
          obtain ⟨refreshed, last⟩ := rest (pane.refresh env).2 source
          rw [Pane.asksRefresh_eq source] at refreshed last
          rw [Pane.handle_of_asksRefresh asks, Bool.true_or, Bool.true_and, if_pos rfl]
          constructor
          · show ((digest true env events (pane.refresh env).2).1.refreshed ||
              (if (pane.refresh env).1 then Response.refreshed else .skipped) = .refreshed) = _
            rw [refreshed, same]
            cases (pane.refresh env).1 <;> simp
          · refine .trans ?_ last
            split
            · exact again
            · exact .refl _
      | false =>
          obtain ⟨response, next, handled, alike, other, -⟩ :=
            Pane.exists_handle_eq quiet asks (stays event List.mem_cons_self) env
          obtain ⟨refreshed, last⟩ := rest next alike.source_eq
          rw [Pane.asksRefresh_eq alike.source_eq] at refreshed last
          rw [handled, Bool.false_or]
          refine ⟨by simp [refreshed, other, (alike.refresh quiet env).1], .trans ?_ last⟩
          split
          · exact (alike.refresh quiet env).2
          · exact alike

/-- A batch with the end of the block leaves a pane that has ended. -/
theorem disposed_digest_of_mem {enabled : Bool} (ends : .disposed pane.source.block ∈ events) :
    (digest enabled env events pane).2.disposed = true := by
  induction events generalizing pane with
  | nil => exact (List.not_mem_nil ends).elim
  | cons event events ih =>
      by_cases own : event = .disposed pane.source.block
      · subst own
        rw [digest_cons_disposed]
        rfl
      · have later := (List.mem_cons.mp ends).resolve_left (Ne.symm own)
        cases counts : enabled || event.isDisposal with
        | true =>
            rw [digest_cons counts own]
            exact ih (by rwa [Pane.source_handle])
        | false =>
            obtain ⟨rfl, skipped⟩ := Bool.or_eq_false_iff.mp counts
            rw [digest_cons_of_skipped skipped]
            exact ih later

/-- The events of a batch that were about the pane, as far as the first that ended it. -/
theorem handled_digest (env : σ) (events : List Event) (pane : Pane σ η) :
    (digest true env events pane).1.handled =
      (events.take (events.idxOf (.disposed pane.source.block) + 1)).countP pane.concerns := by
  induction events generalizing pane with
  | nil => rfl
  | cons event events ih =>
      by_cases own : event = .disposed pane.source.block
      · subst own
        rw [digest_cons_disposed]
        simp [Pane.concerns, Event.block?]
      · have source := pane.source_handle event env
        rw [digest_cons rfl own, List.idxOf_cons, beq_false_of_ne own, cond_false,
          List.take_succ_cons, List.countP_cons]
        dsimp only
        rw [ih, source, Pane.concerns_eq source, Pane.isRelevant_handle]
        cases pane.concerns event <;> rfl

/-- A tab that is not enabled answers to the end of the block alone. -/
theorem digest_false (env : σ) (events : List Event) (pane : Pane σ η) :
    digest false env events pane =
      if .disposed pane.source.block ∈ events then ({ handled := 1 }, pane.dispose)
      else ({}, pane) := by
  induction events with
  | nil => simp [digest]
  | cons event events ih =>
      by_cases own : event = .disposed pane.source.block
      · subst own
        rw [digest_cons_disposed, if_pos List.mem_cons_self]
      · have same : .disposed pane.source.block ∈ event :: events ↔
            .disposed pane.source.block ∈ events := by
          simp [Ne.symm own]
        simp only [same]
        cases ends : event.isDisposal with
        | false => rw [digest_cons_of_skipped ends, ih]
        | true =>
            -- the end of another block
            cases event with
            | disposed block =>
                have apart : pane.concerns (.disposed block) = false := by
                  simpa [Pane.concerns, Event.block?] using own
                rw [digest_cons rfl own, Pane.handle_of_not_concerns apart]
                dsimp only
                rw [ih]
                split <;> rfl
            | contentChanged | stateChanged | suspended => contradiction

/-- Without an end of the block, a batch does not end the pane. -/
theorem disposed_digest_of_stays (quiet : Host.Quiet η) (enabled : Bool) (env : σ)
    (stays : .disposed pane.source.block ∉ events) :
    (digest enabled env events pane).2.disposed = pane.disposed := by
  cases enabled with
  | false => rw [digest_false, if_neg stays]
  | true =>
      have other : ∀ event ∈ events, event ≠ .disposed pane.source.block :=
        fun event member own => stays (own ▸ member)
      rw [(matches_digest quiet other).2.eq]
      dsimp only
      split
      · exact (pane.refresh_frame env).2
      · rfl

end MemoryPane.Tab
