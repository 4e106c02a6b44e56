import MemoryPane.Proofs.Pane.Load
import MemoryPane.Source.Script

/-!
How a load ends. A load is refused for the first of three reasons that applies, and a load that is
refused leaves everything as it was (`loadAt_of_not_accepts`). Any other load asks the source once,
and the kind of the reply decides how it ends (`loadAt_of_accepted`). `ending_loadAt` puts both
together, with one statement for each way in which a load can end.

Whether a window is too large is a matter of natural numbers. The products that are computed for it
are refused where they are no words, and that never decides (`Layout.isSome_extent?_iff`).
-/

namespace MemoryPane

namespace Reply

variable {α β : Type}

/-- The reply without its content. -/
def kind (reply : Reply α) : Reply Unit := reply.map fun _ => ()

@[simp] theorem kind_map (f : α → β) (reply : Reply α) : (reply.map f).kind = reply.kind := by
  cases reply <;> rfl

end Reply

theorem Layout.isSome_extent?_iff (layout : Layout) (lines : Nat) :
    (layout.extent? lines).isSome = true ↔ layout.width * lines ≤ windowLimit := by
  rw [extent?_eq]
  split
  next fits => exact iff_of_true rfl fits
  next large => exact iff_of_false Bool.false_ne_true large

/-! ## Asking a source -/

namespace Source

variable {σ : Type} {source : Source σ}

/-- What the source is asked in order to show `units` units from `top` on. -/
def request (source : Source σ) (top : Address) (units : Nat) : Request :=
  match source.feed with
  | .whole _ => .all
  | .ranged _ => .range top units

/-- The kind of the reply to this request, and the environment that it leaves. -/
def ask (source : Source σ) (top : Address) (units : Nat) (env : σ) : Reply Unit × σ :=
  match source.feed with
  | .whole block => ((block.read env).1.kind, (block.read env).2)
  | .ranged block => ((block.read top units env).1.kind, (block.read top units env).2)

/-- The source keeps a record of what it is asked: with each read, the request is noted in it. -/
def Notes {α : Type} (source : Source σ) (record : σ → α) (note : Request → α → α) : Prop :=
  match source.feed with
  | .whole block => ∀ env, record (block.read env).2 = note .all (record env)
  | .ranged block => ∀ start units env,
    record (block.read start units env).2 = note (.range start units) (record env)

theorem Notes.ask {α : Type} {record : σ → α} {note : Request → α → α}
    (notes : source.Notes record note) (top : Address) (units : Nat) (env : σ) :
    record (source.ask top units env).2 = note (source.request top units) (record env) := by
  unfold Notes at notes
  unfold Source.ask request
  cases feed : source.feed with
  | whole block =>
      rw [feed] at notes
      exact notes env
  | ranged block =>
      rw [feed] at notes
      exact notes top units env

/-- Fetching the cells of a window asks for its units once. -/
theorem fetch_eq_ask (source : Source σ) (top : Address) (extent : Layout.Extent) (env : σ) :
    (source.fetch top extent env).1.kind = (source.ask top extent.units env).1 ∧
      (source.fetch top extent env).2 = (source.ask top extent.units env).2 := by
  unfold fetch ask
  cases source.feed with
  | whole block => exact ⟨Reply.kind_map _ _, rfl⟩
  | ranged block => exact ⟨rfl, rfl⟩

end Source

/-! ## A load that the source replied to -/

namespace LoadResult

/-- How a load ends that the source replied to. -/
def ofReply : Reply Unit → LoadResult
  | .content _ => .loaded
  | .nothing => .substituted .noContent
  | .failed reason => .substituted (.readFailed reason)

variable {reply : Reply Unit}

theorem buildsWindow_ofReply (reply : Reply Unit) : (ofReply reply).buildsWindow = true := by
  cases reply <;> rfl

theorem ofReply_eq_loaded_iff : ofReply reply = .loaded ↔ reply = .content () := by
  cases reply <;> simp [ofReply]

theorem ofReply_eq_noContent_iff : ofReply reply = .substituted .noContent ↔ reply = .nothing := by
  cases reply <;> simp [ofReply]

theorem ofReply_eq_readFailed_iff {reason : String} :
    ofReply reply = .substituted (.readFailed reason) ↔ reply = .failed reason := by
  cases reply <;> simp [ofReply]

end LoadResult

namespace Pane

variable {σ η : Type} {pane : Pane σ η} {lines : Nat} {env : σ}

/-- What a load asks the source: the units of its lines, from the aligned start on. -/
def request (pane : Pane σ η) (start : Address) (lines : Nat) : Request :=
  pane.source.request (start.alignDown pane.layout.alignment) (pane.layout.lineUnits * lines)

/-- The kind of the reply to this, and the environment that it leaves. -/
def ask (pane : Pane σ η) (start : Address) (lines : Nat) (env : σ) : Reply Unit × σ :=
  pane.source.ask (start.alignDown pane.layout.alignment) (pane.layout.lineUnits * lines) env

/-- A load that is not refused asks the source once and ends as the reply says. -/
theorem loadAt_of_accepted [Host η] (accepts : pane.Accepts lines env) (start : Address)
    (afresh : Bool) :
    (pane.loadAt start lines afresh env).1 = .ofReply (pane.ask start lines env).1 ∧
      (pane.loadAt start lines afresh env).2.2 = (pane.ask start lines env).2 := by
  have ends (top : Address) (extent : Layout.Extent) (reply : Reply (List Cell)) :
      (pane.receive top extent afresh reply).1 = .ofReply reply.kind := by
    cases reply <;> rfl
  obtain ⟨kind, left⟩ := pane.source.fetch_eq_ask (start.alignDown pane.layout.alignment)
    ⟨pane.layout.width * lines, pane.layout.lineUnits * lines⟩ env
  rw [loadAt_of_accepts accepts]
  exact ⟨(ends _ _ _).trans (congrArg LoadResult.ofReply kind), left⟩

/-! ## A load that is refused -/

theorem refusal_eq_disposed_iff : pane.refusal lines env = .disposed ↔ pane.disposed = true := by
  unfold refusal
  split
  next disposed => exact iff_of_true rfl disposed
  next live => split <;> simp [live]

theorem refusal_eq_targetGone_iff :
    pane.refusal lines env = .targetGone ↔
      pane.disposed = false ∧ (pane.source.status env).isGone = true := by
  unfold refusal
  split
  next disposed => simp [disposed]
  next live => split <;> simp_all

/-- A load of too many lines says so, unless it is refused for another reason. -/
theorem refusal_eq_refused_iff (refuses : ¬ pane.Accepts lines env) {failure : Failure} :
    pane.refusal lines env = .refused failure ↔
      pane.disposed = false ∧ (pane.source.status env).isGone = false ∧
        Layout.windowLimit < pane.layout.width * lines ∧
        failure = .badConfig (.oversizedWindow lines Layout.windowLimit) := by
  unfold Accepts at refuses
  unfold refusal
  cases live : pane.disposed with
  | true => simp
  | false =>
      cases present : (pane.source.status env).isGone with
      | true => simp
      | false =>
          have large : Layout.windowLimit < pane.layout.width * lines := by
            simpa [live, present] using refuses
          simp [large, eq_comm]

/-! ## Every load -/

/-- How a load of `lines` lines ends: with which result, with which pane and with which environment
of the source. -/
structure Ending (pane : Pane σ η) (start : Address) (lines : Nat) (env : σ)
    (result : LoadResult) (after : Pane σ η) (next : σ) : Prop where
  disposed : result = .disposed ↔ pane.disposed = true
  targetGone : result = .targetGone ↔
    pane.disposed = false ∧ (pane.source.status env).isGone = true
  refused : ∀ failure, result = .refused failure ↔
    pane.disposed = false ∧ (pane.source.status env).isGone = false ∧
      Layout.windowLimit < pane.layout.width * lines ∧
      failure = .badConfig (.oversizedWindow lines Layout.windowLimit)
  loaded : result = .loaded ↔
    pane.Accepts lines env ∧ (pane.ask start lines env).1 = .content ()
  noContent : result = .substituted .noContent ↔
    pane.Accepts lines env ∧ (pane.ask start lines env).1 = .nothing
  readFailed : ∀ reason, result = .substituted (.readFailed reason) ↔
    pane.Accepts lines env ∧ (pane.ask start lines env).1 = .failed reason
  /-- A load that builds a window reads the source once. -/
  asked : result.buildsWindow = true → next = (pane.ask start lines env).2 ∧
    ∀ (α : Type) (record : σ → α) (note : Request → α → α), pane.source.Notes record note →
      record next = note (pane.request start lines) (record env)
  /-- A load that builds none changes nothing and reads nothing. -/
  untouched : result.buildsWindow = false → after = pane ∧ next = env
  snapshot : after.snapshot = pane.snapshot
  viewport : after.viewport = pane.viewport
  /-- The machine words neither admit nor refuse a window. -/
  extent : (pane.layout.extent? lines).isSome = true ↔
    pane.layout.width * lines ≤ Layout.windowLimit

theorem ending_loadAt [Host η] (pane : Pane σ η) (start : Address) (lines : Nat) (afresh : Bool)
    (env : σ) :
    pane.Ending start lines env (pane.loadAt start lines afresh env).1
      (pane.loadAt start lines afresh env).2.1 (pane.loadAt start lines afresh env).2.2 := by
  rcases Classical.em (pane.Accepts lines env) with accepts | refuses
  · obtain ⟨live, present, fits⟩ := id accepts
    obtain ⟨ends, left⟩ := loadAt_of_accepted accepts start afresh
    obtain ⟨result, cells, host, next, -, -, eq⟩ := exists_loadAt_eq accepts start
    have built : ∀ result : LoadResult, result.buildsWindow = false →
        LoadResult.ofReply (pane.ask start lines env).1 ≠ result := by
      rintro _ other rfl
      rw [LoadResult.buildsWindow_ofReply] at other
      contradiction
    rw [ends, left]
    exact {
      disposed := iff_of_false (built _ rfl) (by simp [live])
      targetGone := iff_of_false (built _ rfl) (by simp [present])
      refused := fun failure =>
        iff_of_false (built _ rfl) fun ⟨_, _, large, _⟩ => Nat.not_lt.mpr fits large
      loaded := LoadResult.ofReply_eq_loaded_iff.trans (and_iff_right accepts).symm
      noContent := LoadResult.ofReply_eq_noContent_iff.trans (and_iff_right accepts).symm
      readFailed := fun reason =>
        LoadResult.ofReply_eq_readFailed_iff.trans (and_iff_right accepts).symm
      asked := fun _ => ⟨rfl, fun _ _ _ notes => notes.ask _ _ env⟩
      untouched := fun refused => (built _ refused rfl).elim
      snapshot := by rw [eq]; rfl
      viewport := by rw [eq]; rfl
      extent := pane.layout.isSome_extent?_iff lines }
  · have unbuilt : ∀ result : LoadResult, result.buildsWindow = true →
        pane.refusal lines env ≠ result := by
      rintro _ other rfl
      rw [buildsWindow_refusal] at other
      contradiction
    rw [loadAt_of_not_accepts refuses]
    exact {
      disposed := refusal_eq_disposed_iff
      targetGone := refusal_eq_targetGone_iff
      refused := fun failure => refusal_eq_refused_iff refuses
      loaded := iff_of_false (unbuilt _ rfl) fun both => refuses both.1
      noContent := iff_of_false (unbuilt _ rfl) fun both => refuses both.1
      readFailed := fun reason => iff_of_false (unbuilt _ rfl) fun both => refuses both.1
      asked := fun built => (unbuilt _ built rfl).elim
      untouched := fun _ => ⟨rfl, rfl⟩
      snapshot := rfl
      viewport := rfl
      extent := pane.layout.isSome_extent?_iff lines }

end Pane

end MemoryPane
