import ClusterReady.Proofs.Ledger
import ClusterReady.Proofs.ReadsInTime

/-!
# Entries and the cancellation

Once a run is cancelled, each check whose turn is still to come is skipped; only the deletions are
tried all the same, and may be refused.  A stretch of a run that keeps to this is `Paced`, and such
stretches are joined end to end.
-/

namespace ClusterReady

open Session (Trail ReadsInTime)

variable {σ : Type}

namespace Entry

/-- The report says that the run was cancelled. -/
def Stopped (e : Entry σ) : Prop :=
  e.report.outcome.isCancelled = true ∨ e.report.outcome.isSkipped = true

/-- What may follow an entry that was stopped: something skipped, or a deletion that is refused. -/
def Closing (e : Entry σ) : Prop :=
  e.report.outcome.isSkipped = true ∨
    ∃ error, e = .refused "storage-probe-deleted" error ∨
      e = .refused "storage-namespace-deleted" error

theorem not_stopped_iff {e : Entry σ} :
    ¬e.Stopped ↔ e.report.outcome.isPassed = true ∨ e.report.outcome.isFailed = true := by
  unfold Stopped
  cases e.report.outcome <;>
    simp [Outcome.isPassed, Outcome.isFailed, Outcome.isCancelled, Outcome.isSkipped]

theorem Closing.not_cancelled {e : Entry σ} (h : e.Closing) :
    e.report.outcome.isCancelled = false := by
  rcases h with hskipped | ⟨error, rfl | rfl⟩
  · cases houtcome : e.report.outcome with
    | skipped reason => rfl
    | passed _ => simp [houtcome, Outcome.isSkipped] at hskipped
    | failed _ => simp [houtcome, Outcome.isSkipped] at hskipped
    | cancelled _ => simp [houtcome, Outcome.isSkipped] at hskipped
  · rfl
  · rfl

end Entry

/-! ## Stretches of a run with the entries that they leave -/

/-- From `s` to `t` a run leaves these entries and heeds the cancellation. -/
structure Paced (s : Session σ) (entries : List (Entry σ)) (t : Session σ) : Prop where
  reads : s.ReadsInTime t
  within : ∀ check begun, .turn check begun ∈ entries → s ≤ begun ∧ begun ≤ t
  stops : ∀ e ∈ entries, e.Stopped → t.cancelled = true
  closes : entries.Pairwise fun e d => e.Stopped → d.Closing

namespace Paced

variable {s m t : Session σ} {entries more : List (Entry σ)}

theorem nil (h : s.ReadsInTime t) : Paced s [] t := by
  refine ⟨h, ?_, ?_, .nil⟩
  · intro check begun hmem
    cases hmem
  · intro e hmem
    cases hmem

theorem singleton
    {e : Entry σ} (h : s.ReadsInTime t)
    (hturn : ∀ check begun, e = .turn check begun → s ≤ begun ∧ begun ≤ t)
    (hstops : e.Stopped → t.cancelled = true) : Paced s [e] t := by
  refine ⟨h, ?_, ?_, List.pairwise_singleton _ _⟩
  · intro check begun hmem
    exact hturn check begun (List.mem_singleton.mp hmem).symm
  · intro d hmem hstopped
    rw [List.mem_singleton.mp hmem] at hstopped
    exact hstops hstopped

/-- Entries may be appended to others when they are all closing, should the run be cancelled. -/
theorem append
    (h : Paced s entries m) (h' : Paced m more t)
    (hclosing : m.cancelled = true → ∀ d ∈ more, d.Closing) : Paced s (entries ++ more) t := by
  refine ⟨h.reads.trans h'.reads, ?_, ?_, ?_⟩
  · intro check begun hmem
    rcases List.mem_append.mp hmem with hmem | hmem
    · obtain ⟨hsb, hbm⟩ := h.within check begun hmem
      exact ⟨hsb, Std.le_trans hbm h'.reads.le⟩
    · obtain ⟨hmb, hbt⟩ := h'.within check begun hmem
      exact ⟨Std.le_trans h.reads.le hmb, hbt⟩
  · intro e hmem hstopped
    rcases List.mem_append.mp hmem with hmem | hmem
    · exact Session.cancelled_of_le h'.reads.le (h.stops e hmem hstopped)
    · exact h'.stops e hmem hstopped
  · refine List.pairwise_append.mpr ⟨h.closes, h'.closes, ?_⟩
    intro e he d hd hstopped
    exact hclosing (h.stops e he hstopped) d hd

theorem after (h : s.ReadsInTime m) (h' : Paced m entries t) : Paced s entries t := by
  refine ⟨h.trans h'.reads, ?_, h'.stops, h'.closes⟩
  intro check begun hmem
  obtain ⟨hmb, hbt⟩ := h'.within check begun hmem
  exact ⟨Std.le_trans h.le hmb, hbt⟩

end Paced

/-! ## Checks -/

namespace Check

theorem cancelled_of_stopped {c : Check σ} {s : Session σ} (h : (Entry.turn c s).Stopped) :
    (c.run.final s).cancelled = true := by
  cases hs : s.cancelled with
  | true => exact Session.cancelled_of_le (c.run.le_final s) hs
  | false =>
      obtain ⟨hreport, hworld⟩ := run_of_not_cancelled hs (c := c)
      have hsame : (c.run.final s).cancelled = (c.wait.final (c.waiting s)).cancelled := by
        rw [Session.cancelled, hworld, Session.cancelled]
      have hstopped : (c.run.value s).outcome.isCancelled = true ∨
          (c.run.value s).outcome.isSkipped = true := h
      rw [hreport, wait_eq] at hstopped
      rw [hsame, wait_eq]
      rcases (pollUntil_run c.driven c.timing (c.waiting s)).answer with
        ⟨summary, hok⟩ | ⟨shown, n, elapsed, failure, htimeout⟩ | ⟨shown, n, last, -, hcancelled⟩
      · rw [hok] at hstopped
        rcases hstopped with hcancelled | hskipped
        · cases hcancelled
        · cases hskipped
      · rw [htimeout] at hstopped
        rcases hstopped with hcancelled | hskipped
        · cases hcancelled
        · cases hskipped
      · exact hcancelled

/-- In a run that is cancelled all checks that are left are skipped. -/
theorem turns_closing
    {checks : List (Check σ)} {s : Session σ} (hs : s.cancelled = true) :
    ∀ e ∈ turns checks s, e.Closing := by
  induction checks generalizing s with
  | nil => simp [turns]
  | cons c rest ih =>
      intro e he
      rcases List.mem_cons.mp he with rfl | he
      · apply Or.inl
        rw [Entry.report, (run_of_cancelled hs).1]
        rfl
      · exact ih (Session.cancelled_of_le (c.run.le_final s) hs) e he

theorem run_paced {c : Check σ} (hc : c.ReadsOnce) (s : Session σ) :
    Paced s [.turn c s] (c.run.final s) := by
  refine .singleton (run_readsInTime hc s) ?_ cancelled_of_stopped
  intro check begun hturn
  cases hturn
  exact ⟨Std.le_refl s, c.run.le_final s⟩

end Check

namespace Storage

theorem actionEntries_closing
    {action : Step σ ActionResult} {name : String} {checks : List (Check σ)} {s : Session σ}
    (hname : name = "storage-probe-deleted" ∨ name = "storage-namespace-deleted")
    (hs : s.cancelled = true) : ∀ e ∈ actionEntries action name checks s, e.Closing := by
  unfold actionEntries
  cases action.value s with
  | ok _ => exact Check.turns_closing (Session.cancelled_of_le (action.le_final s) hs)
  | error e =>
      intro d hd
      rw [List.mem_singleton.mp hd]
      rcases hname with rfl | rfl
      · exact Or.inr ⟨e, Or.inl rfl⟩
      · exact Or.inr ⟨e, Or.inr rfl⟩

variable (c : Context σ) (poll gone : PollConfig)

/-- A scenario whose turn comes in a run that is cancelled is skipped as a whole. -/
theorem entries_closing {s : Session σ} (hs : s.cancelled = true) :
    ∀ e ∈ entries c poll gone s, e.Closing := by
  intro e he
  unfold entries at he
  by_cases hdisabled : c.config.storage.enabled = false
  · rw [if_pos hdisabled] at he
    cases he
  · rw [if_neg hdisabled, if_pos hs] at he
    rw [List.mem_singleton.mp he]
    exact Or.inl rfl

end Storage

end ClusterReady
