import ClusterReady.Proofs.LedgerRun

/-!
# The cancellation stops the suite

Once a run is cancelled no read is sent any more, and each check whose turn is still to come is
skipped.  In the ledger of the run at most one check is interrupted; what stands before it has
passed or failed, and what stands after it is skipped, apart from the deletions, which are tried all
the same and may be refused.
-/

namespace ClusterReady

variable {σ : Type}

/-- Up to the first entry that was stopped all have passed or failed, and those after it are
closing. -/
theorem exists_split_of_closes
    {entries : List (Entry σ)} (h : entries.Pairwise fun e d => e.Stopped → d.Closing) :
    ∃ ran rest, entries = ran ++ rest ∧
      (∀ e ∈ ran, e.report.outcome.isPassed = true ∨ e.report.outcome.isFailed = true) ∧
      (∀ e ∈ rest.head?, e.Stopped) ∧ ∀ e ∈ rest.tail, e.Closing := by
  induction entries with
  | nil => exact ⟨[], [], rfl, by simp, by simp, by simp⟩
  | cons e entries ih =>
      obtain ⟨hfirst, hentries⟩ := List.pairwise_cons.mp h
      by_cases hstopped : e.Stopped
      · refine ⟨[], e :: entries, rfl, by simp, ?_, ?_⟩
        · intro d hd
          cases hd
          exact hstopped
        · intro d hd
          exact hfirst d hd hstopped
      · obtain ⟨ran, rest, rfl, hran, hhead, htail⟩ := ih hentries
        refine ⟨e :: ran, rest, rfl, ?_, hhead, htail⟩
        exact List.forall_mem_cons.mpr ⟨Entry.not_stopped_iff.mp hstopped, hran⟩

theorem countP_cancelled_le
    {entries : List (Entry σ)} (h : entries.Pairwise fun e d => e.Stopped → d.Closing) :
    entries.countP (fun e => e.report.outcome.isCancelled) ≤ 1 := by
  induction entries with
  | nil => exact Nat.zero_le 1
  | cons e entries ih =>
      obtain ⟨hfirst, hentries⟩ := List.pairwise_cons.mp h
      rw [List.countP_cons]
      by_cases hcancelled : e.report.outcome.isCancelled = true
      · have hnone : entries.countP (fun e => e.report.outcome.isCancelled) = 0 := by
          rw [List.countP_eq_zero]
          intro d hd
          have hclosing := hfirst d hd (Or.inl hcancelled)
          rw [hclosing.not_cancelled]
          exact Bool.false_ne_true
        rw [hnone, if_pos hcancelled]
      · rw [if_neg hcancelled]
        exact ih hentries

/-- What the cancellation does to a run from `s` to `t` with this ledger.  It ends the reads at
its instant, skips the checks whose turn is still to come, and is reported in the place where it
came. -/
structure Halted (s : Session σ) (ledger : List (Entry σ)) (t : Session σ) : Prop where
  reads : s.ReadsInTime t
  reads_le : ∀ x ∈ requestTrail.between s t, x.request.method = .get →
    ∀ instant, t.world.clock.cancelAt = some instant → x.instant ≤ instant
  no_read : s.cancelled = true → ∀ x ∈ requestTrail.between s t, x.request.method ≠ .get
  skips : ∀ check begun, .turn check begun ∈ ledger →
    (begun.cancelled = true ∨
      ∃ instant, t.world.clock.cancelAt = some instant ∧ instant < begun.now) →
    check.run.value begun = ⟨check.name, .skipped "run cancelled"⟩
  order : ∃ ran rest, ledger = ran ++ rest ∧
    (∀ e ∈ ran, e.report.outcome.isPassed = true ∨ e.report.outcome.isFailed = true) ∧
    (∀ e ∈ rest.head?, e.Stopped) ∧ ∀ e ∈ rest.tail, e.Closing

theorem Paced.halted {s t : Session σ} {ledger : List (Entry σ)} (h : Paced s ledger t) :
    Halted s ledger t := by
  refine ⟨h.reads, ?_, ?_, ?_, exists_split_of_closes h.closes⟩
  · intro x hx hget instant hcancel
    exact h.reads.instant_le hx hget hcancel
  · intro hs x hx
    exact h.reads.no_read hs hx
  · intro check begun hturn hcause
    obtain ⟨-, hle⟩ := h.within check begun hturn
    have hcancelled : begun.cancelled = true := by
      rcases hcause with hcancelled | ⟨instant, hcancel, hlate⟩
      · exact hcancelled
      · exact Clock.cancelled_of_lt hle.1 hcancel hlate
    exact (Check.run_of_cancelled hcancelled).1

/-- A run heeds the cancellation in all of its ledger. -/
theorem runSuite_paced [Horizon] (c : Context σ) (s : Session σ) :
    Paced s (c.ledger s) ((runSuite c).final s) := by
  cases hchecks : standardChecks c.server c.config with
  | ok checks => exact (runSuite_filed hchecks s).paced
  | error fault =>
      have hstarted : s.ReadsInTime (c.started s) := (NoRead.note _ s).readsInTime
      unfold runSuite Context.ledger
      simp only [hchecks]
      exact .nil hstarted

/-- Whatever the configuration and the server, a run halts when it is cancelled; its report, if it
gives one, is that of its ledger and holds one cancelled check at most. -/
theorem runSuite_halted [Horizon] (c : Context σ) (s : Session σ) :
    Halted s (c.ledger s) ((runSuite c).final s) ∧
      ∀ report, (runSuite c).value s = .ok report →
        report.checks = (c.ledger s).map Entry.report ∧ report.cancelled ≤ 1 := by
  have hpaced := runSuite_paced c s
  refine ⟨hpaced.halted, fun report hreport => ?_⟩
  obtain ⟨checks, -, hchecks, -, -⟩ := runSuite_reports hreport
  rw [(runSuite_filed hchecks s).value_eq] at hreport
  cases hreport
  refine ⟨rfl, ?_⟩
  have hcount := countP_cancelled_le hpaced.closes
  rw [SuiteReport.cancelled, SuiteReport.count, List.countP_map]
  exact hcount

/-- A server that no request reaches, and at whose first request the run is cancelled. -/
def interruptingServer : Server Unit where
  answer _ := do
    Run.move (fun w => { w with clock := w.clock.cancel }) fun w => w.clock.le_cancel
    return .error "no route to host"

/-- The first check is interrupted, and neither another check nor the storage scenario starts. -/
example :
    let c : Context Unit := { healthy with server := interruptingServer }
    ((runSuite c).value ⟨⟨{}, ()⟩, {}⟩).toOption.map (fun report =>
        (report.cancelled, report.skipped, report.checks.length)) = some (1, 6, 7) := by
  decide +kernel

end ClusterReady
