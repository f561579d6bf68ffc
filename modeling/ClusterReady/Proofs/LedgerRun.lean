import ClusterReady.Proofs.Pace

/-!
# A suite keeps its ledger

Each part of a suite is `Filed` under the entries that the ledger has for it: it reports these
entries, measures what belongs to them, and heeds the cancellation.  So what is true of the reports,
of the measurements or of the requests of a suite is proved of its ledger, and the parts of the
suite are not gone through again.
-/

namespace ClusterReady

open Session (Trail ReadsInTime)

variable {σ α β : Type}

/-- From `s` the step leaves these entries, and tells their reports in its value. -/
structure Filed (m : Step σ α) (s : Session σ) (entries : List (Entry σ))
    (told : List CheckReport → α) : Prop where
  value_eq : m.value s = told (entries.map Entry.report)
  measurements : measurementTrail.Adds m s (entries.map Entry.measurement)
  paced : Paced s entries (m.final s)

namespace Filed

variable {s : Session σ} {entries : List (Entry σ)}

theorem pure (told : List CheckReport → α) (s : Session σ) :
    Filed (Pure.pure (told [])) s [] told where
  value_eq := rfl
  measurements := Trail.Adds.pure _ s
  paced := .nil (.refl s)

theorem after
    {m : Step σ β} {f : β → Step σ α} {told : List CheckReport → α} (hm : NoRead m s)
    (h : Filed (f (m.value s)) (m.final s) entries told) : Filed (m >>= f) s entries told where
  value_eq := h.value_eq
  measurements := hm.measurements.after h.measurements
  paced := h.paced.after hm.readsInTime

theorem answer
    {m : Step σ β} {told : List CheckReport → β} (h : Filed m s entries told) (f : β → α) :
    Filed (m >>= fun b => Pure.pure (f b)) s entries fun reports => f (told reports) where
  value_eq := congrArg f h.value_eq
  measurements := h.measurements.before (Trail.Adds.pure _ _)
  paced := h.paced

theorem refused (name : String) (e : ActionError) (told : List CheckReport → α) (s : Session σ) :
    Filed (CheckReport.fail name e.message >>= fun r => Pure.pure (told [r])) s
      [.refused name e] told where
  value_eq := rfl
  measurements := (CheckReport.adds_fail _ _ s).before (Trail.Adds.pure _ _)
  paced := by
    refine .singleton (.of_adds ((CheckReport.adds_fail _ _ s).before (Trail.Adds.pure _ _))) ?_ ?_
    · intro check begun hturn
      cases hturn
    · rintro (hcancelled | hskipped)
      · cases hcancelled
      · cases hskipped

theorem stoodDown (hs : s.cancelled = true) (told : List CheckReport → α) :
    Filed (CheckReport.skip "storage" >>= fun r => Pure.pure (told [r])) s [.stoodDown] told where
  value_eq := rfl
  measurements := (CheckReport.adds_skip _ s).before (Trail.Adds.pure _ _)
  paced := by
    refine .singleton (.of_adds ((CheckReport.adds_skip _ s).before (Trail.Adds.pure _ _))) ?_ ?_
    · intro check begun hturn
      cases hturn
    · intro _
      exact hs

end Filed

namespace Check

/-- A check makes one measurement, and its evaluations make none. -/
theorem run_measures {c : Check σ} (hc : c.ReadsOnce) (s : Session σ) :
    measurementTrail.Adds c.run s [(Entry.turn c s).measurement] := by
  obtain ⟨read, hread⟩ := hc
  have hnone : (c.evaluations s).flatMap measurementTrail.of = [] := by
    rw [List.flatMap_eq_nil_iff]
    intro e he
    have hadds := (hread .run).measurements e.before
    rw [eq_evaluation_of_mem he]
    exact hadds.between_eq
  have hrun : measurementTrail.Adds c.run s
      ((c.evaluations s).flatMap measurementTrail.of ++ [c.measurement s]) := adds_run c s
  rw [hnone, List.nil_append] at hrun
  rw [Entry.measurement_turn]
  exact hrun

theorem runAll_filed
    {checks : List (Check σ)} (h : ∀ c ∈ checks, c.ReadsOnce) (s : Session σ) :
    Filed (runAll checks) s (turns checks s) id := by
  induction checks generalizing s with
  | nil => exact .pure id s
  | cons c rest ih =>
      obtain ⟨hc, hrest⟩ := List.forall_mem_cons.mp h
      have hfiled := ih hrest (c.run.final s)
      constructor
      · have hreports : (runAll rest).value (c.run.final s) =
            (turns rest (c.run.final s)).map Entry.report := hfiled.value_eq
        change c.run.value s :: (runAll rest).value (c.run.final s) = _
        rw [hreports]
        rfl
      · exact (run_measures hc s).bind (hfiled.measurements.before (Trail.Adds.pure _ _))
      · exact (run_paced hc s).append hfiled.paced turns_closing

end Check

namespace Storage

theorem afterAction_filed
    {action : Step σ ActionResult} {name : String} {checks : List (Check σ)}
    (haction : ∀ s, NoRead action s) (hchecks : ∀ c ∈ checks, c.ReadsOnce) (s : Session σ) :
    Filed (afterAction action name checks) s (actionEntries action name checks s) id := by
  unfold actionEntries
  apply Filed.after (haction s)
  cases action.value s with
  | ok _ => exact Check.runAll_filed hchecks (action.final s)
  | error e => exact .refused name e id (action.final s)

variable (c : Context σ) (poll gone : PollConfig)

theorem probeCreation_filed (s : Session σ) :
    Filed (probeCreation c c.scratch poll) s
      (actionEntries (createProbe c.server c.scratch c.config.storage.storageClass)
        "storage-probe-created"
        [claimCheck c.server c.scratch poll, podCheck c.server c.scratch poll] s) id :=
  afterAction_filed (fun s => createProbe_noRead c.server s _ _)
    (creationChecks_readsOnce c.server c.scratch poll) s

theorem probeDeletion_filed (s : Session σ) :
    Filed (probeDeletion c c.scratch poll) s
      (actionEntries (deleteProbe c.server c.scratch) "storage-probe-deleted"
        [claimGoneCheck c.server c.scratch poll] s) id :=
  afterAction_filed (fun s => deleteProbe_noRead c.server s _)
    (deletionChecks_readsOnce c.server c.scratch poll) s

theorem namespaceDeletion_filed (s : Session σ) :
    Filed (namespaceDeletion c c.scratch gone) s
      (actionEntries (deleteNamespace c.server c.scratch) "storage-namespace-deleted"
        [namespaceGoneCheck c.server c.scratch gone] s) id :=
  afterAction_filed (fun s => deleteObject_noRead c.server s _ _ _ _ _)
    (removalChecks_readsOnce c.server c.scratch gone) s

theorem final_inNamespace (s : Session σ) :
    (inNamespace c c.scratch poll gone).final (entered c s) =
      (namespaceDeletion c c.scratch gone).final (cleared c poll s) := by
  simp only [inNamespace, Run.final_bind, Run.final_pure, probed, cleared]

theorem inNamespace_filed (s : Session σ) :
    Filed (inNamespace c c.scratch poll gone) (entered c s) (entriesWithin c poll gone s) id := by
  have hcreated := probeCreation_filed c poll (entered c s)
  have hdeleted := probeDeletion_filed c poll (probed c poll s)
  have hgone := namespaceDeletion_filed c gone (cleared c poll s)
  unfold entriesWithin
  constructor
  · rw [value_inNamespace, hcreated.value_eq, hdeleted.value_eq, hgone.value_eq, List.map_append,
      List.map_append]
    rfl
  · simp only [List.map_append, List.append_assoc]
    refine hcreated.measurements.bind ?_
    refine hdeleted.measurements.bind ?_
    exact hgone.measurements.before (Trail.Adds.pure _ _)
  · rw [final_inNamespace]
    -- nothing stands before the creation, and what follows it is closing
    have hprobe := hcreated.paced.append hdeleted.paced (actionEntries_closing (Or.inl rfl))
    exact hprobe.append hgone.paced (actionEntries_closing (Or.inr rfl))

theorem runStorage_filed [Horizon] (htiming : timing c.config = .ok (poll, gone)) (s : Session σ) :
    Filed (runStorage c) s (entries c poll gone s) Except.ok := by
  unfold runStorage entries
  cases henabled : c.config.storage.enabled with
  | false => exact .pure Except.ok s
  | true =>
      simp only [if_true, Bool.true_eq_false, if_false]
      unfold runUnlessCancelled
      apply Filed.after (NoRead.cancelled s)
      rw [Step.value_cancelled, Step.final_cancelled]
      by_cases hs : s.cancelled = true
      · rw [if_pos hs, if_pos hs]
        exact .stoodDown hs Except.ok
      · rw [if_neg hs, if_neg hs, run_bind c poll gone htiming]
        apply Filed.after (NoRead.note _ s)
        have hcreation : NoRead (createNamespace c.server c.scratch) (begun c s) :=
          createObject_noRead c.server _ _ _ _ _
        apply Filed.after hcreation
        cases (createNamespace c.server c.scratch).value (begun c s) with
        | ok _ => exact (inNamespace_filed c poll gone s).answer Except.ok
        | error e => exact .refused _ e Except.ok (entered c s)

end Storage

/-- A run that has its checks gives the reports of its ledger. -/
theorem runSuite_filed [Horizon]
    {c : Context σ} {checks : List (Check σ)}
    (hchecks : standardChecks c.server c.config = .ok checks) (s : Session σ) :
    Filed (runSuite c) s (c.ledger s)
      fun reports => .ok ⟨c.config.provider, c.config.clusterName, reports⟩ := by
  obtain ⟨poll, gone, htiming⟩ := Storage.exists_timing_of_checks hchecks
  have hbattery := Check.runAll_filed (standardChecks_readsOnce hchecks) (c.started s)
  have hstorage := Storage.runStorage_filed c poll gone htiming (c.afterBattery checks s)
  unfold runSuite Context.ledger
  simp only [hchecks, htiming]
  apply Filed.after (NoRead.note _ s)
  constructor
  · rw [Run.value_bind, Run.value_bind]
    split
    · rename_i fault hfault
      cases hfault.symm.trans hstorage.value_eq
    · rename_i stored hstored
      cases hstored.symm.trans hstorage.value_eq
      change Except.ok (⟨_, _, (Check.runAll checks).value (c.started s) ++ _⟩ : SuiteReport) = _
      rw [hbattery.value_eq, List.map_append]
      rfl
  · rw [List.map_append]
    refine hbattery.measurements.bind (hstorage.measurements.before ?_)
    cases (runStorage c).value _ with
    | error fault => exact Trail.Adds.pure _ _
    | ok stored => exact Trail.Adds.pure _ _
  · have hall := hbattery.paced.append hstorage.paced (Storage.entries_closing c poll gone)
    simp only [Run.final_bind]
    split
    · exact hall
    · exact hall

end ClusterReady
