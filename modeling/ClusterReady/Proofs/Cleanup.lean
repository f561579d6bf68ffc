import ClusterReady.Proofs.Mutations
import ClusterReady.Proofs.ScratchPath
import ClusterReady.Suite.Run

/-!
# The storage scenario cleans up

The requests of a run that change the cluster are known from the answers of three actions: the
creation of the namespace, that of the claim, and the deletion of the pod.  Once the namespace is
created its deletion is sent, once and last, whatever the checks in between find and whenever the
run is cancelled.
-/

namespace ClusterReady

variable {σ : Type}

/-- The session of a run that starts in `s` at its first check. -/
def Context.started (c : Context σ) (s : Session σ) : Session σ :=
  s.note (.suiteStarted c.config.provider.name (SuiteReport.shownCluster c.config.clusterName))

/-- The session of a run that starts in `s` after the battery of checks. -/
def Context.afterBattery (c : Context σ) (checks : List (Check σ)) (s : Session σ) : Session σ :=
  (Check.runAll checks).final (c.started s)

namespace Storage

def namespaceCreation (scratch : String) : Request :=
  Namespace.type.all.creation (Manifest.scratchNamespace scratch)

/-- What is sent into the scratch namespace once it is created, and its deletion: by whether the
creation of the claim and the deletion of the pod are done. -/
def requestsWithin (scratch : String) (storageClass : Option String) (claimed podDeleted : Bool) :
    List Request :=
  (Claim.type.within scratch).creation (Manifest.claim storageClass) ::
    ((if claimed then [(Pod.type.within scratch).creation Manifest.pod] else []) ++
      (Pod.type.within scratch).deletion Manifest.probePod true ::
        ((if podDeleted then [(Claim.type.within scratch).deletion Manifest.probeClaim false]
          else []) ++
          [Namespace.type.all.deletion scratch false]))

/-- The session of a scenario that starts in `s` before its first request. -/
def begun (c : Context σ) (s : Session σ) : Session σ := s.note (.storageStarted c.scratch)

/-- The session in which the creation of the namespace has been tried. -/
def entered (c : Context σ) (s : Session σ) : Session σ :=
  (createNamespace c.server c.scratch).final (begun c s)

/-- The session in which the creation of the probe has been tried and what follows it is over. -/
def probed (c : Context σ) (poll : PollConfig) (s : Session σ) : Session σ :=
  (probeCreation c c.scratch poll).final (entered c s)

/-- The session in which the same has been done with the deletion of the probe. -/
def cleared (c : Context σ) (poll : PollConfig) (s : Session σ) : Session σ :=
  (probeDeletion c c.scratch poll).final (probed c poll s)

/-- What is sent that is no read when the scenario runs from `s` on. -/
def scenarioTrace (c : Context σ) (poll : PollConfig) (s : Session σ) : List Request :=
  let storageClass := c.config.storage.storageClass
  namespaceCreation c.scratch ::
    if ((createNamespace c.server c.scratch).value (begun c s)).isOk then
      requestsWithin c.scratch storageClass
        ((createClaim c.server c.scratch storageClass).value (entered c s)).isOk
        ((deletePod c.server c.scratch).value (probed c poll s)).isOk
    else []

/-- What is sent that is no read behind a battery of checks that has ended in `s`. -/
def trace (c : Context σ) (poll : PollConfig) (s : Session σ) : List Request :=
  if c.config.storage.enabled = false ∨ s.cancelled = true then [] else scenarioTrace c poll s

end Storage

/-- The request is about the namespace of that name, or about something in it. -/
def Request.Within (scope : String) (r : Request) : Prop :=
  r.path = Namespace.type.all.objectPath scope ∨
    ∃ rest, r.path = Namespace.type.all.objectPath scope ++ "/" ++ rest

/-! ## Actions in the scratch namespace -/

section Actions

variable (server : Server σ) {scope : String}

theorem namespace_plain : Namespace.type.all.Plain where
  resource := ⟨by decide, by decide, by decide⟩
  scope _ h := by cases h

theorem within_plain
    {α : Type} {t : ResourceType α} (ht : t.id.Plain) (hscope : Url.isPlain scope = true) :
    (t.within scope).Plain where
  resource := ht
  scope name h := by
    cases h
    exact hscope

theorem claim_plain (hscope : Url.isPlain scope = true) : (Claim.type.within scope).Plain :=
  within_plain ⟨by decide, by decide, by decide⟩ hscope

theorem pod_plain (hscope : Url.isPlain scope = true) : (Pod.type.within scope).Plain :=
  within_plain ⟨by decide, by decide, by decide⟩ hscope

theorem createNamespace_mutations (scope : String) (s : Session σ) :
    ((createNamespace server scope).final s).mutations =
      s.mutations ++ [Storage.namespaceCreation scope] :=
  createObject_mutations (Url.target_of_isPlain namespace_plain.path []) s

theorem deleteNamespace_mutations
    (hscope : Url.isPlain scope = true) (hname : scope.isEmpty = false) (s : Session σ) :
    ((deleteNamespace server scope).final s).mutations =
      s.mutations ++ [Namespace.type.all.deletion scope false] :=
  deleteObject_mutations hname
    (Url.target_of_isPlain (namespace_plain.objectPath hscope) []) s

theorem createClaim_mutations
    (hscope : Url.isPlain scope = true) (storageClass : Option String) (s : Session σ) :
    ((createClaim server scope storageClass).final s).mutations =
      s.mutations ++ [(Claim.type.within scope).creation (Manifest.claim storageClass)] :=
  createObject_mutations (Url.target_of_isPlain (claim_plain hscope).path []) s

theorem createPod_mutations (hscope : Url.isPlain scope = true) (s : Session σ) :
    ((createPod server scope).final s).mutations =
      s.mutations ++ [(Pod.type.within scope).creation Manifest.pod] :=
  createObject_mutations (Url.target_of_isPlain (pod_plain hscope).path []) s

theorem deletePod_mutations (hscope : Url.isPlain scope = true) (s : Session σ) :
    ((deletePod server scope).final s).mutations =
      s.mutations ++ [(Pod.type.within scope).deletion Manifest.probePod true] :=
  deleteObject_mutations (by decide)
    (Url.target_of_isPlain ((pod_plain hscope).objectPath (by decide)) []) s

theorem deleteClaim_mutations (hscope : Url.isPlain scope = true) (s : Session σ) :
    ((deleteClaim server scope).final s).mutations =
      s.mutations ++ [(Claim.type.within scope).deletion Manifest.probeClaim false] :=
  deleteObject_mutations (by decide)
    (Url.target_of_isPlain ((claim_plain hscope).objectPath (by decide)) []) s

/-- Of two actions the second sends what it does only when the first is done. -/
theorem bothDone_mutations
    {first second : Step σ ActionResult} {one two : Request}
    (hfirst : ∀ s, (first.final s).mutations = s.mutations ++ [one])
    (hsecond : ∀ s, (second.final s).mutations = s.mutations ++ [two]) (s : Session σ) :
    ((bothDone first second).final s).mutations =
      s.mutations ++ one :: if (first.value s).isOk then [two] else [] := by
  unfold bothDone
  rw [Run.final_bind]
  cases hvalue : first.value s with
  | ok _ =>
      simp only [Except.isOk, Except.toBool, if_true]
      rw [hsecond, hfirst, List.append_assoc]
      rfl
  | error e =>
      simp only [Except.isOk, Except.toBool, Bool.false_eq_true, if_false]
      exact hfirst s

end Actions

/-! ## The scenario -/

namespace Storage

theorem afterAction_mutations
    {action : Step σ ActionResult} {name : String} {checks : List (Check σ)}
    (hchecks : ∀ check ∈ checks, check.OnlyReads) (s : Session σ) :
    ((afterAction action name checks).final s).mutations = (action.final s).mutations := by
  refine Run.see_bind Session.mutations (fun result => ?_) s
  cases result with
  | ok _ => exact Check.runAll_reads hchecks
  | error e =>
      have hfail : OnlyReads (CheckReport.fail name e.message : Step σ CheckReport) :=
        Session.View.keeps_fail name e.message
      exact hfail.bind fun _ => Run.keeps_pure _ _

variable (c : Context σ) (poll gone : PollConfig)

theorem probeCreation_mutations (s : Session σ) :
    ((probeCreation c c.scratch poll).final s).mutations =
      s.mutations ++
        (Claim.type.within c.scratch).creation
            (Manifest.claim c.config.storage.storageClass) ::
          if ((createClaim c.server c.scratch c.config.storage.storageClass).value s).isOk then
            [(Pod.type.within c.scratch).creation Manifest.pod]
          else [] := by
  have hplain : Url.isPlain c.scratch = true := isPlain_scratchName _ _
  have hchecks : ∀ check ∈ [claimCheck c.server c.scratch poll,
      podCheck c.server c.scratch poll], check.OnlyReads := by
    intro check hcheck
    exact (creationChecks_readsOnce c.server c.scratch poll check hcheck).onlyReads
  unfold probeCreation
  rw [afterAction_mutations hchecks]
  exact bothDone_mutations (createClaim_mutations c.server hplain _)
    (createPod_mutations c.server hplain) s

theorem probeDeletion_mutations (s : Session σ) :
    ((probeDeletion c c.scratch poll).final s).mutations =
      s.mutations ++
        (Pod.type.within c.scratch).deletion Manifest.probePod true ::
          if ((deletePod c.server c.scratch).value s).isOk then
            [(Claim.type.within c.scratch).deletion Manifest.probeClaim false]
          else [] := by
  have hplain : Url.isPlain c.scratch = true := isPlain_scratchName _ _
  have hchecks : ∀ check ∈ [claimGoneCheck c.server c.scratch poll], check.OnlyReads := by
    intro check hcheck
    exact (deletionChecks_readsOnce c.server c.scratch poll check hcheck).onlyReads
  unfold probeDeletion
  rw [afterAction_mutations hchecks]
  exact bothDone_mutations (deletePod_mutations c.server hplain)
    (deleteClaim_mutations c.server hplain) s

theorem namespaceDeletion_mutations (s : Session σ) :
    ((namespaceDeletion c c.scratch gone).final s).mutations =
      s.mutations ++ [Namespace.type.all.deletion c.scratch false] := by
  have hplain : Url.isPlain c.scratch = true := isPlain_scratchName _ _
  have hname : c.scratch.isEmpty = false := scratchName_not_isEmpty _
  have hchecks : ∀ check ∈ [namespaceGoneCheck c.server c.scratch gone],
      check.OnlyReads := by
    intro check hcheck
    exact (removalChecks_readsOnce c.server c.scratch gone check hcheck).onlyReads
  unfold namespaceDeletion
  rw [afterAction_mutations hchecks]
  exact deleteNamespace_mutations c.server hplain hname s

/-- Whatever happens in the scratch namespace, its deletion is the last that is sent. -/
theorem inNamespace_mutations (s : Session σ) :
    ((inNamespace c c.scratch poll gone).final s).mutations =
      s.mutations ++
        requestsWithin c.scratch c.config.storage.storageClass
          ((createClaim c.server c.scratch c.config.storage.storageClass).value s).isOk
          ((deletePod c.server c.scratch).value
            ((probeCreation c c.scratch poll).final s)).isOk := by
  unfold inNamespace requestsWithin
  simp only [Run.final_bind, Run.final_pure, namespaceDeletion_mutations,
    probeDeletion_mutations, probeCreation_mutations, List.append_assoc, List.cons_append]

theorem run_bind [Horizon] (htiming : timing c.config = .ok (poll, gone)) :
    run c = Step.note (.storageStarted c.scratch) >>= fun _ =>
      createNamespace c.server c.scratch >>= afterNamespace c poll gone := by
  unfold run
  simp only [htiming]

theorem run_mutations [Horizon] (htiming : timing c.config = .ok (poll, gone)) (s : Session σ) :
    ((run c).final s).mutations = s.mutations ++ scenarioTrace c poll s := by
  have hcreated : (entered c s).mutations = s.mutations ++ [namespaceCreation c.scratch] :=
    createNamespace_mutations c.server c.scratch (begun c s)
  rw [run_bind c poll gone htiming, Run.final_bind, Run.final_bind]
  change ((afterNamespace c poll gone ((createNamespace c.server c.scratch).value
    (begun c s))).final (entered c s)).mutations = _
  unfold scenarioTrace
  cases hvalue : (createNamespace c.server c.scratch).value (begun c s) with
  | error e =>
      have hfail : OnlyReads (CheckReport.fail "storage-namespace-created" e.message :
          Step σ CheckReport) := Session.View.keeps_fail _ _
      have hrest : OnlyReads (afterNamespace c poll gone (.error e)) :=
        hfail.bind fun _ => Run.keeps_pure _ _
      simp only [Except.isOk, Except.toBool, Bool.false_eq_true, if_false]
      rw [← hcreated]
      exact hrest (entered c s)
  | ok done =>
      have hdone : Except.isOk (Except.ok done : ActionResult) = true := rfl
      simp only [hdone, if_true, afterNamespace, Run.final_bind, Run.final_pure]
      rw [inNamespace_mutations, hcreated, List.append_assoc, List.singleton_append]
      rfl

theorem runStorage_mutations [Horizon]
    (htiming : timing c.config = .ok (poll, gone)) (s : Session σ) :
    ((runStorage c).final s).mutations = s.mutations ++ trace c poll s := by
  unfold runStorage trace
  cases henabled : c.config.storage.enabled with
  | false => simp
  | true =>
      simp only [if_true, Bool.true_eq_false, false_or]
      unfold runUnlessCancelled
      rw [Run.final_bind, Step.value_cancelled, Step.final_cancelled]
      cases hcancelled : s.cancelled with
      | true =>
          simp only [if_true, List.append_nil]
          have hskip : OnlyReads (CheckReport.skip "storage" : Step σ CheckReport) :=
            Session.View.keeps_skip "storage"
          exact (hskip.bind fun _ => Run.keeps_pure _ _) s
      | false =>
          simp only [Bool.false_eq_true, if_false]
          exact run_mutations c poll gone htiming s

end Storage

/-! ## Where the requests go -/

theorem within_path
    {α : Type} {t : ResourceType α} (hgroup : t.id.group = "") (hversion : t.id.version = "v1")
    (scope : String) :
    (t.within scope).path = Namespace.type.all.objectPath scope ++ "/" ++ t.id.plural := by
  have hnamespace : Namespace.type.all.path = "/api/v1/namespaces" := by decide
  have hempty : "".isEmpty = true := by decide
  have happ : t.id.apiVersion = "v1" := by
    rw [ResourceId.apiVersion, hgroup, hversion, if_pos hempty]
  unfold Collection.objectPath
  rw [hnamespace]
  unfold Collection.path
  simp only [ResourceType.within, hgroup, happ, hempty, if_true]
  apply String.toList_inj.mp
  simp

theorem creation_within
    {α : Type} {t : ResourceType α} (hgroup : t.id.group = "") (hversion : t.id.version = "v1")
    (scope : String) (manifest : Json) :
    ((t.within scope).creation manifest).Within scope :=
  Or.inr ⟨t.id.plural, within_path hgroup hversion scope⟩

theorem deletion_within
    {α : Type} {t : ResourceType α} (hgroup : t.id.group = "") (hversion : t.id.version = "v1")
    (scope name : String) (immediate : Bool) :
    ((t.within scope).deletion name immediate).Within scope := by
  refine Or.inr ⟨t.id.plural ++ "/" ++ name, ?_⟩
  change (t.within scope).path ++ "/" ++ name = _
  rw [within_path hgroup hversion]
  simp only [String.append_assoc]

namespace Storage

theorem requestsWithin_within
    (scratch : String) (storageClass : Option String) (claimed podDeleted : Bool) :
    ∀ r ∈ requestsWithin scratch storageClass claimed podDeleted, r.Within scratch := by
  intro r hr
  simp only [requestsWithin, List.mem_cons, List.mem_append, List.mem_ite_nil_right,
    List.not_mem_nil, or_false] at hr
  rcases hr with rfl | ⟨-, rfl⟩ | rfl | ⟨-, rfl⟩ | rfl
  · exact creation_within rfl rfl scratch _
  · exact creation_within rfl rfl scratch _
  · exact deletion_within rfl rfl scratch _ _
  · exact deletion_within rfl rfl scratch _ _
  · exact Or.inl rfl

/-- After the creation of the namespace all requests are about it. -/
theorem trace_within (c : Context σ) (poll : PollConfig) (s : Session σ) :
    ∀ r ∈ (trace c poll s).tail, r.Within c.scratch := by
  intro r hr
  unfold trace at hr
  by_cases hidle : c.config.storage.enabled = false ∨ s.cancelled = true
  · rw [if_pos hidle] at hr
    cases hr
  · rw [if_neg hidle, scenarioTrace, List.tail_cons] at hr
    exact requestsWithin_within _ _ _ _ r (List.mem_ite_nil_right.mp hr).2

end Storage

/-- What a run changes in the cluster is the trace of its storage scenario. -/
theorem runSuite_mutations [Horizon] (c : Context σ) (s : Session σ)
    (hvalid : c.config.validate = .ok ()) :
    ∃ checks poll gone, standardChecks c.server c.config = .ok checks ∧
      Storage.timing c.config = .ok (poll, gone) ∧
      ((runSuite c).final s).mutations =
        s.mutations ++ Storage.trace c poll (c.afterBattery checks s) ∧
      ∀ r ∈ (Storage.trace c poll (c.afterBattery checks s)).tail, r.Within c.scratch := by
  have htimed := SuiteConfig.timed_of_validate hvalid
  obtain ⟨checks, hchecks⟩ := exists_standardChecks htimed c.server
  obtain ⟨poll, gone, htiming⟩ := Storage.exists_timing htimed
  refine ⟨checks, poll, gone, hchecks, htiming, ?_, Storage.trace_within c poll _⟩
  have hbattery : (c.afterBattery checks s).mutations = s.mutations :=
    Check.runAll_reads (fun check h => (standardChecks_readsOnce hchecks check h).onlyReads) _
  rw [← hbattery, ← Storage.runStorage_mutations c poll gone htiming]
  unfold runSuite
  simp only [hchecks]
  rw [Run.final_bind, Run.final_bind]
  refine Run.see_bind Session.mutations (fun stored => ?_) (c.afterBattery checks s)
  cases stored with
  | error fault => exact Run.keeps_pure _ _
  | ok reports => exact Run.keeps_pure _ _

/-- A cluster in which all is well: every list holds one object and every object that is asked for
exists, until something is deleted.  Its state is whether something was. -/
def healthyServer : Server Bool where
  answer request :=
    match request.method with
    | .get => do
      if ← Run.read (·.outside) then
        return .ok ⟨404, Text.Utf8.encode "\x7b\"code\":404\x7d"⟩
      else
        return .ok ⟨200, Text.Utf8.encode
          ("\x7b\"items\":[\x7b\"spec\":\x7b\"replicas\":0\x7d," ++
            "\"status\":\x7b\"phase\":\"Succeeded\"\x7d\x7d]," ++
            "\"status\":\x7b\"phase\":\"Bound\"," ++
              "\"conditions\":[\x7b\"type\":\"Available\",\"status\":\"True\"\x7d]\x7d\x7d")⟩
    | .post => return .ok ⟨201, Text.Utf8.encode "\x7b\x7d"⟩
    | .delete => do
      Run.move (fun w => { w with outside := true }) fun w => Clock.later_refl w.clock
      return .ok ⟨200, Text.Utf8.encode "\x7b\x7d"⟩

/-- The suite against this cluster, with a managed control plane and one worker at most. -/
def healthy : Context Bool where
  config := { provider := .eks, workers := { count := ⟨0, 1, by decide⟩ } }
  server := healthyServer
  stamp := ⟨1, 0⟩

/-- The start of a run that nothing cancels. -/
def healthyStart : Session Bool := ⟨⟨{}, false⟩, {}⟩

theorem healthy_mutations :
    healthy.config.validate = .ok () ∧
      ∃ checks poll gone, standardChecks healthy.server healthy.config = .ok checks ∧
        Storage.timing healthy.config = .ok (poll, gone) ∧
        ((runSuite healthy).final healthyStart).mutations =
          healthyStart.mutations ++
            Storage.trace healthy poll (healthy.afterBattery checks healthyStart) ∧
        ∀ r ∈ (Storage.trace healthy poll (healthy.afterBattery checks healthyStart)).tail,
          r.Within healthy.scratch := by
  have hvalid : healthy.config.validate = .ok () := rfl
  exact ⟨hvalid, runSuite_mutations healthy healthyStart hvalid⟩

end ClusterReady
