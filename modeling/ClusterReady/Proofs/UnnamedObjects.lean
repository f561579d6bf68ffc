import ClusterReady.Proofs.AttemptBound
import ClusterReady.Proofs.CheckNames
import ClusterReady.Proofs.FreshReads
import ClusterReady.Proofs.ReplyVerdicts

/-!
# Objects without a name

The client builds no request for an object whose name is empty.  A configuration that gives its
cluster object such a name is not valid, but one that lists a certificate without a name is.  The
check on this certificate fails at every attempt in the client's words, sends nothing, and is over
when its timeout is.  No other check ever fails in these words.
-/

namespace ClusterReady

variable {σ α : Type}

/-! ## Failures for want of a name -/

/-- Every evaluation fails at once because there is no name to ask for. -/
def Predicate.Nameless (p : Predicate σ) : Prop :=
  ∀ token, p.check token = pure (.error ClientError.unnamed.failure)

/-- No evaluation fails because of that. -/
def Predicate.Named (p : Predicate σ) : Prop :=
  ∀ token s, (p.check token).value s ≠ .error ClientError.unnamed.failure

theorem Status.exists_text (status : Status) : ∃ rest, status.text = "ApiError: " ++ rest := by
  unfold text
  simp only [String.append_assoc]
  exact ⟨_, rfl⟩

theorem ClientError.ne_unnamed_text
    {start rest : String} (h : ¬start.toList <+: unnamed.text.toList) :
    start ++ rest ≠ unnamed.text := by
  intro htext
  apply h
  rw [← htext, String.toList_append]
  exact List.prefix_append _ _

theorem ClientError.eq_unnamed_of_text {e : ClientError} (h : e.text = unnamed.text) :
    e = unnamed := by
  -- all texts but one begin with other words
  cases e with
  | unnamed => rfl
  | badTarget =>
      have hother : badTarget.text ≠ unnamed.text := by decide +kernel
      exact absurd h hother
  | transport reason => exact absurd h (ne_unnamed_text (by decide +kernel))
  | notText fault => exact absurd h (ne_unnamed_text (by decide +kernel))
  | refused status =>
      obtain ⟨rest, htext⟩ := status.exists_text
      exact absurd (htext.symm.trans h) (ne_unnamed_text (by decide +kernel))
  | notDecoded fault => exact absurd h (ne_unnamed_text (by decide +kernel))

theorem ClientError.eq_unnamed_of_failure {e : ClientError}
    (h : (.error e.failure : Verdict) = .error unnamed.failure) : e = unnamed := by
  injection h with hfailure
  injection hfailure with htext
  exact eq_unnamed_of_text htext

theorem Verdict.Sorts.answer_eq_unnamed
    {answer : Except ClientError α} {judge : α → Verdict} {missing : Status → Verdict}
    {v : Verdict} (h : Sorts answer judge missing v)
    (hmissing : ∀ status, missing status ≠ .error ClientError.unnamed.failure)
    (hv : v = .error ClientError.unnamed.failure) : answer = .error .unnamed := by
  cases hanswer : answer with
  | ok a =>
      obtain ⟨-, hjudged⟩ := h.judged a hanswer
      exact absurd hv (hjudged.not_read _)
  | error e =>
      by_cases hgone : ∃ status, e = .refused status ∧ status.code = 404
      · obtain ⟨status, rfl, hcode⟩ := hgone
        rw [h.absent status hanswer hcode] at hv
        exact absurd hv (hmissing status)
      · have hread := h.unread e hanswer fun status hstatus hcode => hgone ⟨status, hstatus, hcode⟩
        rw [ClientError.eq_unnamed_of_failure (hread.symm.trans hv)]

theorem Verdict.Sorts.named_of_list
    {server : Server σ} {c : Collection} {d : Json.Decoder α} {selector : String} {s : Session σ}
    {judge : ObjectList α → Verdict} {v : Verdict}
    (h : Sorts ((server.list c d selector).value s) judge
      (fun status => .error (.read status.text)) v) : v ≠ .error ClientError.unnamed.failure := by
  intro hv
  refine server.list_ne_unnamed c d selector s (h.answer_eq_unnamed ?_ hv)
  intro status hrefused
  have hunnamed : ClientError.refused status = .unnamed :=
    ClientError.eq_unnamed_of_failure hrefused
  cases hunnamed

theorem nodesReady_named (server : Server σ) (selector : String) (expected : CountRange) :
    (nodesReady server selector expected).Named :=
  fun token s => (nodesReady_sorts server token s selector expected).named_of_list

theorem workloadsReady_named
    (server : Server σ) (kind : WorkloadKind) (scope selector : String) :
    (workloadsReady server kind scope selector).Named :=
  fun token s => (workloadsReady_sorts server token s kind scope selector).named_of_list

theorem podsRunning_named (server : Server σ) (scope selector : String) :
    (podsRunning server scope selector).Named :=
  fun token s => (podsRunning_sorts server token s scope selector).named_of_list

theorem conditionStatus_named
    (server : Server σ) (target : Target) (scope : Option String) {name : String} (type : String)
    (hname : name ≠ "") : (conditionStatus server target scope name type).Named := by
  intro token s hv
  have hsorts := conditionStatus_sorts server token s target scope name type
  have hunnamed := hsorts.answer_eq_unnamed (fun _ hfound => by cases hfound) hv
  exact hname (server.get_unnamed_iff.mp hunnamed)

theorem conditionStatus_nameless
    (server : Server σ) (target : Target) (scope : Option String) (type : String) :
    (conditionStatus server target scope "" type).Nameless :=
  fun _ => rfl

/-! ## A check that has nothing to ask for -/

/-- What comes of a check that begins in `s`, waits with this timing and has no name to ask for: the
cluster is not asked anything, and all attempts that fit into the timeout are made before the check
gives up. -/
structure Check.InVain (check : Check σ) (config : PollConfig) (s : Session σ) : Prop where
  silent : check.sent s = []
  unpassed : ∀ summary, (check.run.value s).outcome ≠ .passed summary
  timedOut : (check.run.final s).cancelled = false →
    check.run.value s = ⟨check.name, .failed (WaitError.timedOut check.predicate.describe
      config.mostAttempts config.timeout ClientError.unnamed.failure).message⟩ ∧
    (check.run.final s).now = s.now + config.timeout.nanos

theorem Predicate.Nameless.evaluation
    {p : Predicate σ} (h : p.Nameless) (token : Token) (s : Session σ) :
    p.evaluation token s = ⟨s, .error ClientError.unnamed.failure, s⟩ := by
  unfold Predicate.evaluation
  rw [h token]
  rfl

/-- A poll that has no name to ask for times out at its deadline. -/
theorem Predicate.Nameless.timedOut
    {p : Predicate σ} (h : p.Nameless) {config : PollConfig} {s : Session σ}
    (hfree : ((pollUntil p config).final s).cancelled = false) :
    (pollUntil p config).value s = .error (.timedOut p.describe config.mostAttempts config.timeout
      ClientError.unnamed.failure) ∧
    ((pollUntil p config).final s).now = s.now + config.timeout.nanos := by
  have hrun := pollUntil_run p config s
  have heach : ∀ e ∈ pollCalls p config s,
      e.verdict = .error ClientError.unnamed.failure ∧ e.finish = e.start := by
    intro e he
    rw [(hrun.of_mem e he).1, h.evaluation]
    exact ⟨rfl, rfl⟩
  have hmet := boundMet_of_instant hfree fun e he =>
    ⟨Evaluation.failed_of_error (heach e he).1, (heach e he).2⟩
  obtain ⟨failure, hresult⟩ := hmet.timedOut
  cases hlast : (pollCalls p config s).getLast? with
  | none =>
      have hnil := hrun.eq_nil_iff.mp (List.getLast?_eq_none_iff.mp hlast)
      cases hresult.symm.trans (hrun.of_nil hnil).1
  | some e =>
      have hcall := hrun.lastCall hlast
      obtain ⟨⟨hv, -, hdue⟩, -, -, helapsed⟩ := (hcall.timedOut_iff _ _ _ _).mp hresult
      have hfailure := (heach e (List.mem_of_getLast? hlast)).1
      cases hv.symm.trans hfailure
      refine ⟨hresult, ?_⟩
      have hnanos := congrArg Duration.nanos helapsed
      rw [hcall.now_eq fun _ _ => .inr hdue]
      change config.timeout.nanos = e.finish - s.now at hnanos
      omega

theorem Check.inVain_of_nameless
    {check : Check σ} {config : PollConfig} (hstrategy : check.strategy = .poll config)
    (h : check.predicate.Nameless) (s : Session σ) : check.InVain config s := by
  have hdriven : check.driven = check.predicate := by
    rw [driven, hstrategy]
  constructor
  · have hadds : requestTrail.Adds check.run s
        ((check.evaluations s).flatMap requestTrail.of ++ []) := adds_run check s
    rw [sent, hadds.between_eq, List.append_nil, List.flatMap_eq_nil_iff]
    intro e he
    have heval := eq_evaluation_of_mem he
    rw [heval, h.evaluation]
    exact Session.Trail.between_eq (List.append_nil _).symm
  · intro summary hpassed
    obtain ⟨failed, last, hticks, hv, -⟩ := ticks_of_passed hpassed
    have hmem : last ∈ check.ticks s := by
      rw [hticks]
      exact List.mem_append_right _ List.mem_cons_self
    have heval := eq_driven_of_mem hmem
    rw [hdriven, h.evaluation] at heval
    rw [heval] at hv
    cases hv
  · intro hfree
    have hs := Clock.not_cancelled_of_le (check.run.le_final s).1 hfree
    obtain ⟨hreport, hworld⟩ := run_of_not_cancelled hs (c := check)
    have hwait : check.wait = pollUntil check.predicate config := by
      rw [wait, hstrategy]
    rw [hwait] at hreport hworld
    have hpoll : ((pollUntil check.predicate config).final (check.waiting s)).cancelled =
        false := by
      rw [Session.cancelled, ← hworld]
      exact hfree
    obtain ⟨hvalue, hnow⟩ := h.timedOut hpoll
    rw [hreport, hvalue, Session.now, hworld]
    exact ⟨rfl, hnow⟩

/-! ## The battery -/

theorem SuiteConfig.resourceName_of_validate [Horizon]
    {c : SuiteConfig} (h : c.validate = .ok ()) {r : ClusterResource}
    (hr : c.clusterResource = some r) : r.name ≠ "" := by
  intro hname
  unfold validate at h
  obtain ⟨-, -, h⟩ := exists_ok_of_bind h
  obtain ⟨-, -, h⟩ := exists_ok_of_bind h
  obtain ⟨-, -, h⟩ := exists_ok_of_bind h
  simp only [hr, hname] at h
  -- whatever comes of the other rules, the last one is broken
  split at h
  · obtain ⟨-, -, h⟩ := exists_ok_of_bind h
    split at h
    · cases h
    · cases h
  · split at h
    · cases h
    · split at h
      · cases h
      · cases h

theorem certificate_mem_standardChecks [Horizon]
    {server : Server σ} {c : SuiteConfig} {poll : PollConfig} {checks : List (Check σ)}
    (h : standardChecks server c = .ok checks) (hpoll : c.poll = .ok poll)
    {n : NamespacedName} (hn : n ∈ c.certificates) :
    Battery.certificate server (.poll poll) n ∈ checks := by
  obtain ⟨found, hfound, h⟩ := exists_ok_of_bind h
  cases hpoll.symm.trans hfound
  obtain ⟨steady, -, h⟩ := exists_ok_of_bind h
  obtain ⟨planes, -, h⟩ := exists_ok_of_bind h
  obtain ⟨pool, -, h⟩ := exists_ok_of_bind h
  cases h
  simp only [List.mem_append, List.mem_map]
  exact .inl (.inr ⟨n, hn, rfl⟩)

theorem Battery.certificate_named
    (server : Server σ) (strategy : Strategy) {n : NamespacedName} (hn : n.name ≠ "") :
    (certificate server strategy n).predicate.Named :=
  conditionStatus_named server _ _ _ hn

theorem Battery.certificate_nameless
    (server : Server σ) (strategy : Strategy) {n : NamespacedName} (hn : n.name = "") :
    (certificate server strategy n).predicate.Nameless := by
  unfold certificate
  rw [hn]
  exact conditionStatus_nameless server _ _ _

/-- Only the check on a certificate without a name can fail for want of one. -/
theorem standardChecks_named [Horizon]
    {server : Server σ} {c : SuiteConfig} {poll : PollConfig} {checks : List (Check σ)}
    (hvalid : c.validate = .ok ()) (h : standardChecks server c = .ok checks)
    (hpoll : c.poll = .ok poll) :
    ∀ check ∈ checks, check.predicate.Named ∨
      ∃ n ∈ c.certificates, n.name = "" ∧ check = Battery.certificate server (.poll poll) n := by
  intro check hcheck
  rcases mem_standardChecks h hpoll hcheck with ⟨selector, count, hnodes⟩ | ⟨_, kind, rfl⟩ |
    ⟨_, rfl⟩ | ⟨r, hr, rfl⟩ | ⟨n, hn, rfl⟩ | ⟨-, rfl⟩
  · rw [hnodes]
    exact .inl (nodesReady_named server selector count)
  · exact .inl (workloadsReady_named server kind _ _)
  · exact .inl (podsRunning_named server _ _)
  · exact .inl (conditionStatus_named server _ _ _ (c.resourceName_of_validate hvalid hr))
  · by_cases hname : n.name = ""
    · exact .inr ⟨n, hn, hname, rfl⟩
    · exact .inl (Battery.certificate_named server _ hname)
  · exact .inl (conditionStatus_named server _ _ _ (by decide))

/-- Which objects the checks of a configuration ask for without a name, where `poll` is the timing
of the polls.  Whichever certificates are listed, the configuration is valid; no check fails for
want of a name exactly when all of them have one. -/
structure AskedByName [Horizon] (server : Server σ) (c : SuiteConfig) (poll : PollConfig)
    (checks : List (Check σ)) : Prop where
  unheeded : ∀ certificates, { c with certificates }.validate = .ok ()
  resource : ∀ r, c.clusterResource = some r → r.name ≠ ""
  named : ∀ check ∈ checks, check.predicate.Named ∨
    ∃ n ∈ c.certificates, n.name = "" ∧ check = Battery.certificate server (.poll poll) n
  nameless : ∀ n ∈ c.certificates, n.name = "" →
    Battery.certificate server (.poll poll) n ∈ checks ∧
      ∀ s, (Battery.certificate server (.poll poll) n).InVain poll s
  named_iff : ∀ s : Session σ, (∀ check ∈ checks, ∀ token,
      (check.predicate.check token).value s ≠ .error ClientError.unnamed.failure) ↔
    ∀ n ∈ c.certificates, n.name ≠ ""

/-- A valid configuration has its checks, and those on certificates without a name are in vain. -/
theorem standardChecks_askedByName [Horizon]
    {c : SuiteConfig} (h : c.validate = .ok ()) (server : Server σ) :
    ∃ poll checks, c.poll = .ok poll ∧ standardChecks server c = .ok checks ∧
      AskedByName server c poll checks := by
  have htimed := SuiteConfig.timed_of_validate h
  obtain ⟨poll, hpoll⟩ := htimed.poll
  obtain ⟨checks, hchecks⟩ := exists_standardChecks htimed server
  have hnamed := standardChecks_named h hchecks hpoll
  refine ⟨poll, checks, hpoll, hchecks, fun _ => h, ?_, hnamed, ?_, ?_⟩
  · exact fun r hr => c.resourceName_of_validate h hr
  · intro n hn hname
    refine ⟨certificate_mem_standardChecks hchecks hpoll hn, fun s => ?_⟩
    exact Check.inVain_of_nameless rfl (Battery.certificate_nameless server _ hname) s
  · intro s
    constructor
    · intro hall n hn hname
      have hfails := Battery.certificate_nameless server (.poll poll) hname
      apply hall _ (certificate_mem_standardChecks hchecks hpoll hn) .run
      rw [hfails]
      rfl
    · intro hnames check hcheck token
      rcases hnamed check hcheck with hcan | ⟨n, hn, hname, -⟩
      · exact hcan token s
      · exact absurd hname (hnames n hn)

/-- The certificate of an ingress is listed by its name. -/
theorem ingress_askedByName :
    (withCertificates [⟨"kube-system", "ingress-tls"⟩]).validate = .ok () ∧
      ∃ checks, standardChecks healthyServer (withCertificates [⟨"kube-system", "ingress-tls"⟩]) =
          .ok checks ∧
        ∀ check ∈ checks, ∀ token, (check.predicate.check token).value healthyStart ≠
          .error ClientError.unnamed.failure := by
  have hvalid : (withCertificates [⟨"kube-system", "ingress-tls"⟩]).validate = .ok () := rfl
  obtain ⟨poll, checks, -, hchecks, hasked⟩ := standardChecks_askedByName hvalid healthyServer
  exact ⟨hvalid, checks, hchecks, (hasked.named_iff healthyStart).mpr (by decide)⟩

theorem nameless_inVain :
    (withCertificates [⟨"kube-system", ""⟩]).validate = .ok () ∧
      ∃ checks, standardChecks healthyServer (withCertificates [⟨"kube-system", ""⟩]) =
          .ok checks ∧
        ∃ check ∈ checks, check.sent healthyStart = [] ∧
          check.run.value healthyStart = ⟨"certificate-kube-system--ready", .failed
            ("timed out after 900s (91 attempts) waiting for " ++
              "Certificate kube-system/ Ready=True: read failed: Failed to build request: " ++
              "failed to validate request: A non-empty name is required")⟩ ∧
          (check.run.final healthyStart).now = (Duration.ofSecs 900).nanos := by
  have hvalid : (withCertificates [⟨"kube-system", ""⟩]).validate = .ok () := rfl
  have htimed := SuiteConfig.timed_of_validate hvalid
  obtain ⟨poll, hpoll⟩ := htimed.poll
  obtain ⟨checks, hchecks⟩ := exists_standardChecks htimed healthyServer
  have hmem : Battery.certificate healthyServer (.poll poll) ⟨"kube-system", ""⟩ ∈ checks :=
    certificate_mem_standardChecks hchecks hpoll List.mem_cons_self
  have hnameless : (Battery.certificate healthyServer (.poll poll)
      ⟨"kube-system", ""⟩).predicate.Nameless :=
    Battery.certificate_nameless healthyServer _ rfl
  have hvain : Check.InVain _ poll healthyStart := Check.inVain_of_nameless rfl hnameless _
  cases hpoll
  obtain ⟨hreport, hnow⟩ := hvain.timedOut (by decide +kernel)
  refine ⟨hvalid, checks, hchecks, _, hmem, hvain.silent, hreport.trans ?_, hnow⟩
  decide +kernel

end ClusterReady
