import ClusterReady.Proofs.Completeness
import ClusterReady.Proofs.Tally
import Mathlib.Data.List.Nodup

/-!
# The names of checks

A check is reported and measured under its name.  The name of the check on a certificate joins the
namespace and the name of the certificate with a hyphen, and both may have hyphens of their own.  So
two certificates share a name when their joined text is the same and is cut at different hyphens;
apart from that, and from a certificate that is listed twice, no two checks of a battery have the
same name.
-/

namespace ClusterReady

variable {σ : Type}

/-! ## Joined names -/

namespace NamespacedName

/-- The namespace and the name as the name of a check has them. -/
def joined (n : NamespacedName) : String := n.scope ++ "-" ++ n.name

/-- What is joined in `a` is cut at an earlier hyphen in `b`. -/
def CutEarlier (a b : NamespacedName) : Prop :=
  ∃ u v w, a = ⟨u ++ "-" ++ v, w⟩ ∧ b = ⟨u, v ++ "-" ++ w⟩

theorem CutEarlier.joined_eq {a b : NamespacedName} (h : a.CutEarlier b) :
    a.joined = b.joined := by
  obtain ⟨u, v, w, rfl, rfl⟩ := h
  simp only [joined, String.append_assoc]

theorem CutEarlier.scope_length_lt {a b : NamespacedName} (h : a.CutEarlier b) :
    b.scope.length < a.scope.length := by
  obtain ⟨u, v, w, rfl, rfl⟩ := h
  have hhyphen : "-".length = 1 := rfl
  simp only [String.length_append]
  omega

theorem CutEarlier.hyphens {a b : NamespacedName} (h : a.CutEarlier b) :
    '-' ∈ a.scope.toList ∧ '-' ∈ b.name.toList := by
  obtain ⟨u, v, w, rfl, rfl⟩ := h
  simp

/-- Two texts that are equal and cut at a hyphen each are cut at the same one, or the one that is
cut later has the other's hyphen in its first part. -/
theorem cut_cases {u v x y : List Char} (h : u ++ '-' :: v = x ++ '-' :: y) :
    (u = x ∧ v = y) ∨ (∃ m, u = x ++ '-' :: m ∧ y = m ++ '-' :: v) ∨
      ∃ m, x = u ++ '-' :: m ∧ v = m ++ '-' :: y := by
  rcases List.append_eq_append_iff.mp h with ⟨between, rfl, hv⟩ | ⟨between, rfl, hy⟩
  · rcases List.cons_eq_append_iff.mp hv with ⟨rfl, hsame⟩ | ⟨m, rfl, hrest⟩
    · exact .inl ⟨(List.append_nil u).symm, (List.cons.inj hsame).2.symm⟩
    · exact .inr (.inr ⟨m, rfl, hrest⟩)
  · rcases List.cons_eq_append_iff.mp hy with ⟨rfl, hsame⟩ | ⟨m, rfl, hrest⟩
    · exact .inl ⟨List.append_nil x, (List.cons.inj hsame).2⟩
    · exact .inr (.inl ⟨m, rfl, hrest⟩)

theorem toList_joined (n : NamespacedName) :
    n.joined.toList = n.scope.toList ++ '-' :: n.name.toList := by
  simp [joined]

theorem cutEarlier_of_toList {a b : NamespacedName} {m : List Char}
    (hscope : a.scope.toList = b.scope.toList ++ '-' :: m)
    (hname : b.name.toList = m ++ '-' :: a.name.toList) : a.CutEarlier b := by
  refine ⟨b.scope, String.ofList m, a.name, ?_, ?_⟩
  · have hcut : a.scope = b.scope ++ "-" ++ String.ofList m := by
      apply String.ext
      simp [hscope]
    rw [← hcut]
  · have hcut : b.name = String.ofList m ++ "-" ++ a.name := by
      apply String.ext
      simp [hname]
    rw [← hcut]

theorem joined_eq_iff {a b : NamespacedName} :
    a.joined = b.joined ↔ a = b ∨ a.CutEarlier b ∨ b.CutEarlier a := by
  constructor
  · intro h
    have htext := congrArg String.toList h
    rw [toList_joined, toList_joined] at htext
    rcases cut_cases htext with ⟨hscope, hname⟩ | ⟨m, hscope, hname⟩ | ⟨m, hscope, hname⟩
    · left
      obtain ⟨scope, name⟩ := a
      obtain ⟨scope', name'⟩ := b
      cases String.ext hscope
      cases String.ext hname
      rfl
    · exact .inr (.inl (cutEarlier_of_toList hscope hname))
    · exact .inr (.inr (cutEarlier_of_toList hscope hname))
  · rintro (rfl | h | h)
    · rfl
    · exact h.joined_eq
    · exact h.joined_eq.symm

theorem cutEarlier_iff {a b : NamespacedName} :
    a.CutEarlier b ↔ a.joined = b.joined ∧ b.scope.length < a.scope.length := by
  constructor
  · exact fun h => ⟨h.joined_eq, h.scope_length_lt⟩
  · rintro ⟨hjoined, hlonger⟩
    rcases joined_eq_iff.mp hjoined with rfl | hearlier | hlater
    · exact absurd hlonger (Nat.lt_irrefl _)
    · exact hearlier
    · exact absurd hlater.scope_length_lt (Nat.lt_asymm hlonger)

instance (a b : NamespacedName) : Decidable (a.CutEarlier b) :=
  decidable_of_iff _ cutEarlier_iff.symm

theorem nodup_joined_iff {l : List NamespacedName} :
    (l.map joined).Nodup ↔ l.Nodup ∧ ∀ a ∈ l, ∀ b ∈ l, ¬a.CutEarlier b := by
  constructor
  · intro h
    refine ⟨h.of_map, fun a ha b hb hcut => ?_⟩
    cases List.inj_on_of_nodup_map h ha hb hcut.joined_eq
    exact Nat.lt_irrefl _ hcut.scope_length_lt
  · rintro ⟨hnodup, hcut⟩
    apply hnodup.map_on
    intro a ha b hb hjoined
    rcases joined_eq_iff.mp hjoined with hsame | hearlier | hlater
    · exact hsame
    · exact absurd hearlier (hcut a ha b hb)
    · exact absurd hlater (hcut b hb a ha)

end NamespacedName

/-! ## The names of a battery -/

/-- The names of checks that are not on certificates. -/
def fixedNames : List String :=
  ["control-plane-nodes-ready", "worker-nodes-ready", "system-deployments-ready",
    "system-daemonsets-ready", "system-statefulsets-ready", "system-pods-running",
    "cluster-resource-ready", "metrics-api-available"]

/-- The name of the check on a certificate whose joined text is this one. -/
def certificateCheckName (joined : String) : String := "certificate-" ++ joined ++ "-ready"

theorem certificateCheckName_injective : Function.Injective certificateCheckName := by
  intro u v h
  exact (String.append_right_inj _).mp ((String.append_left_inj _).mp h)

theorem certificateCheckName_notMem_fixedNames (joined : String) :
    certificateCheckName joined ∉ fixedNames := by
  intro hmem
  have hstart : "certificate-".toList <+: (certificateCheckName joined).toList := by
    simp [certificateCheckName]
  have hother : ∀ name ∈ fixedNames, ¬"certificate-".toList <+: name.toList := by decide
  exact hother _ hmem hstart

namespace SuiteConfig

def otherNames (c : SuiteConfig) : List String :=
  (if c.provider ≠ .eks ∧ c.controlPlane.isSome then ["control-plane-nodes-ready"] else []) ++
    ["worker-nodes-ready", "system-deployments-ready", "system-daemonsets-ready",
      "system-statefulsets-ready", "system-pods-running"] ++
    (if c.clusterResource.isSome then ["cluster-resource-ready"] else []) ++
    (if c.metricsApi then ["metrics-api-available"] else [])

theorem otherNames_sublist (c : SuiteConfig) : c.otherNames.Sublist fixedNames := by
  have hsome : ∀ (p : Prop) [Decidable p] (name : String),
      (if p then [name] else []).Sublist [name] := by
    intro p _ name
    split
    · exact .refl _
    · exact List.nil_sublist _
  exact (((hsome _ _).append (.refl _)).append (hsome _ _)).append (hsome _ _)

theorem checkNames_perm (c : SuiteConfig) : c.checkNames.Perm
    ((c.certificates.map fun n => certificateCheckName n.joined) ++ c.otherNames) := by
  have hname : (fun n : NamespacedName => certificateCheckName n.joined) =
      fun n => "certificate-" ++ n.scope ++ "-" ++ n.name ++ "-ready" := by
    funext n
    simp only [certificateCheckName, NamespacedName.joined, String.append_assoc]
  unfold checkNames otherNames
  rw [hname, ← List.append_assoc]
  exact List.perm_append_comm.append_right _

theorem nodup_checkNames_iff {c : SuiteConfig} :
    c.checkNames.Nodup ↔ (c.certificates.map NamespacedName.joined).Nodup := by
  have hother : c.otherNames.Nodup := (by decide : fixedNames.Nodup).sublist c.otherNames_sublist
  rw [c.checkNames_perm.nodup_iff, List.nodup_append]
  have hmap : (c.certificates.map fun n => certificateCheckName n.joined) =
      (c.certificates.map NamespacedName.joined).map certificateCheckName := by
    rw [List.map_map]
    rfl
  rw [hmap, List.nodup_map_iff certificateCheckName_injective]
  constructor
  · exact fun h => h.1
  · intro h
    refine ⟨h, hother, ?_⟩
    -- no other check is named like one on a certificate
    rintro name hcertificate other hmem rfl
    obtain ⟨joined, -, rfl⟩ := List.mem_map.mp hcertificate
    exact certificateCheckName_notMem_fixedNames joined (c.otherNames_sublist.subset hmem)

end SuiteConfig

/-! ## Reports and series by name -/

def Check.measured (checks : List (Check σ)) (s : Session σ) : List Measurement :=
  measurementTrail.between s ((runAll checks).final s)

/-- What these checks leave under their names. -/
structure FiledByName (checks : List (Check σ)) (s : Session σ) : Prop where
  reports : ((Check.runAll checks).value s).map CheckReport.name = checks.map Check.name
  series : ∀ name, (Metrics.ofCheck (Check.measured checks s) name).length =
    (checks.map Check.name).count name

theorem Check.runAll_filedByName {checks : List (Check σ)} (h : ∀ c ∈ checks, c.ReadsOnce)
    (s : Session σ) : FiledByName checks s := by
  have hfiled := runAll_filed h s
  have hnames := names_turns checks s
  constructor
  · rw [hfiled.value_eq]
    exact hnames
  · intro name
    have hmeasured : measured checks s = (turns checks s).map Entry.measurement :=
      hfiled.measurements.between_eq
    have hchecks : (measured checks s).map Measurement.check = checks.map Check.name := by
      rw [hmeasured, ← hnames, List.map_map, List.map_map]
      exact List.map_congr_left fun e _ => e.check_measurement
    rw [Metrics.ofCheck, ← List.countP_eq_length_filter, ← hchecks, List.count, List.countP_map]
    rfl

/-- How the checks of a configuration are told apart by their names: `apart_iff` by the names
themselves, `plain` where hyphens stand on one side of the certificates only. -/
structure ToldApart (c : SuiteConfig) (checks : List (Check σ)) : Prop where
  distinct_iff : (checks.map Check.name).Nodup ↔
    c.certificates.Nodup ∧ ∀ a ∈ c.certificates, ∀ b ∈ c.certificates, ¬a.CutEarlier b
  plain : (∀ n ∈ c.certificates, '-' ∉ n.scope.toList) ∨
    (∀ n ∈ c.certificates, '-' ∉ n.name.toList) → c.certificates.Nodup →
    (checks.map Check.name).Nodup
  filed : ∀ s, FiledByName checks s
  apart_iff : ∀ s, (∀ name, (Metrics.ofCheck (Check.measured checks s) name).length ≤ 1) ↔
    (checks.map Check.name).Nodup

/-- A valid configuration has its checks, and it is known which of them share a name. -/
theorem standardChecks_toldApart [Horizon]
    {c : SuiteConfig} (h : c.validate = .ok ()) (server : Server σ) :
    ∃ checks, standardChecks server c = .ok checks ∧ ToldApart c checks := by
  obtain ⟨checks, hchecks⟩ := exists_standardChecks (SuiteConfig.timed_of_validate h) server
  have hdistinct : (checks.map Check.name).Nodup ↔
      c.certificates.Nodup ∧ ∀ a ∈ c.certificates, ∀ b ∈ c.certificates, ¬a.CutEarlier b := by
    rw [names_standardChecks hchecks, SuiteConfig.nodup_checkNames_iff,
      NamespacedName.nodup_joined_iff]
  have hfiled := Check.runAll_filedByName (standardChecks_readsOnce hchecks)
  refine ⟨checks, hchecks, hdistinct, ?_, hfiled, ?_⟩
  · intro hplain hnodup
    refine hdistinct.mpr ⟨hnodup, fun a ha b hb hcut => ?_⟩
    obtain ⟨hscope, hname⟩ := hcut.hyphens
    rcases hplain with hscopes | hnames
    · exact hscopes a ha hscope
    · exact hnames b hb hname
  · intro s
    rw [List.nodup_iff_count_le_one]
    simp only [(hfiled s).series]

/-- A configuration with these certificates, whose provider manages the control plane. -/
def withCertificates (certificates : List NamespacedName) : SuiteConfig :=
  { healthy.config with certificates }

/-- Hyphens on both sides do no harm as long as the joined texts are different. -/
theorem hyphenated_toldApart :
    (withCertificates [⟨"kube-system", "ingress-tls"⟩, ⟨"kube", "webhook-tls"⟩]).validate = .ok () ∧
      ∃ checks, standardChecks healthyServer
          (withCertificates [⟨"kube-system", "ingress-tls"⟩, ⟨"kube", "webhook-tls"⟩]) =
          .ok checks ∧
        (checks.map Check.name).Nodup := by
  have hvalid : (withCertificates
    [⟨"kube-system", "ingress-tls"⟩, ⟨"kube", "webhook-tls"⟩]).validate = .ok () := rfl
  obtain ⟨checks, hchecks, htold⟩ := standardChecks_toldApart hvalid healthyServer
  exact ⟨hvalid, checks, hchecks, htold.distinct_iff.mpr (by decide)⟩

/-- Two checks on different certificates share their name, and the measurements of both are made
under it. -/
theorem recut_sharesName :
    (withCertificates [⟨"a-b", "c"⟩, ⟨"a", "b-c"⟩]).validate = .ok () ∧
      (withCertificates [⟨"a-b", "c"⟩, ⟨"a", "b-c"⟩]).certificates.Nodup ∧
      ∃ checks, standardChecks healthyServer (withCertificates [⟨"a-b", "c"⟩, ⟨"a", "b-c"⟩]) =
          .ok checks ∧
        (checks.map fun check => check.predicate.describe).Nodup ∧
        ¬(checks.map Check.name).Nodup ∧
        (Metrics.ofCheck (Check.measured checks healthyStart)
          "certificate-a-b-c-ready").length = 2 := by
  have hvalid : (withCertificates [⟨"a-b", "c"⟩, ⟨"a", "b-c"⟩]).validate = .ok () := rfl
  obtain ⟨checks, hchecks⟩ :=
    exists_standardChecks (SuiteConfig.timed_of_validate hvalid) healthyServer
  have hnames := names_standardChecks hchecks
  have hseries := (Check.runAll_filedByName (standardChecks_readsOnce hchecks) healthyStart).series
  refine ⟨hvalid, by decide, checks, hchecks, ?_, ?_, ?_⟩
  · cases hchecks
    decide +kernel
  · rw [hnames]
    decide +kernel
  · rw [hseries, hnames]
    decide +kernel

end ClusterReady
