import ClusterReady.Config.Validate

/-!
# The rules of a configuration

The rules of a configuration have an order, and each has its words.  A configuration is valid
exactly when it keeps all of them, and what is said of one that is not are the words of the first
rule that it breaks.  A poll has three rules, whichever timeout it has: a tick takes time, the
timeout is not shorter than a tick, and the deadline is an instant of the machine.
-/

namespace ClusterReady

/-- A rule, with what is said where it is broken. -/
structure Rule where
  Kept : Prop
  words : String

/-- The first of the rules that is broken has these words. -/
inductive FirstBroken : List Rule → String → Prop
  | here {r : Rule} {rest : List Rule} (h : ¬r.Kept) : FirstBroken (r :: rest) r.words
  | later {r : Rule} {rest : List Rule} {words : String} (h : r.Kept)
      (hrest : FirstBroken rest words) : FirstBroken (r :: rest) words

namespace FirstBroken

variable {rules first second : List Rule} {words : String}

theorem not_kept (h : FirstBroken rules words) : ¬∀ r ∈ rules, r.Kept := by
  induction h with
  | here hbroken => exact fun hall => hbroken (hall _ List.mem_cons_self)
  | later _ _ ih => exact fun hall => ih fun r hr => hall r (List.mem_cons_of_mem _ hr)

theorem unique {others : String} (h : FirstBroken rules words) (h' : FirstBroken rules others) :
    words = others := by
  induction h with
  | here hbroken =>
      cases h' with
      | here => rfl
      | later hkept => exact absurd hkept hbroken
  | later hkept _ ih =>
      cases h' with
      | here hbroken => exact absurd hkept hbroken
      | later _ hrest => exact ih hrest

theorem append_left (h : FirstBroken first words) : FirstBroken (first ++ second) words := by
  induction h with
  | here hbroken => exact .here hbroken
  | later hkept _ ih => exact .later hkept ih

theorem append_right (hfirst : ∀ r ∈ first, r.Kept) (h : FirstBroken second words) :
    FirstBroken (first ++ second) words := by
  induction first with
  | nil => exact h
  | cons r rest ih =>
      refine .later (hfirst r List.mem_cons_self) (ih fun r hr => ?_)
      exact hfirst r (List.mem_cons_of_mem _ hr)

end FirstBroken

/-! ## Tests -/

/-- What a test answers that goes through the rules in their order, up to the first that is broken;
`say` gives the words of its faults. -/
inductive Tests {ε α : Type} (say : ε → String) : Except ε α → List Rule → Prop
  | passed {a : α} {rules : List Rule} (h : ∀ r ∈ rules, r.Kept) : Tests say (.ok a) rules
  | refused {e : ε} {rules : List Rule} (h : FirstBroken rules (say e)) : Tests say (.error e) rules

namespace Tests

variable {ε ε' α β : Type} {say : ε → String} {x : Except ε α} {r : Rule} {rules : List Rule}

theorem exists_ok_iff (h : Tests say x rules) : (∃ a, x = .ok a) ↔ ∀ r ∈ rules, r.Kept := by
  cases h with
  | passed hall => exact ⟨fun _ => hall, fun _ => ⟨_, rfl⟩⟩
  | refused hfirst =>
      refine ⟨?_, fun hall => absurd hall hfirst.not_kept⟩
      rintro ⟨a, hok⟩
      cases hok

theorem exists_error_iff (h : Tests say x rules) (words : String) :
    (∃ e, x = .error e ∧ say e = words) ↔ FirstBroken rules words := by
  cases h with
  | passed hall =>
      refine ⟨?_, fun hfirst => absurd hall hfirst.not_kept⟩
      rintro ⟨e, herror, -⟩
      cases herror
  | refused hfirst =>
      constructor
      · rintro ⟨e, herror, rfl⟩
        cases herror
        exact hfirst
      · exact fun h => ⟨_, rfl, hfirst.unique h⟩

theorem nil (a : α) : Tests say (.ok a) [] := .passed fun _ hr => absurd hr List.not_mem_nil

theorem cons (hkept : r.Kept → Tests say x rules)
    (hbroken : ¬r.Kept → ∃ e, x = .error e ∧ say e = r.words) : Tests say x (r :: rules) := by
  by_cases hr : r.Kept
  · cases hkept hr with
    | passed hall => exact .passed (List.forall_mem_cons.mpr ⟨hr, hall⟩)
    | refused hfirst => exact .refused (.later hr hfirst)
  · obtain ⟨e, rfl, hwords⟩ := hbroken hr
    exact .refused (hwords ▸ .here hr)

theorem bind {f : α → Except ε β} {second : List Rule} (h : Tests say x rules)
    (hf : ∀ a, Tests say (f a) second) : Tests say (x >>= f) (rules ++ second) := by
  cases h with
  | refused hfirst => exact .refused hfirst.append_left
  | @passed a _ hall =>
      change Tests say (f a) (rules ++ second)
      cases hcase : f a with
      | ok b =>
          have hsecond := (hf a).exists_ok_iff.mp ⟨b, hcase⟩
          exact .passed (List.forall_mem_append.mpr ⟨hall, hsecond⟩)
      | error e =>
          have hsecond := ((hf a).exists_error_iff (say e)).mp ⟨e, hcase, rfl⟩
          exact .refused (.append_right hall hsecond)

theorem mapError {f : ε → ε'} {say : ε' → String} (h : Tests (fun e => say (f e)) x rules) :
    Tests say (x.mapError f) rules := by
  cases h with
  | passed hall => exact .passed hall
  | refused hfirst => exact .refused hfirst

end Tests

/-! ## The timing of a wait -/

/-- A whole number of seconds as it is written. -/
def secsText (n : UInt64) : String := if n = 0 then "0ns" else toString n.toNat ++ "s"

theorem Duration.text_ofSecs (n : UInt64) : (Duration.ofSecs n.toNat).text = secsText n := by
  unfold text secsText ofSecs
  by_cases hn : n = 0
  · subst hn
    decide +kernel
  · have hpos : 0 < n.toNat := Nat.pos_of_ne_zero fun h => hn (UInt64.toNat_inj.mp h)
    have hlarge : 1000000000 ≤ 1000000000 * n.toNat := Nat.le_mul_of_pos_right _ hpos
    have hunit : (1000000000 : Nat) = Nat.pow 10 9 := rfl
    rw [if_pos hlarge, if_neg hn, inUnit]
    simp only [hunit, Nat.mul_mod_right, if_true]
    rw [Nat.mul_div_cancel_left _ (by decide)]

/-- The words of a rule on the timing of a wait. -/
def waitWords (detail : String) : String := "invalid wait configuration: " ++ detail

/-- The rule of a condition that has to hold so often in a row. -/
def steadyRule (required : UInt32) : Rule :=
  ⟨1 ≤ required, waitWords "required consecutive successes must be at least 1"⟩

theorem InvalidConfig.message_belowInterval (timeout interval : Duration) :
    (wait (.timeoutBelowInterval timeout interval)).message =
      waitWords
        ("poll timeout " ++ timeout.text ++ " is shorter than interval " ++ interval.text) :=
  rfl

theorem InvalidConfig.message_tooLarge (timeout : Duration) :
    (wait (.timeoutTooLarge timeout)).message =
      waitWords ("poll timeout " ++ timeout.text ++ " is too large") := rfl

theorem ConsistencyConfig.make_tests (required : UInt32) (delay : Duration) :
    Tests (fun fault => (InvalidConfig.wait fault).message) (make required.toNat delay)
      [steadyRule required] := by
  have hpos : 1 ≤ required ↔ 0 < required.toNat := UInt32.le_iff_toNat_le
  unfold make
  refine .cons (fun hkept => ?_) fun hbroken => ?_
  · rw [dif_pos (hpos.mp hkept)]
    exact .nil _
  · rw [dif_neg (mt hpos.mpr hbroken)]
    exact ⟨_, rfl, rfl⟩

section Horizon

variable [Horizon]

/-- The instant so many seconds from now is one of the machine. -/
def Representable (secs : UInt64) : Prop := Horizon.fits (.ofSecs secs.toNat) = true

/-- The rules of a poll with this timeout and this interval, in seconds. -/
def pollRules (timeout interval : UInt64) : List Rule := [
  ⟨0 < interval, waitWords "poll interval must be greater than zero"⟩,
  ⟨interval ≤ timeout, waitWords ("poll timeout " ++ secsText timeout ++
    " is shorter than interval " ++ secsText interval)⟩,
  ⟨Representable timeout, waitWords ("poll timeout " ++ secsText timeout ++ " is too large")⟩]

theorem PollConfig.make_tests (timeout interval : UInt64) :
    Tests (fun fault => (InvalidConfig.wait fault).message)
      (make (.ofSecs timeout.toNat) (.ofSecs interval.toNat)) (pollRules timeout interval) := by
  have hpos : 0 < interval ↔ 0 < (Duration.ofSecs interval.toNat).nanos := by
    rw [UInt64.lt_iff_toNat_lt]
    exact (Nat.mul_pos_iff_of_pos_left (by decide)).symm
  have hle : interval ≤ timeout ↔
      (Duration.ofSecs interval.toNat).nanos ≤ (Duration.ofSecs timeout.toNat).nanos := by
    rw [UInt64.le_iff_toNat_le]
    exact (Nat.mul_le_mul_left_iff (by decide)).symm
  have hrep : Representable timeout ↔ Horizon.fits (.ofSecs timeout.toNat) = true := Iff.rfl
  unfold make
  refine .cons (fun hkept => ?_) fun hbroken => ?_
  · rw [dif_pos (hpos.mp hkept)]
    refine .cons (fun hkept => ?_) fun hbroken => ?_
    · rw [dif_pos (hle.mp hkept)]
      refine .cons (fun hkept => ?_) fun hbroken => ?_
      · rw [if_pos (hrep.mp hkept)]
        exact .nil _
      · rw [if_neg (mt hrep.mpr hbroken)]
        refine ⟨_, rfl, ?_⟩
        rw [InvalidConfig.message_tooLarge, Duration.text_ofSecs]
    · rw [dif_neg (mt hle.mpr hbroken)]
      refine ⟨_, rfl, ?_⟩
      rw [InvalidConfig.message_belowInterval, Duration.text_ofSecs, Duration.text_ofSecs]
  · rw [dif_neg (mt hpos.mpr hbroken)]
    exact ⟨_, rfl, rfl⟩

/-! ## Configurations -/

namespace SuiteConfig

variable (c : SuiteConfig)

omit [Horizon] in
theorem names_tests : Tests InvalidConfig.message
    (if c.systemNamespace.isEmpty = true then .error .systemNamespaceEmpty
    else match c.clusterResource with
      | some r => if r.name.isEmpty = true then .error .resourceNameEmpty else pure ()
      | none => pure ())
    [⟨c.systemNamespace ≠ "", "systemNamespace must not be empty"⟩,
      ⟨∀ r, c.clusterResource = some r → r.name ≠ "",
        "clusterResource.name must not be empty"⟩] := by
  refine .cons (fun hkept => ?_) fun hbroken => ?_
  · rw [if_neg (mt String.isEmpty_iff.mp hkept)]
    refine .cons (fun hkept => ?_) fun hbroken => ?_
    · cases hresource : c.clusterResource with
      | none => exact .nil _
      | some r =>
          simp only [if_neg (mt String.isEmpty_iff.mp (hkept r hresource))]
          exact .nil _
    · obtain ⟨r, hresource, hname⟩ : ∃ r, c.clusterResource = some r ∧ r.name = "" := by
        simpa using hbroken
      simp only [hresource, if_pos (String.isEmpty_iff.mpr hname)]
      exact ⟨_, rfl, rfl⟩
  · rw [if_pos (String.isEmpty_iff.mpr (Decidable.not_not.mp hbroken))]
    exact ⟨_, rfl, rfl⟩

/-- The timeout of a pool: its own, or the general one. -/
def timeoutOf (pool : NodePool) : UInt64 := pool.timeoutSecs.getD c.polling.timeoutSecs

/-- The control plane is described where its nodes are registered, and its poll has the same rules
wherever it is described. -/
def controlPlaneRules : List Rule :=
  match c.controlPlane with
  | some pool => pollRules (c.timeoutOf pool) c.polling.intervalSecs
  | none => [⟨c.provider = .eks, "controlPlane is required for provider " ++ c.provider.name⟩]

/-- The rules of a configuration in their order. -/
def rules : List Rule :=
  pollRules c.polling.timeoutSecs c.polling.intervalSecs ++
    ([steadyRule c.consistency.requiredSuccesses] ++
      (pollRules (c.timeoutOf c.workers) c.polling.intervalSecs ++
        (c.controlPlaneRules ++
          [⟨c.systemNamespace ≠ "", "systemNamespace must not be empty"⟩,
            ⟨∀ r, c.clusterResource = some r → r.name ≠ "",
              "clusterResource.name must not be empty"⟩])))

def Affords (timeout : UInt64) : Prop :=
  c.polling.intervalSecs ≤ timeout ∧ Representable timeout

/-- What a configuration has to be like. -/
structure Valid : Prop where
  interval : 0 < c.polling.intervalSecs
  polling : c.Affords c.polling.timeoutSecs
  steady : 1 ≤ c.consistency.requiredSuccesses
  workers : c.Affords (c.timeoutOf c.workers)
  described : c.provider = .eks ∨ c.controlPlane.isSome
  controlPlane : ∀ pool, c.controlPlane = some pool → c.Affords (c.timeoutOf pool)
  systemNamespace : c.systemNamespace ≠ ""
  resource : ∀ r, c.clusterResource = some r → r.name ≠ ""

theorem valid_iff : c.Valid ↔ ∀ r ∈ c.rules, r.Kept := by
  have hpoll (timeout : UInt64) : (∀ r ∈ pollRules timeout c.polling.intervalSecs, r.Kept) ↔
      0 < c.polling.intervalSecs ∧ c.Affords timeout := by
    simp [pollRules, Affords]
  have hplane : (∀ r ∈ c.controlPlaneRules, r.Kept) ↔
      (c.provider = .eks ∨ c.controlPlane.isSome) ∧ ∀ pool, c.controlPlane = some pool →
        0 < c.polling.intervalSecs ∧ c.Affords (c.timeoutOf pool) := by
    unfold controlPlaneRules
    cases c.controlPlane with
    | none => simp
    | some pool => simp [hpoll]
  have hrules : (∀ r ∈ c.rules, r.Kept) ↔
      (0 < c.polling.intervalSecs ∧ c.Affords c.polling.timeoutSecs) ∧
      1 ≤ c.consistency.requiredSuccesses ∧
      (0 < c.polling.intervalSecs ∧ c.Affords (c.timeoutOf c.workers)) ∧
      ((c.provider = .eks ∨ c.controlPlane.isSome) ∧ ∀ pool, c.controlPlane = some pool →
        0 < c.polling.intervalSecs ∧ c.Affords (c.timeoutOf pool)) ∧
      c.systemNamespace ≠ "" ∧ ∀ r, c.clusterResource = some r → r.name ≠ "" := by
    simp only [rules, List.forall_mem_append, hpoll, hplane, List.forall_mem_singleton,
      List.forall_mem_cons, steadyRule]
  rw [hrules]
  constructor
  · intro h
    exact ⟨⟨h.interval, h.polling⟩, h.steady, ⟨h.interval, h.workers⟩,
      ⟨h.described, fun pool hpool => ⟨h.interval, h.controlPlane pool hpool⟩⟩,
      h.systemNamespace, h.resource⟩
  · rintro ⟨⟨hinterval, hpolling⟩, hsteady, ⟨-, hworkers⟩, ⟨hdescribed, hplane⟩, hspace, hresource⟩
    exact ⟨hinterval, hpolling, hsteady, hworkers, hdescribed, fun pool h => (hplane pool h).2,
      hspace, hresource⟩

theorem poolPoll_tests (pool : NodePool) :
    Tests InvalidConfig.message (c.poolPoll pool)
      (pollRules (c.timeoutOf pool) c.polling.intervalSecs) :=
  (PollConfig.make_tests _ _).mapError

theorem validate_tests : Tests InvalidConfig.message c.validate c.rules := by
  unfold validate rules
  refine (PollConfig.make_tests _ _).mapError.bind fun _ => ?_
  refine (ConsistencyConfig.make_tests _ _).mapError.bind fun _ => ?_
  refine (c.poolPoll_tests c.workers).bind fun _ => ?_
  unfold controlPlaneRules
  cases c.controlPlane with
  | some pool => exact (c.poolPoll_tests pool).bind fun _ => c.names_tests
  | none =>
      simp only [List.singleton_append]
      refine .cons (fun hkept => ?_) fun hbroken => ?_
      · rw [if_neg (mt Provider.hasVisibleControlPlane_iff.mp fun hvisible => hvisible hkept)]
        exact c.names_tests
      · rw [if_pos (Provider.hasVisibleControlPlane_iff.mpr hbroken)]
        exact ⟨_, rfl, rfl⟩

end SuiteConfig

/-- What becomes of a configuration that is checked. -/
structure Ruled (c : SuiteConfig) : Prop where
  ok_iff : c.validate = .ok () ↔ c.Valid
  error_iff : ∀ words, (∃ fault, c.validate = .error fault ∧
      (ConfigError.invalid fault).message = "invalid config: " ++ words) ↔
    FirstBroken c.rules words
  loaded : ∀ text tree, Yaml.Node.read text = .ok tree → SuiteConfig.decoder "" tree = .ok c →
    SuiteConfig.ofYaml text = (c.validate.mapError ConfigError.invalid).map fun _ => c

/-- A configuration is checked by its rules. -/
theorem SuiteConfig.validate_ruled (c : SuiteConfig) : Ruled c := by
  constructor
  · rw [c.valid_iff, ← c.validate_tests.exists_ok_iff]
    exact ⟨fun h => ⟨(), h⟩, fun ⟨(), h⟩ => h⟩
  · intro words
    rw [← c.validate_tests.exists_error_iff]
    have hwords (fault : InvalidConfig) :
        (ConfigError.invalid fault).message = "invalid config: " ++ words ↔
          fault.message = words := String.append_right_inj _
    simp only [hwords]
  · intro text tree hread hdecoded
    unfold ofYaml
    rw [hread]
    change ((decoder "" tree).mapError ConfigError.decode >>= fun config =>
      config.validate.mapError ConfigError.invalid >>= fun _ => pure config) = _
    rw [hdecoded]
    change (c.validate.mapError ConfigError.invalid >>= fun _ => pure c) = _
    cases c.validate with
    | ok a => rfl
    | error fault => rfl

end Horizon

-- A pool with a timeout of its own shares the interval of all polls.  The control plane that is
-- missing, too, and the namespace without a name come later.
example :
    let c : SuiteConfig :=
      { provider := .azure, workers := { count := .exact 3, timeoutSecs := some 5 },
        systemNamespace := "" }
    c.validate.mapError InvalidConfig.message = .error
      "invalid wait configuration: poll timeout 5s is shorter than interval 10s" := rfl

end ClusterReady
