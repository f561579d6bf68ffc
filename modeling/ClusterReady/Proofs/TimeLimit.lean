import ClusterReady.Proofs.Ledger
import Mathlib.Algebra.Ring.Nat

/-!
# How long a step takes

A step takes at most so many nanoseconds, wherever it starts, and one step after the other takes at
most the sum.  When a server answers within a span, an evaluation that reads once takes that span at
most.  A poll is over one evaluation after its deadline: an evaluation that starts at the deadline
is the last one, and no sleep goes beyond it.
-/

namespace ClusterReady

variable {σ α β : Type}

/-- The step takes at most so many nanoseconds. -/
def Step.Takes (m : Step σ α) (nanos : Nat) : Prop :=
  ∀ s, (m.final s).now ≤ s.now + nanos

namespace Step.Takes

variable {m : Step σ α} {f : α → Step σ β} {a b : Nat}

theorem mono (h : Takes m a) (hab : a ≤ b) : Takes m b := by
  intro s
  have hfinal := h s
  omega

theorem of_zero (h : Takes m 0) : Takes m b := h.mono (Nat.zero_le b)

theorem bind (hm : Takes m a) (hf : ∀ x, Takes (f x) b) : Takes (m >>= f) (a + b) := by
  intro s
  have hfirst := hm s
  have hsecond := hf (m.value s) (m.final s)
  rw [Run.final_bind]
  omega

theorem after (hm : Takes m 0) (hf : ∀ x, Takes (f x) b) : Takes (m >>= f) b := by
  have hall := hm.bind hf
  rw [Nat.zero_add] at hall
  exact hall

theorem before (hm : Takes m a) (hf : ∀ x, Takes (f x) 0) : Takes (m >>= f) a :=
  hm.bind hf

theorem pure (x : α) : Takes (Pure.pure x : Step σ α) 0 := fun _ => Nat.le_refl _

theorem now : Takes (Step.now : Step σ Nat) 0 := fun _ => Nat.le_refl _

theorem cancelled : Takes (Step.cancelled : Step σ Bool) 0 := fun _ => Nat.le_refl _

theorem note (e : Event) : Takes (Step.note e : Step σ Unit) 0 := fun _ => Nat.le_refl _

theorem measure (x : Measurement) : Takes (Step.measure x : Step σ Unit) 0 :=
  fun _ => Nat.le_refl _

theorem of_tells {n : Step σ β} (h : Takes m a) (htells : ∀ s, (m.final s).Tells (n.final s)) :
    Takes n a := by
  intro s
  rw [Session.now, (htells s).world_eq]
  exact h s

end Step.Takes

open Step (Takes)

/-! ## The client -/

/-- The server answers every request within so many nanoseconds, by a reply or by a failure. -/
def Server.AnswersWithin (server : Server σ) (span : Nat) : Prop :=
  ∀ (r : Request) (w : World σ), ((server.answer r).final w).clock.now ≤ w.clock.now + span

namespace Server.AnswersWithin

variable {server : Server σ} {span : Nat}

theorem exchange
    (h : server.AnswersWithin span) (method : Method) (path : String)
    (query : List (String × String)) (body : Option Json) :
    Takes (server.exchange method path query body) span := by
  intro s
  rw [server.final_exchange]
  cases Server.requestOf method path query body with
  | none => exact Nat.le_add_right _ _
  | some r => exact h r s.world

theorem get
    (h : server.AnswersWithin span) (c : Collection) (d : Json.Decoder α) (name : String) :
    Takes (server.get c d name) span := by
  unfold Server.get
  by_cases hname : name.isEmpty = true
  · rw [if_pos hname]
    exact Takes.of_zero (Takes.pure _)
  · rw [if_neg hname]
    exact (h.exchange _ _ _ _).before fun _ => Takes.pure _

theorem list
    (h : server.AnswersWithin span) (c : Collection) (d : Json.Decoder α) (selector : String) :
    Takes (server.list c d selector) span :=
  (h.exchange _ _ _ _).before fun _ => Takes.pure _

theorem createObject
    (h : server.AnswersWithin span) (t : ResourceType α) (scope : Option String) (manifest : Json)
    (action : String) : Takes (createObject server t scope manifest action) span := by
  have hcreate : Takes (server.create ⟨t.id, scope⟩ t.decoder manifest) span :=
    (h.exchange _ _ _ _).before fun _ => Takes.pure _
  exact hcreate.of_tells fun s => createObject_tells server s _ _ _ _

theorem delete
    (h : server.AnswersWithin span) (c : Collection) (d : Json.Decoder α) (name : String)
    (immediate : Bool) : Takes (server.delete c d name immediate) span := by
  intro s
  rw [final_delete]
  by_cases hname : name.isEmpty = true
  · rw [if_pos hname]
    exact Nat.le_add_right _ _
  · rw [if_neg hname]
    exact h.exchange _ _ _ _ s

theorem deleteObject
    (h : server.AnswersWithin span) (t : ResourceType α) (scope : Option String) (name : String)
    (immediate : Bool) (action : String) :
    Takes (deleteObject server t scope name immediate action) span :=
  (h.delete _ _ _ _).of_tells fun s => deleteObject_tells server s _ _ _ _ _

theorem lookup
    (h : server.AnswersWithin span) {p : Predicate σ} {read : Option Request}
    (hp : Lookup server p read) (token : Token) : Takes (p.check token) span := by
  cases hp with
  | nodes _ _ => exact (h.list _ _ _).before fun _ => Takes.pure _
  | workloads _ _ _ => exact (h.list _ _ _).before fun _ => Takes.pure _
  | pods _ _ => exact (h.list _ _ _).before fun _ => Takes.pure _
  | condition _ _ _ _ => exact (h.get _ _ _).before fun _ => Takes.pure _
  | claim _ _ => exact (h.get _ _ _).before fun _ => Takes.pure _
  | deletion _ _ _ _ _ => exact (h.get _ _ _).before fun _ => Takes.pure _

end Server.AnswersWithin

theorem bothDone_takes
    {first second : Step σ ActionResult} {a b : Nat} (hfirst : Takes first a)
    (hsecond : Takes second b) : Takes (bothDone first second) (a + b) := by
  refine hfirst.bind fun answer => ?_
  cases answer with
  | ok _ => exact hsecond
  | error e => exact Takes.of_zero (Takes.pure _)

section Actions

variable {server : Server σ} {span : Nat} (h : server.AnswersWithin span) (scope : String)

include h

theorem createNamespace_takes : Takes (createNamespace server scope) span :=
  h.createObject _ _ _ _

theorem deleteNamespace_takes : Takes (deleteNamespace server scope) span :=
  h.deleteObject _ _ _ _ _

theorem createProbe_takes (storageClass : Option String) :
    Takes (createProbe server scope storageClass) (span + span) :=
  bothDone_takes (h.createObject _ _ _ _) (h.createObject _ _ _ _)

theorem deleteProbe_takes : Takes (deleteProbe server scope) (span + span) :=
  bothDone_takes (h.deleteObject _ _ _ _ _) (h.deleteObject _ _ _ _ _)

end Actions

/-! ## Loops -/

/-- A pass that starts by the deadline ends one evaluation after it, and by the deadline when
another pass follows. -/
theorem Tick.Pass.now_le
    {p : Predicate σ} {config : PollConfig} {start attempts : Nat}
    {last : Option CheckFailure} {s t : Session σ} {tick : Tick} {span : Nat}
    (h : Tick.Pass p config start attempts last s tick t) (hp : Takes (p.check .run) span)
    (hs : s.now ≤ start + config.timeout.nanos) :
    t.now ≤ start + config.timeout.nanos + span ∧
      (∀ failure, tick = .again failure → t.now ≤ start + config.timeout.nanos) := by
  have hfinish : (p.evaluation .run s).finish ≤ s.now + span := hp s
  have hagain : ∀ failure, tick = .again failure → t.now ≤ start + config.timeout.nanos := by
    rintro failure rfl
    obtain ⟨-, -, -, hdue, -, hnow⟩ := h.again_spec
    omega
  refine ⟨?_, hagain⟩
  cases h with
  | unstarted _ =>
      rw [Session.now_note]
      omega
  | met _ _ =>
      rw [Session.now_note, ← Evaluation.finish]
      omega
  | cancelledInCall failure _ _ _ =>
      rw [Session.now_note, Tick.told, Session.now_note, ← Evaluation.finish]
      omega
  | expired failure _ _ _ _ =>
      rw [Session.now_note, Tick.told, Session.now_note, ← Evaluation.finish]
      omega
  | cancelledAsleep failure c _ _ hdue _ hlater hwake =>
      have hnow : max (p.evaluation .run s).finish c ≤
          start + config.timeout.nanos + span := by omega
      exact hnow
  | again failure _ _ _ _ =>
      exact Nat.le_trans (hagain failure rfl) (Nat.le_add_right _ _)

/-- A loop that starts by its deadline is over one evaluation after it. -/
theorem PollRun.now_le
    {p : Predicate σ} {config : PollConfig} {start attempts : Nat}
    {last : Option CheckFailure} {s t : Session σ} {calls : List (Evaluation σ)}
    {result : PollResult} {span : Nat}
    (h : PollRun p config start attempts last s calls result t) (hp : Takes (p.check .run) span)
    (hs : s.now ≤ start + config.timeout.nanos) :
    t.now ≤ start + config.timeout.nanos + span := by
  induction h with
  | stop hpass => exact (hpass.now_le hp hs).1
  | next hpass _ ih => exact ih ((hpass.now_le hp hs).2 _ rfl)

theorem pollUntil_takes
    {p : Predicate σ} {span : Nat} (hp : Takes (p.check .run) span) (config : PollConfig) :
    Takes (pollUntil p config) (config.timeout.nanos + span) := by
  intro s
  have hrun := pollUntil_run p config s
  have hnow := hrun.now_le hp (Nat.le_add_right s.now _)
  rw [Nat.add_assoc] at hnow
  exact hnow

theorem Token.now_doze_le (token : Token) (wake : Nat) (s : Session σ) :
    ((token.doze wake).final s).now ≤ max s.now wake := by
  cases token with
  | idle => exact Nat.le_refl _
  | run =>
      have hdoze : ((Token.run.doze wake).final s).now = (s.world.clock.doze wake).2.now := rfl
      rw [hdoze]
      unfold Clock.doze
      cases s.world.clock.cancelAt with
      | none => exact Nat.le_refl _
      | some t =>
          by_cases hle : t ≤ max s.world.clock.now wake
          · simp only [hle, if_true]
            exact Nat.max_le.mpr ⟨Nat.le_max_left _ _, hle⟩
          · simp only [hle, if_false]
            exact Nat.le_refl _

/-- A streak takes the time of its evaluations and of the pauses between them. -/
theorem StreakRun.now_le
    {p : Predicate σ} {c : ConsistencyConfig} {token : Token} {left : Nat} {s t : Session σ}
    {calls : List (Evaluation σ)} {verdict : Verdict} {span : Nat}
    (h : StreakRun p c token left s calls verdict t) (hp : Takes (p.check token) span) :
    t.now ≤ s.now + (left * span + (left - 1) * c.delay.nanos) := by
  induction h with
  | none => omega
  | @broken left s _ _ =>
      have hfinish := hp s
      rw [Nat.succ_mul]
      exact Nat.le_trans hfinish (by omega)
  | @complete s _ =>
      have hfinish := hp s
      rw [Nat.one_mul]
      exact Nat.le_trans hfinish (by omega)
  | @interrupted left s paused hleft _ hpaused _ =>
      have hfinish := hp s
      have hdoze := token.now_doze_le (paused.now + c.delay.nanos) paused
      have hnow : paused.now = ((p.check token).final s).now := by
        rw [hpaused]
        rfl
      obtain ⟨more, rfl⟩ := Nat.exists_eq_succ_of_ne_zero hleft
      rw [Nat.succ_mul, Nat.add_sub_cancel, Nat.succ_mul more c.delay.nanos]
      omega
  | @next left s paused t _ _ hleft _ hpaused _ _ ih =>
      have hfinish := hp s
      have hdoze := token.now_doze_le (paused.now + c.delay.nanos) paused
      have hnow : paused.now = ((p.check token).final s).now := by
        rw [hpaused]
        rfl
      obtain ⟨more, rfl⟩ := Nat.exists_eq_succ_of_ne_zero hleft
      rw [Nat.succ_eq_add_one, Nat.add_sub_cancel] at ih
      rw [Nat.succ_mul, Nat.add_sub_cancel, Nat.succ_mul more c.delay.nanos]
      omega

theorem consistently_takes
    {p : Predicate σ} {span : Nat} (hp : Takes (p.check .run) span) (c : ConsistencyConfig) :
    Takes ((p.consistently c).check .run)
      (c.required * span + (c.required - 1) * c.delay.nanos) :=
  fun s => (streak_run p c .run c.required s).now_le hp

/-! ## Checks -/

theorem CheckReport.skip_takes (name : String) : Takes (skip name : Step σ CheckReport) 0 :=
  (Takes.measure _).before fun _ => Takes.pure _

theorem CheckReport.fail_takes (name error : String) :
    Takes (fail name error : Step σ CheckReport) 0 :=
  (Takes.note _).after fun _ => (Takes.measure _).before fun _ => Takes.pure _

/-- The time that a wait takes at most when an evaluation takes this span: until the deadline, and
one evaluation more.  A steady one consists of several, with pauses between them. -/
def Strategy.budget (span : Nat) : Strategy → Nat
  | .poll config => config.timeout.nanos + span
  | .consistent steady config =>
    config.timeout.nanos +
      (steady.required * span + (steady.required - 1) * steady.delay.nanos)

namespace Check

variable {c : Check σ} {span : Nat}

def totalBudget (span : Nat) (checks : List (Check σ)) : Nat :=
  (checks.map fun c => c.strategy.budget span).sum

theorem wait_takes (hp : Takes (c.predicate.check .run) span) :
    Takes c.wait (c.strategy.budget span) := by
  unfold wait
  cases c.strategy with
  | poll config => exact pollUntil_takes hp config
  | consistent steady config => exact pollUntil_takes (consistently_takes hp steady) config

theorem conclude_takes (name : String) (start : Nat) (result : PollResult) :
    Takes (conclude name start result : Step σ CheckReport) 0 := by
  intro s
  rw [Session.now, world_conclude]
  exact Nat.le_refl _

theorem run_takes (hp : Takes (c.predicate.check .run) span) :
    Takes c.run (c.strategy.budget span) := by
  refine Takes.cancelled.after fun cancelled => ?_
  cases cancelled with
  | true => exact Takes.of_zero (CheckReport.skip_takes c.name)
  | false =>
      refine (Takes.note _).after fun _ => ?_
      refine Takes.now.after fun start => ?_
      exact (wait_takes hp).before fun result => conclude_takes c.name start result

theorem runAll_takes
    {checks : List (Check σ)} (h : ∀ c ∈ checks, Takes (c.predicate.check .run) span) :
    Takes (runAll checks) (totalBudget span checks) := by
  induction checks with
  | nil => exact Takes.pure _
  | cons c rest ih =>
      obtain ⟨hc, hrest⟩ := List.forall_mem_cons.mp h
      rw [totalBudget, List.map_cons, List.sum_cons]
      refine (run_takes hc).bind fun report => ?_
      exact (ih hrest).before fun _ => Takes.pure _

theorem LooksUp.takes
    {server : Server σ} (h : c.LooksUp server) (hserver : server.AnswersWithin span) :
    Takes (c.predicate.check .run) span := by
  obtain ⟨read, hlookup⟩ := h
  exact hserver.lookup hlookup .run

end Check

end ClusterReady
