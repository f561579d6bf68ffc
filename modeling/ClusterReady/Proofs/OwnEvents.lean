import ClusterReady.Proofs.Streak

/-!
# The events that a loop writes itself

What is written in a run of a loop is written in the evaluations that the loop makes, or by the loop
itself, before them, between them and after them.  `Session.ownEvents` are the latter.  Where the
evaluations of a loop are streaks of others, the events of the streaks count with those of the loop.
-/

namespace ClusterReady

variable {σ : Type}

namespace Session

def log (s : Session σ) : List Event := s.journal.events.reverse

def logTo (s t : Session σ) : List Event := t.log.drop s.log.length

/-- The events that are written between two sessions and in none of these evaluations, which were
made in between, one after the other. -/
def ownEvents : Session σ → List (Evaluation σ) → Session σ → List Event
  | s, [], t => s.logTo t
  | s, e :: rest, t => s.logTo e.before ++ ownEvents e.after rest t

/-- The evaluations are made between two sessions, one after the other. -/
def Through : Session σ → List (Evaluation σ) → Session σ → Prop
  | s, [], t => s ≤ t
  | s, e :: rest, t => s ≤ e.before ∧ e.before ≤ e.after ∧ Through e.after rest t

variable {s t u : Session σ} {calls more : List (Evaluation σ)}

theorem log_eq (h : s ≤ t) : t.log = s.log ++ s.logTo t := by
  have hprefix : s.log <+: t.log := List.reverse_prefix.mpr h.2.1
  exact (List.prefix_iff_eq_append.mp hprefix).symm

theorem logTo_of_log_eq {more : List Event} (h : t.log = s.log ++ more) : s.logTo t = more := by
  rw [logTo, h, List.drop_left]

@[simp] theorem logTo_self (s : Session σ) : s.logTo s = [] :=
  logTo_of_log_eq (List.append_nil _).symm

@[simp] theorem logTo_withClock (s t : Session σ) (c : Clock) :
    s.logTo (t.withClock c) = s.logTo t := rfl

theorem logTo_trans (hst : s ≤ t) (htu : t ≤ u) : s.logTo u = s.logTo t ++ t.logTo u := by
  apply logTo_of_log_eq
  rw [log_eq htu, log_eq hst, List.append_assoc]

theorem logTo_note (h : s ≤ t) (e : Event) : s.logTo (t.note e) = s.logTo t ++ [e] := by
  apply logTo_of_log_eq
  have hnote : (t.note e).log = t.log ++ [e] := List.reverse_cons
  rw [hnote, log_eq h, List.append_assoc]

namespace Through

theorem of_le (hst : s ≤ t) (h : Through t calls u) : Through s calls u := by
  cases calls with
  | nil => exact Std.le_trans hst h
  | cons e rest => exact ⟨Std.le_trans hst h.1, h.2⟩

theorem append (h : Through s calls t) (hmore : Through t more u) :
    Through s (calls ++ more) u := by
  induction calls generalizing s with
  | nil => exact of_le h hmore
  | cons e rest ih => exact ⟨h.1, h.2.1, ih h.2.2⟩

end Through

theorem ownEvents_of_le (hst : s ≤ t) (h : Through t calls u) :
    ownEvents s calls u = s.logTo t ++ ownEvents t calls u := by
  cases calls with
  | nil => exact logTo_trans hst h
  | cons e rest =>
      rw [ownEvents, ownEvents, logTo_trans hst h.1, List.append_assoc]

theorem ownEvents_append (h : Through s calls t) (hmore : Through t more u) :
    ownEvents s (calls ++ more) u = ownEvents s calls t ++ ownEvents t more u := by
  induction calls generalizing s with
  | nil => exact ownEvents_of_le h hmore
  | cons e rest ih =>
      rw [List.cons_append, ownEvents, ownEvents, ih h.2.2, List.append_assoc]

end Session

open Session (Through)

/-! ## Loops -/

/-- What a loop writes of its evaluation number `attempt`: its failure, if it is one. -/
def Evaluation.failureEvents (describe : String) (start attempt : Nat) (e : Evaluation σ) :
    List Event :=
  match e.verdict with
  | .ok _ => []
  | .error failure => [Tick.failureEvent describe attempt ⟨e.finish - start⟩ failure]

theorem Evaluation.failureEvents_of_ok {describe : String} {start attempt : Nat}
    {e : Evaluation σ} (hv : e.verdict = .ok ()) : e.failureEvents describe start attempt = [] := by
  rw [failureEvents, hv]

theorem Evaluation.failureEvents_of_error {describe : String} {start attempt : Nat}
    {e : Evaluation σ} {failure : CheckFailure} (hv : e.verdict = .error failure) :
    e.failureEvents describe start attempt =
      [Tick.failureEvent describe attempt ⟨e.finish - start⟩ failure] := by
  rw [failureEvents, hv]

/-- What a loop writes of its evaluations, of which `done` came before these: what is written
`within` each one, and then its failure. -/
def loopEvents (describe : String) (start : Nat) (within : Evaluation σ → List Event) :
    (done : Nat) → List (Evaluation σ) → List Event
  | _, [] => []
  | done, e :: rest =>
    within e ++ e.failureEvents describe start (done + 1) ++
      loopEvents describe start within (done + 1) rest

/-- The event that tells of the answer of a poll. -/
inductive PollResult.ToldBy (describe : String) : PollResult → Event → Prop where
  | met (attempts : Nat) (elapsed : Duration) :
      ToldBy describe (.ok ⟨attempts, elapsed⟩) (.conditionMet describe attempts elapsed)
  | gaveUp (attempts : Nat) (elapsed : Duration) (last : CheckFailure) :
      ToldBy describe (.error (.timedOut describe attempts elapsed last))
        (.gaveUp describe attempts elapsed last)
  | cancelled (attempts : Nat) (last : Option CheckFailure) :
      ToldBy describe (.error (.cancelled describe attempts last))
        (.pollCancelled describe attempts)

namespace Tick

variable {p : Predicate σ} {config : PollConfig} {start attempts : Nat}
variable {last : Option CheckFailure} {s t : Session σ}

theorem logTo_told {failure : CheckFailure}
    (hv : (p.evaluation .run s).verdict = .error failure) :
    (p.evaluation .run s).after.logTo (told p start attempts failure s) =
      (p.evaluation .run s).failureEvents p.describe start (attempts + 1) := by
  rw [told, Session.logTo_note (Std.le_refl _), Session.logTo_self,
    Evaluation.failureEvents_of_error hv]
  rfl

theorem Pass.logTo_of_again {failure : CheckFailure}
    (h : Pass p config start attempts last s (.again failure) t) :
    (p.evaluation .run s).after.logTo t =
      (p.evaluation .run s).failureEvents p.describe start (attempts + 1) := by
  cases h with
  | again _ _ hv _ _ => rw [Session.logTo_withClock, logTo_told hv]

theorem Pass.logTo_of_done {result : PollResult}
    (h : Pass p config start attempts last s (.done result) t) (hs : s.cancelled = false) :
    ∃ closing, result.ToldBy p.describe closing ∧
      (p.evaluation .run s).after.logTo t =
        (p.evaluation .run s).failureEvents p.describe start (attempts + 1) ++ [closing] := by
  cases h with
  | unstarted htrue => simp [hs] at htrue
  | met _ hv =>
      refine ⟨_, .met _ _, ?_⟩
      rw [Session.logTo_note (Std.le_refl _), Session.logTo_self,
        Evaluation.failureEvents_of_ok hv]
  | cancelledInCall failure _ hv _ =>
      refine ⟨_, .cancelled _ _, ?_⟩
      rw [Session.logTo_note (after_le_told p start attempts failure s), logTo_told hv]
  | expired failure _ hv _ _ =>
      refine ⟨_, .gaveUp _ _ _, ?_⟩
      rw [Session.logTo_note (after_le_told p start attempts failure s), logTo_told hv]
  | cancelledAsleep failure c _ hv _ _ _ _ =>
      refine ⟨_, .cancelled _ _, ?_⟩
      have hle : (p.evaluation .run s).after ≤ (told p start attempts failure s).withClock
          ((p.evaluation .run s).after.world.clock.sleep c) :=
        Std.le_trans (after_le_told p start attempts failure s)
          (Session.le_withClock (Clock.le_sleep _ _))
      rw [Session.logTo_note hle, Session.logTo_withClock, logTo_told hv]

end Tick

namespace PollRun

variable {p : Predicate σ} {config : PollConfig} {start attempts : Nat}
variable {last : Option CheckFailure} {s t : Session σ}
variable {calls : List (Evaluation σ)} {result : PollResult}
variable {inner : Session σ → List (Evaluation σ)}

theorem through (hinner : ∀ s, Through s (inner s) (p.evaluation .run s).after)
    (h : PollRun p config start attempts last s calls result t) :
    Through s (calls.flatMap fun e => inner e.before) t := by
  induction h with
  | @stop _ _ s t _ hpass =>
      by_cases hs : s.cancelled = true
      · rw [passCalls, if_pos hs]
        exact hpass.le
      · rw [passCalls, if_neg hs, List.flatMap_singleton, ← List.append_nil (inner _)]
        have hend : Through (p.evaluation .run s).after [] t :=
          hpass.after_le (Bool.not_eq_true _ ▸ hs)
        exact (hinner s).append hend
  | @next _ _ s _ _ _ _ _ hpass _ ih =>
      rw [List.flatMap_cons]
      exact (hinner s).append (Through.of_le (hpass.after_le hpass.again_spec.1) ih)

/-- A loop writes of its evaluations, one after the other, and of its answer at last. -/
theorem ownEvents_eq (hinner : ∀ s, Through s (inner s) (p.evaluation .run s).after)
    (h : PollRun p config start attempts last s calls result t) :
    ∃ closing, result.ToldBy p.describe closing ∧
      s.ownEvents (calls.flatMap fun e => inner e.before) t =
        loopEvents p.describe start (fun e => e.before.ownEvents (inner e.before) e.after)
          attempts calls ++ [closing] := by
  -- the pass that ends the run writes the closing event, and every other one writes of a failure
  induction h with
  | @stop attempts last s t result hpass =>
      by_cases hs : s.cancelled = true
      · obtain ⟨hresult, rfl⟩ := hpass.of_cancelled hs
        cases hresult
        refine ⟨_, .cancelled _ _, ?_⟩
        rw [passCalls, if_pos hs, List.flatMap_nil, Session.ownEvents,
          Session.logTo_note (Std.le_refl _), Session.logTo_self, loopEvents]
      · have hfalse : s.cancelled = false := Bool.not_eq_true _ ▸ hs
        obtain ⟨closing, htold, hlog⟩ := hpass.logTo_of_done hfalse
        have hend : Through (p.evaluation .run s).after [] t := hpass.after_le hfalse
        refine ⟨closing, htold, ?_⟩
        rw [passCalls, if_neg hs, List.flatMap_singleton, Predicate.evaluation_before,
          ← List.append_nil (inner s), Session.ownEvents_append (hinner s) hend,
          Session.ownEvents, hlog]
        simp [loopEvents]
  | @next attempts last s u t failure calls result hpass hrest ih =>
      obtain ⟨closing, htold, hown⟩ := ih
      have hle := hpass.after_le hpass.again_spec.1
      have hthrough := hrest.through hinner
      refine ⟨closing, htold, ?_⟩
      rw [List.flatMap_cons, Predicate.evaluation_before,
        Session.ownEvents_append (hinner s) (Through.of_le hle hthrough),
        Session.ownEvents_of_le hle hthrough, hpass.logTo_of_again, hown]
      simp [loopEvents]

end PollRun

section Poll

variable {p : Predicate σ} {inner : Session σ → List (Evaluation σ)}

theorem pollUntil_through (hinner : ∀ s, Through s (inner s) (p.evaluation .run s).after)
    (config : PollConfig) (s : Session σ) :
    Through s ((pollCalls p config s).flatMap fun e => inner e.before)
      ((pollUntil p config).final s) :=
  Through.of_le (s.le_note _) ((pollUntil_run p config s).through hinner)

/-- A poll writes that it starts, and then what its loop does. -/
theorem pollUntil_ownEvents (hinner : ∀ s, Through s (inner s) (p.evaluation .run s).after)
    (config : PollConfig) (s : Session σ) :
    ∃ closing, ((pollUntil p config).value s).ToldBy p.describe closing ∧
      s.ownEvents ((pollCalls p config s).flatMap fun e => inner e.before)
          ((pollUntil p config).final s) =
        .pollStarted p.describe config.timeout config.interval ::
          (loopEvents p.describe s.now (fun e => e.before.ownEvents (inner e.before) e.after) 0
            (pollCalls p config s) ++ [closing]) := by
  have hrun := pollUntil_run p config s
  obtain ⟨closing, htold, hown⟩ := hrun.ownEvents_eq hinner
  refine ⟨closing, htold, ?_⟩
  rw [Session.ownEvents_of_le (s.le_note _) (hrun.through hinner),
    Session.logTo_note (Std.le_refl s), Session.logTo_self, hown]
  rfl

end Poll

/-! ## Streaks -/

def streakEvents (describe : String) (required : Nat) :
    (left : Nat) → List (Evaluation σ) → List Event
  | _, [] => []
  | left, e :: rest =>
    (match e.verdict with
      | .ok () => [.streakGrew describe (required - (left - 1)) required]
      | .error _ => []) ++ streakEvents describe required (left - 1) rest

theorem Session.logTo_doze (s t : Session σ) (token : Token) (wake : Nat) :
    s.logTo ((token.doze wake).final t) = s.logTo t := by
  cases token with
  | run => rfl
  | idle => rfl

namespace StreakRun

variable {p : Predicate σ} {c : ConsistencyConfig} {token : Token} {left : Nat}
variable {s t : Session σ} {calls : List (Evaluation σ)} {verdict : Verdict}

theorem streakPaused_le (left : Nat) (s : Session σ) (wake : Nat) :
    s ≤ (token.doze wake).final (streakPaused p c left s) :=
  Std.le_trans (s.le_note _) ((token.doze wake).le_final _)

theorem through (h : StreakRun p c token left s calls verdict t) : Through s calls t := by
  induction h with
  | none => exact Std.le_refl _
  | broken _ => exact ⟨Std.le_refl _, (p.check token).le_final _, Std.le_refl _⟩
  | complete _ => exact ⟨Std.le_refl _, (p.check token).le_final _, Session.le_note _ _⟩
  | interrupted _ _ hpaused _ =>
      subst hpaused
      exact ⟨Std.le_refl _, (p.check token).le_final _, streakPaused_le _ _ _⟩
  | next _ _ hpaused _ _ ih =>
      subst hpaused
      exact ⟨Std.le_refl _, (p.check token).le_final _, Through.of_le (streakPaused_le _ _ _) ih⟩

theorem logTo_streakPaused (left : Nat) (s : Session σ) :
    s.logTo (streakPaused p c left s) =
      [.streakGrew p.describe (c.required - left) c.required] := by
  rw [streakPaused, Session.logTo_note (Std.le_refl s), Session.logTo_self, List.nil_append]

/-- A streak writes of its successes and nothing else. -/
theorem ownEvents_eq (h : StreakRun p c token left s calls verdict t) :
    s.ownEvents calls t = streakEvents p.describe c.required left calls := by
  induction h with
  | none => exact Session.logTo_self _
  | broken hv =>
      simp only [Session.ownEvents, streakEvents, Predicate.evaluation_before, hv,
        Session.logTo_self, List.append_nil]
  | complete hv =>
      simp only [Session.ownEvents, streakEvents, Predicate.evaluation_before, hv,
        Session.logTo_self, logTo_streakPaused, List.nil_append, List.append_nil]
  | interrupted _ hv hpaused _ =>
      subst hpaused
      simp only [Session.ownEvents, streakEvents, Predicate.evaluation_before, hv,
        Session.logTo_self, Session.logTo_doze, logTo_streakPaused, List.nil_append,
        List.append_nil, Nat.add_sub_cancel]
  | next _ hv hpaused _ hrest ih =>
      subst hpaused
      rw [Session.ownEvents, Session.ownEvents_of_le (streakPaused_le _ _ _) hrest.through, ih,
        Session.logTo_doze, logTo_streakPaused, Predicate.evaluation_before, Session.logTo_self]
      simp only [streakEvents, hv, List.nil_append, Nat.add_sub_cancel]

end StreakRun

end ClusterReady
