import ClusterReady.Suite.Battery
import ClusterReady.Suite.Run

/-!
# What a valid configuration promises

Every timing that a run of the suite takes from its configuration has been made once when the
configuration was validated, so a run with a valid one has its checks and its storage scenario.
-/

namespace ClusterReady

theorem exists_ok_of_bind {ε α β : Type} {x : Except ε α} {f : α → Except ε β} {b : β}
    (h : x >>= f = .ok b) : ∃ a, x = .ok a ∧ f a = .ok b := by
  cases x with
  | error e => cases h
  | ok a => exact ⟨a, rfl, h⟩

theorem exists_ok_of_map {ε α β : Type} {x : Except ε α} {f : α → β} {b : β}
    (h : x.map f = .ok b) : ∃ a, x = .ok a ∧ b = f a := by
  cases x with
  | error e => cases h
  | ok a =>
      cases h
      exact ⟨a, rfl, rfl⟩

theorem ok_of_mapError {ε ε' α : Type} {f : ε → ε'} {x : Except ε α} {a : α}
    (h : x.mapError f = .ok a) : x = .ok a := by
  cases x with
  | error e => cases h
  | ok b =>
      cases h
      rfl

variable [Horizon]

/-- All timings of a configuration are valid. -/
structure SuiteConfig.Timed (c : SuiteConfig) : Prop where
  poll : ∃ poll, c.poll = .ok poll
  steady : ∃ steady, c.steady = .ok steady
  workers : ∃ poll, c.poolPoll c.workers = .ok poll
  controlPlane : ∀ pool, c.controlPlane = some pool → ∃ poll, c.poolPoll pool = .ok poll

theorem SuiteConfig.timed_of_validate {c : SuiteConfig} (h : c.validate = .ok ()) : c.Timed := by
  unfold validate at h
  obtain ⟨poll, hpoll, h⟩ := exists_ok_of_bind h
  obtain ⟨steady, hsteady, h⟩ := exists_ok_of_bind h
  obtain ⟨workers, hworkers, h⟩ := exists_ok_of_bind h
  refine ⟨⟨poll, hpoll⟩, ⟨steady, hsteady⟩, ⟨workers, hworkers⟩, ?_⟩
  intro pool hpool
  rw [hpool] at h
  obtain ⟨pool, hpool, -⟩ := exists_ok_of_bind h
  exact ⟨pool, hpool⟩

theorem Battery.exists_controlPlane {σ : Type} {c : SuiteConfig} (h : c.Timed)
    (server : Server σ) : ∃ checks, controlPlane server c = .ok checks := by
  unfold controlPlane
  cases hpool : c.controlPlane with
  | none => exact ⟨[], rfl⟩
  | some pool =>
      obtain ⟨poll, hpoll⟩ := h.controlPlane pool hpool
      cases c.provider.hasVisibleControlPlane with
      | false => exact ⟨[], rfl⟩
      | true =>
          simp only [if_true, hpoll]
          exact ⟨_, rfl⟩

theorem exists_standardChecks {σ : Type} {c : SuiteConfig} (h : c.Timed) (server : Server σ) :
    ∃ checks, standardChecks server c = .ok checks := by
  obtain ⟨poll, hpoll⟩ := h.poll
  obtain ⟨steady, hsteady⟩ := h.steady
  obtain ⟨workers, hworkers⟩ := h.workers
  obtain ⟨planes, hplanes⟩ := Battery.exists_controlPlane h server
  unfold standardChecks Battery.workers
  simp only [hpoll, hsteady, hplanes, hworkers]
  exact ⟨_, rfl⟩

theorem SuiteConfig.fits_of_poll {c : SuiteConfig} {poll : PollConfig} (h : c.poll = .ok poll) :
    Horizon.fits poll.timeout = true := by
  obtain ⟨⟨htimeout, -⟩, hfits⟩ := PollConfig.make_eq_ok_iff.mp (ok_of_mapError h)
  rw [htimeout]
  exact hfits

/-- A timing whose deadline fits leaves one for the end of the namespace: its interval fits, and so
do five minutes. -/
theorem Storage.exists_namespacePoll {poll : PollConfig}
    (h : Horizon.fits poll.timeout = true) : ∃ gone, namespacePoll poll = .ok gone := by
  have hpos := poll.interval_pos
  have hinterval : poll.interval.nanos ≤ max namespaceTimeout.nanos poll.interval.nanos :=
    Nat.le_max_right _ _
  have hfits : Horizon.fits ⟨max namespaceTimeout.nanos poll.interval.nanos⟩ = true := by
    rcases Nat.le_total namespaceTimeout.nanos poll.interval.nanos with hle | hle
    · rw [Nat.max_eq_right hle]
      exact Horizon.fits_of_le poll.interval_le h
    · rw [Nat.max_eq_left hle]
      exact Horizon.fits_minutes
  unfold namespacePoll PollConfig.make
  simp only [hpos, hinterval, hfits, dite_true, if_true]
  exact ⟨_, rfl⟩

theorem Storage.exists_timing_of_poll {c : SuiteConfig} {poll : PollConfig}
    (hpoll : c.poll = .ok poll) : ∃ gone, timing c = .ok (poll, gone) := by
  obtain ⟨gone, hgone⟩ := exists_namespacePoll (SuiteConfig.fits_of_poll hpoll)
  refine ⟨gone, ?_⟩
  unfold timing
  simp only [hpoll]
  change (namespacePoll poll >>= fun gone => pure (poll, gone)) = _
  rw [hgone]
  rfl

theorem Storage.exists_timing {c : SuiteConfig} (h : c.Timed) :
    ∃ poll gone, timing c = .ok (poll, gone) := by
  obtain ⟨poll, hpoll⟩ := h.poll
  exact ⟨poll, exists_timing_of_poll hpoll⟩

theorem Storage.exists_timing_of_checks
    {σ : Type} {server : Server σ} {c : SuiteConfig} {checks : List (Check σ)}
    (h : standardChecks server c = .ok checks) : ∃ poll gone, timing c = .ok (poll, gone) := by
  obtain ⟨poll, hpoll, -⟩ := exists_ok_of_bind h
  exact ⟨poll, exists_timing_of_poll hpoll⟩

end ClusterReady
