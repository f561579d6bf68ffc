import ClusterReady.Api.Request
import ClusterReady.Log.Event
import ClusterReady.Metrics.Measurement
import ClusterReady.Run.Basic
import ClusterReady.Run.Clock

/-!
# Sessions

A `World` is the clock of a run and the state of what lies outside of it, such as an API server.
A `Session` adds the journal that the run keeps: its events, the requests it has sent and its
measurements.  In a later session time has not gone back, a cancellation stands, and the journal
has only grown.
-/

namespace ClusterReady

/-- The clock of a run and the state of everything outside of it. -/
structure World (σ : Type) where
  clock : Clock
  outside : σ

/-- A request and the instant at which it was sent. -/
structure Sending where
  instant : Nat
  request : Request

/-- What a run has written down, latest first. -/
structure Journal where
  events : List Event := []
  requests : List Sending := []
  measurements : List Measurement := []

/-- A run's world and its journal. -/
structure Session (σ : Type) where
  world : World σ
  journal : Journal

namespace World

variable {σ : Type}

instance : LE (World σ) := ⟨fun a b => a.clock ≤ b.clock⟩

instance : Std.IsPreorder (World σ) where
  le_refl a := Clock.later_refl a.clock
  le_trans _ _ _ := Clock.later_trans

theorem le_def {a b : World σ} : a ≤ b ↔ a.clock ≤ b.clock := Iff.rfl

end World

namespace Journal

instance : LE Journal :=
  ⟨fun a b => a.events <:+ b.events ∧ a.requests <:+ b.requests ∧ a.measurements <:+ b.measurements⟩

theorem le_def {a b : Journal} :
    a ≤ b ↔ a.events <:+ b.events ∧ a.requests <:+ b.requests ∧ a.measurements <:+ b.measurements :=
  Iff.rfl

instance : Std.IsPreorder Journal where
  le_refl _ := ⟨List.suffix_rfl, List.suffix_rfl, List.suffix_rfl⟩
  le_trans _ _ _ hab hbc :=
    ⟨hab.1.trans hbc.1, hab.2.1.trans hbc.2.1, hab.2.2.trans hbc.2.2⟩

end Journal

namespace Session

variable {σ : Type}

instance : LE (Session σ) := ⟨fun a b => a.world ≤ b.world ∧ a.journal ≤ b.journal⟩

theorem le_def {a b : Session σ} : a ≤ b ↔ a.world ≤ b.world ∧ a.journal ≤ b.journal := Iff.rfl

instance : Std.IsPreorder (Session σ) where
  le_refl a := ⟨Std.le_refl a.world, Std.le_refl a.journal⟩
  le_trans _ _ _ hab hbc := ⟨Std.le_trans hab.1 hbc.1, Std.le_trans hab.2 hbc.2⟩

/-- The present instant of a session. -/
def now (s : Session σ) : Nat := s.world.clock.now

def cancelled (s : Session σ) : Bool := s.world.clock.cancelled

theorem now_le {a b : Session σ} (h : a ≤ b) : a.now ≤ b.now := Clock.now_le h.1

theorem cancelled_of_le {a b : Session σ} (h : a ≤ b) (ha : a.cancelled = true) :
    b.cancelled = true :=
  Clock.cancelled_of_le h.1 ha

/-- The same session with another clock. -/
def withClock (s : Session σ) (c : Clock) : Session σ :=
  { s with world := { s.world with clock := c } }

theorem le_withClock {s : Session σ} {c : Clock} (h : s.world.clock ≤ c) : s ≤ s.withClock c :=
  ⟨h, Std.le_refl s.journal⟩

/-- The same session with an event more. -/
def note (s : Session σ) (e : Event) : Session σ :=
  { s with journal := { s.journal with events := e :: s.journal.events } }

theorem le_note (s : Session σ) (e : Event) : s ≤ s.note e :=
  ⟨Std.le_refl s.world, List.suffix_cons _ _, List.suffix_rfl, List.suffix_rfl⟩

/-- The same session with a request more. -/
def sent (s : Session σ) (r : Request) : Session σ :=
  { s with journal := { s.journal with requests := ⟨s.now, r⟩ :: s.journal.requests } }

theorem le_sent (s : Session σ) (r : Request) : s ≤ s.sent r :=
  ⟨Std.le_refl s.world, List.suffix_rfl, List.suffix_cons _ _, List.suffix_rfl⟩

/-- The same session with a measurement more. -/
def measured (s : Session σ) (m : Measurement) : Session σ :=
  { s with journal := { s.journal with measurements := m :: s.journal.measurements } }

theorem le_measured (s : Session σ) (m : Measurement) : s ≤ s.measured m :=
  ⟨Std.le_refl s.world, List.suffix_rfl, List.suffix_rfl, List.suffix_cons _ _⟩

@[simp] theorem now_note (s : Session σ) (e : Event) : (s.note e).now = s.now := rfl

@[simp] theorem cancelled_note (s : Session σ) (e : Event) :
    (s.note e).cancelled = s.cancelled := rfl

end Session

/-- A step of a run. -/
abbrev Step (σ : Type) (α : Type) := Run (Session σ) α

namespace Step

variable {σ : Type} {α : Type}

/-- The present instant. -/
def now : Step σ Nat := Run.read Session.now

/-- Whether the run is cancelled by now. -/
def cancelled : Step σ Bool := Run.read Session.cancelled

/-- Writes an event into the journal. -/
def note (e : Event) : Step σ Unit := Run.move (·.note e) (·.le_note e)

/-- Writes a measurement into the journal. -/
def measure (m : Measurement) : Step σ Unit := Run.move (·.measured m) (·.le_measured m)

/-- The measurements so far, in the order in which they were made. -/
def measurements : Step σ (List Measurement) := Run.read (·.journal.measurements.reverse)

/-- Lets time pass. -/
def elapse (nanos : Nat) : Step σ Unit :=
  Run.move (fun s => s.withClock (s.world.clock.elapse nanos))
    (fun s => Session.le_withClock (s.world.clock.le_elapse nanos))

/-- Cancels the run. -/
def cancel : Step σ Unit :=
  Run.move (fun s => s.withClock s.world.clock.cancel)
    (fun s => Session.le_withClock s.world.clock.le_cancel)

/-- Sleeps until an instant, or until the cancellation. -/
def doze (wake : Nat) : Step σ Clock.Woken := fun s =>
  ⟨((s.world.clock.doze wake).1, s.withClock (s.world.clock.doze wake).2),
    Session.le_withClock (s.world.clock.le_doze wake)⟩

/-- Sleeps until an instant, whatever happens. -/
def sleep (wake : Nat) : Step σ Unit :=
  Run.move (fun s => s.withClock (s.world.clock.sleep wake))
    (fun s => Session.le_withClock (s.world.clock.le_sleep wake))

/-- Lets something happen outside, which cannot touch the journal. -/
def outside (m : Run (World σ) α) : Step σ α := fun s =>
  match m s.world with
  | ⟨(a, w), h⟩ => ⟨(a, { s with world := w }), ⟨h, Std.le_refl s.journal⟩⟩

/-- Sends a request: it is written down, and `answer` happens outside. -/
def send (r : Request) (answer : Run (World σ) α) : Step σ α := do
  Run.move (·.sent r) (·.le_sent r)
  outside answer

@[simp] theorem value_now (s : Session σ) : (now : Step σ Nat).value s = s.now := rfl

@[simp] theorem final_now (s : Session σ) : (now : Step σ Nat).final s = s := rfl

@[simp] theorem value_cancelled (s : Session σ) :
    (cancelled : Step σ Bool).value s = s.cancelled := rfl

@[simp] theorem final_cancelled (s : Session σ) : (cancelled : Step σ Bool).final s = s := rfl

@[simp] theorem final_note (e : Event) (s : Session σ) : (note e).final s = s.note e := rfl

@[simp] theorem final_measure (m : Measurement) (s : Session σ) :
    (measure m).final s = s.measured m := rfl

@[simp] theorem value_doze (wake : Nat) (s : Session σ) :
    (doze wake).value s = (s.world.clock.doze wake).1 := rfl

@[simp] theorem final_doze (wake : Nat) (s : Session σ) :
    (doze wake).final s = s.withClock (s.world.clock.doze wake).2 := rfl

end Step

end ClusterReady
