import ClusterReady.Proofs.Lockstep
import ClusterReady.Proofs.SingleRead
import ClusterReady.Rehearsal

/-!
# Runs that do not look at their events

The events that a run notes are there to be read by others: what a run does next does not depend on
them.  `Session.Alike` relates sessions that differ in nothing else, and `Step.Alike` the steps that
cannot tell such sessions apart.  A predicate is blind when its evaluations are such steps, as those
of all predicates that look something up are.
-/

namespace ClusterReady

variable {σ α β γ δ : Type}

/-- The sessions differ in their events only, and outside of the run as `R` allows. -/
structure Session.Alike (R : σ → σ → Prop) (s t : Session σ) : Prop where
  clock : s.world.clock = t.world.clock
  outside : R s.world.outside t.world.outside
  requests : s.journal.requests = t.journal.requests
  measurements : s.journal.measurements = t.journal.measurements

namespace Session.Alike

variable {R : σ → σ → Prop} {s t : Session σ}

theorem refl (s : Session σ) : s.Alike Eq s := ⟨rfl, rfl, rfl, rfl⟩

theorem now_eq (h : s.Alike R t) : s.now = t.now := congrArg Clock.now h.clock

theorem world_eq (h : s.Alike Eq t) : s.world = t.world := by
  have hclock := h.clock
  have houtside := h.outside
  cases hs : s.world
  cases ht : t.world
  simp_all

theorem note_left (h : s.Alike R t) (e : Event) : (s.note e).Alike R t :=
  ⟨h.clock, h.outside, h.requests, h.measurements⟩

theorem note_right (h : s.Alike R t) (e : Event) : s.Alike R (t.note e) :=
  ⟨h.clock, h.outside, h.requests, h.measurements⟩

theorem withClock (h : s.Alike R t) {c d : Clock} (hclock : c = d) :
    (s.withClock c).Alike R (t.withClock d) :=
  ⟨hclock, h.outside, h.requests, h.measurements⟩

/-- A loop cannot tell sessions apart that are alike. -/
theorem bond : Session.Bond (Session.Alike R) where
  clock hst := hst.clock
  note hst e e' := (hst.note_left e).note_right e'
  withClock hst _ := hst.withClock rfl

end Session.Alike

/-- From sessions that are alike the steps give values that `V` relates and leave sessions that are
alike. -/
def Step.Alike (R : σ → σ → Prop) (V : α → β → Prop) (m : Step σ α) (n : Step σ β) : Prop :=
  ∀ s t, s.Alike R t → V (m.value s) (n.value t) ∧ (m.final s).Alike R (n.final t)

namespace Step.Alike

variable {R : σ → σ → Prop} {V : α → β → Prop} {W : γ → δ → Prop}

theorem pure {a : α} {b : β} (h : V a b) :
    Alike R V (Pure.pure a : Step σ α) (Pure.pure b) :=
  fun _ _ hst => ⟨h, hst⟩

theorem bind
    {m : Step σ α} {n : Step σ β} {f : α → Step σ γ} {g : β → Step σ δ} (hm : Alike R V m n)
    (hf : ∀ a b, V a b → Alike R W (f a) (g b)) : Alike R W (m >>= f) (n >>= g) := by
  intro s t hst
  obtain ⟨hvalue, hfinal⟩ := hm s t hst
  exact hf _ _ hvalue _ _ hfinal

theorem after
    {m n : Step σ α} {f : α → Step σ γ} {g : α → Step σ δ} (hm : Alike R Eq m n)
    (hf : ∀ a, Alike R W (f a) (g a)) : Alike R W (m >>= f) (n >>= g) := by
  refine hm.bind ?_
  rintro a _ rfl
  exact hf a

theorem note (e e' : Event) : Alike R Eq (Step.note e : Step σ Unit) (Step.note e') :=
  fun _ _ hst => ⟨rfl, (hst.note_left e).note_right e'⟩

theorem note_left {m : Step σ γ} {n : Step σ δ} (e : Event) (h : Alike R W m n) :
    Alike R W (Step.note e >>= fun _ => m) n :=
  fun _ _ hst => h _ _ (hst.note_left e)

theorem now : Alike R Eq (Step.now : Step σ Nat) Step.now :=
  fun _ _ hst => ⟨hst.now_eq, hst⟩

theorem elapse (nanos : Nat) : Alike R Eq (Step.elapse nanos : Step σ Unit) (Step.elapse nanos) :=
  fun _ _ hst => ⟨rfl, hst.withClock (congrArg (·.elapse nanos) hst.clock)⟩

theorem cancel (token : Token) : Alike R Eq (token.cancel : Step σ Unit) token.cancel := by
  cases token with
  | run => exact fun _ _ hst => ⟨rfl, hst.withClock (congrArg Clock.cancel hst.clock)⟩
  | idle => exact pure rfl

theorem doze (token : Token) (wake : Nat) :
    Alike R Eq (token.doze wake : Step σ Clock.Woken) (token.doze wake) := by
  intro s t hst
  obtain ⟨hvalue, hfinal⟩ := Meets.doze Session.Alike.bond hst token wake
  exact ⟨hvalue, hfinal⟩

/-- What happens outside cannot depend on the journal. -/
theorem outside (m : Run (World σ) α) : Alike Eq Eq (Step.outside m) (Step.outside m) := by
  intro s t hst
  have hvalue : m.value s.world = m.value t.world := congrArg m.value hst.world_eq
  have hfinal : m.final s.world = m.final t.world := congrArg m.final hst.world_eq
  exact ⟨hvalue, congrArg World.clock hfinal, congrArg World.outside hfinal, hst.requests,
    hst.measurements⟩

theorem send (r : Request) (answer : Run (World σ) α) :
    Alike Eq Eq (Step.send r answer) (Step.send r answer) := by
  have hsent : Alike Eq Eq (Run.move (·.sent r) (·.le_sent r) : Step σ PUnit)
      (Run.move (·.sent r) (·.le_sent r)) := by
    intro s t hst
    refine ⟨rfl, hst.clock, hst.outside, ?_, hst.measurements⟩
    change (⟨s.now, r⟩ :: s.journal.requests : List Sending) = ⟨t.now, r⟩ :: t.journal.requests
    rw [hst.now_eq, hst.requests]
  exact hsent.after fun _ => outside answer

end Step.Alike

/-! ## Predicates -/

/-- The evaluations of the predicate do not look at the events of the run. -/
def Predicate.Blind (R : σ → σ → Prop) (p : Predicate σ) : Prop :=
  ∀ token, Step.Alike R Eq (p.check token) (p.check token)

theorem Predicate.Blind.sheltered {R : σ → σ → Prop} {p : Predicate σ} (hp : p.Blind R)
    (describe : String) : (p.sheltered describe).Blind R :=
  fun _ => hp .idle

theorem Predicate.scripted_blind (describe : String) (slot : Nat) (script : List Cue) :
    (Predicate.scripted describe slot script).Blind Eq := by
  intro token
  refine Step.Alike.now.after fun began => ?_
  refine (Step.Alike.outside _).after fun done => ?_
  refine (Step.Alike.outside _).after fun _ => ?_
  refine (Step.Alike.elapse _).after fun _ => ?_
  cases (Cue.pick script done).cancels with
  | true => exact (Step.Alike.cancel token).after fun _ => .pure rfl
  | false => exact .pure rfl

namespace Server

variable (server : Server σ)

theorem exchange_alike (method : Method) (path : String) (query : List (String × String))
    (body : Option Json) :
    Step.Alike Eq Eq (server.exchange method path query body)
      (server.exchange method path query body) := by
  unfold exchange
  cases Url.target path query with
  | none => exact .pure rfl
  | some target =>
      refine (Step.Alike.send _ _).after fun exchange => ?_
      cases exchange with
      | error reason => exact .pure rfl
      | ok reply => exact .pure rfl

theorem get_alike (c : Collection) (d : Json.Decoder α) (name : String) :
    Step.Alike Eq Eq (server.get c d name) (server.get c d name) := by
  unfold get
  by_cases hname : name.isEmpty = true
  · rw [if_pos hname]
    exact .pure rfl
  · rw [if_neg hname]
    exact (server.exchange_alike _ _ _ _).after fun _ => .pure rfl

theorem list_alike (c : Collection) (d : Json.Decoder α) (selector : String) :
    Step.Alike Eq Eq (server.list c d selector) (server.list c d selector) :=
  (server.exchange_alike _ _ _ _).after fun _ => .pure rfl

end Server

/-- A lookup does not look at the events. -/
theorem Lookup.blind
    {server : Server σ} {p : Predicate σ} {read : Option Request} (h : Lookup server p read) :
    p.Blind Eq := by
  intro token
  cases h with
  | nodes _ _ => exact (server.list_alike _ _ _).after fun _ => .pure rfl
  | workloads _ _ _ => exact (server.list_alike _ _ _).after fun _ => .pure rfl
  | pods _ _ => exact (server.list_alike _ _ _).after fun _ => .pure rfl
  | condition _ _ _ _ => exact (server.get_alike _ _ _).after fun _ => .pure rfl
  | claim _ _ => exact (server.get_alike _ _ _).after fun _ => .pure rfl
  | deletion _ _ _ _ _ => exact (server.get_alike _ _ _).after fun _ => .pure rfl

/-! ## Recorded predicates -/

/-- The evaluations begin and end in sessions that are alike, with the same verdict. -/
structure Evaluation.Alike (e d : Evaluation σ) : Prop where
  before : e.before.Alike Eq d.before
  verdict : e.verdict = d.verdict
  after : e.after.Alike Eq d.after

/-- What lies outside is the same, and the diaries tell of evaluations that are alike. -/
structure Diary.Alike (a b : Diary σ) : Prop where
  outside : a.outside = b.outside
  entries : List.Forall₂ Evaluation.Alike a.entries b.entries

theorem Predicate.Blind.recorded {p : Predicate σ} (hp : p.Blind Eq) :
    p.recorded.Blind Diary.Alike := by
  intro token s t hst
  have hclosed : s.closed.Alike Eq t.closed :=
    ⟨hst.clock, hst.outside.outside, hst.requests, hst.measurements⟩
  obtain ⟨hvalue, hfinal⟩ := hp token _ _ hclosed
  refine ⟨hvalue, hfinal.clock, ⟨hfinal.outside, ?_⟩, hfinal.requests, hfinal.measurements⟩
  exact List.rel_append hst.outside.entries (.cons ⟨hclosed, hvalue, hfinal⟩ .nil)

/-! ## Polls -/

/-- The same error of a wait for something that is described so. -/
def WaitError.describedAs (describe : String) : WaitError → WaitError
  | invalid fault => invalid fault
  | timedOut _ attempts elapsed last => timedOut describe attempts elapsed last
  | cancelled _ attempts last => cancelled describe attempts last

theorem PollResult.Matches.eq_mapError
    {shown describe : String} {result result' : PollResult}
    (h : result.Matches Eq shown describe result') :
    result' = result.mapError (·.describedAs describe) := by
  cases h with
  | met _ => rfl
  | timedOut _ _ hlast =>
      cases hlast
      rfl
  | cancelled _ hlast =>
      cases hlast with
      | none => rfl
      | some hlast =>
          cases hlast
          rfl

theorem Verdict.Matches.of_eq {verdict verdict' : Verdict} (h : verdict = verdict') :
    Verdict.Matches Eq verdict verdict' := by
  subst h
  cases verdict with
  | ok _ => exact .held
  | error _ => exact .failed rfl

/-- A poll ends alike for predicates whose evaluations are alike, but for the description. -/
theorem pollUntil_alike {R : σ → σ → Prop} {p q : Predicate σ}
    (h : Step.Alike R Eq (p.check .run) (q.check .run)) (config : PollConfig) :
    Step.Alike R (fun a b => b = a.mapError (·.describedAs q.describe)) (pollUntil p config)
      (pollUntil q config) := by
  intro s t hst
  -- evaluations that begin in sessions that are alike are paired, whatever comes after them
  have hstep : ∀ s t (_ _ : List (Evaluation σ)), s.Alike R t → True →
      (p.evaluation .run s).Paired (Session.Alike R) Eq (q.evaluation .run t) ∧ True := by
    intro s t _ _ hst _
    obtain ⟨hvalue, hfinal⟩ := h s t hst
    exact ⟨⟨hst, .of_eq hvalue, hfinal⟩, trivial⟩
  obtain ⟨⟨hresult, hfinal⟩, -⟩ :=
    pollUntil_meets (A := fun _ _ => True) Session.Alike.bond (fun _ _ hpair => hpair) hstep
      config hst trivial
  exact ⟨hresult.eq_mapError, hfinal⟩

end ClusterReady
