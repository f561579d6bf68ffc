/-!
# Runs that only move forward

A `Run S α` starts in a state of `S` and ends with a value and a later state.  "Later" is the
order of `S`, and every run carries the evidence that its end is not before its start, so what
the order says (time does not go back, a journal only grows) holds of every program in this monad.
-/

namespace ClusterReady

universe u v

/-- A computation from a state to a value and a state that is not before it. -/
def Run (S : Type u) [LE S] (α : Type v) : Type (max u v) :=
  (s : S) → { r : α × S // s ≤ r.2 }

namespace Run

variable {S : Type u} [LE S] [Std.IsPreorder S] {α β : Type v}

/-- The value that a run from `s` ends with. -/
def value (m : Run S α) (s : S) : α := (m s).val.1

/-- The state that a run from `s` ends in. -/
def final (m : Run S α) (s : S) : S := (m s).val.2

omit [Std.IsPreorder S] in
theorem le_final (m : Run S α) (s : S) : s ≤ m.final s := (m s).property

/-- Changes nothing. -/
protected def pure (a : α) : Run S α := fun s => ⟨(a, s), Std.le_refl s⟩

/-- One run after the other. -/
protected def bind (m : Run S α) (f : α → Run S β) : Run S β := fun s =>
  match m s with
  | ⟨(a, s'), h⟩ =>
    match f a s' with
    | ⟨r, h'⟩ => ⟨r, Std.le_trans h h'⟩

instance : Monad (Run S) where
  pure := Run.pure
  bind := Run.bind

/-- The value that `f` reads off the present state. -/
def read (f : S → α) : Run S α := fun s => ⟨(f s, s), Std.le_refl s⟩

omit [Std.IsPreorder S] in
/-- Moves to a later state. -/
def move (f : S → S) (h : ∀ s, s ≤ f s) : Run S PUnit := fun s => ⟨(⟨⟩, f s), h s⟩

@[simp] theorem value_pure (a : α) (s : S) : (pure a : Run S α).value s = a := rfl

@[simp] theorem final_pure (a : α) (s : S) : (pure a : Run S α).final s = s := rfl

@[simp] theorem value_bind (m : Run S α) (f : α → Run S β) (s : S) :
    (m >>= f).value s = (f (m.value s)).value (m.final s) := rfl

@[simp] theorem final_bind (m : Run S α) (f : α → Run S β) (s : S) :
    (m >>= f).final s = (f (m.value s)).final (m.final s) := rfl

@[simp] theorem value_read (f : S → α) (s : S) : (read f).value s = f s := rfl

@[simp] theorem final_read (f : S → α) (s : S) : (read f).final s = s := rfl

omit [Std.IsPreorder S] in
@[simp] theorem final_move (f : S → S) (h : ∀ s, s ≤ f s) (s : S) : (move f h).final s = f s := rfl

omit [Std.IsPreorder S] in
/-- Two runs with the same value and end from every state are the same. -/
theorem ext {m n : Run S α} (hv : ∀ s, m.value s = n.value s) (hf : ∀ s, m.final s = n.final s) :
    m = n :=
  funext fun s => Subtype.ext (Prod.ext (hv s) (hf s))

instance : LawfulMonad (Run S) :=
  LawfulMonad.mk' _
    (fun _ => Run.ext (fun _ => rfl) (fun _ => rfl))
    (fun _ _ => Run.ext (fun _ => rfl) (fun _ => rfl))
    (fun _ _ _ => Run.ext (fun _ => rfl) (fun _ => rfl))

end Run

end ClusterReady
