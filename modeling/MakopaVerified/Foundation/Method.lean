import MakopaVerified.Foundation.Checks

/-!
# Fallible methods on a mutable receiver

A Rust method `fn f(&mut self, ..) -> Result<T, E>` reads and writes its receiver and may stop
early with `?`. Whatever it wrote before it stopped stays written: only an explicit
`*self = before` takes it back. `Method` is the state-and-error monad with that reading, and
`restoring` is the wrapper that puts the receiver back on every error.
-/

namespace MakopaVerified.Foundation

/-- A fallible method on a mutable receiver of type `σ`. -/
def Method (σ ε α : Type) : Type := σ → Except ε α × σ

namespace Method

variable {σ τ ε ε' α β : Type}

/-- Call the method on the receiver `s`: its result and the receiver afterwards. -/
def run (m : Method σ ε α) (s : σ) : Except ε α × σ := m s

/-- `?`: continue with the value, or stop with the error and the receiver as it is. -/
protected def bind (m : Method σ ε α) (f : α → Method σ ε β) : Method σ ε β := fun s =>
  match m s with
  | (.ok a, s') => f a s'
  | (.error e, s') => (.error e, s')

instance : Monad (Method σ ε) where
  pure a := fun s => (.ok a, s)
  bind := Method.bind

/-- Read the receiver. -/
def self : Method σ ε σ := fun s => (.ok s, s)

/-- Assign to the receiver. -/
def update (f : σ → σ) : Method σ ε Unit := fun s => (.ok (), f s)

/-- `return Err(e)`. -/
def fail (e : ε) : Method σ ε α := fun s => (.error e, s)

/-- Call a method that only reads the receiver (`&self`). -/
def query (f : σ → Except ε α) : Method σ ε α := fun s => (f s, s)

/-- Call a method on a part of the receiver, and convert its error (`map_err`). -/
def onPart (get : σ → τ) (put : τ → σ → σ) (err : ε' → ε) (m : Method τ ε' α) : Method σ ε α :=
  fun s =>
    match m (get s) with
    | (.ok a, t) => (.ok a, put t s)
    | (.error e, t) => (.error (err e), put t s)

/-- Turn the error of a method into a value, as `match f() { Ok(..) => .., Err(..) => .. }` does. -/
def attempt {ε' : Type} (m : Method σ ε α) : Method σ ε' (Except ε α) := fun s =>
  match m s with
  | (r, s') => (.ok r, s')

/-- `let before = *self; ..; if result.is_err() { *self = before; }`. -/
def restoring (m : Method σ ε α) : Method σ ε α := fun s =>
  match m s with
  | (.ok a, s') => (.ok a, s')
  | (.error e, _) => (.error e, s)

/-- On an error, apply `undo` to the receiver and pass the error on. -/
def undoing (undo : σ → σ) (m : Method σ ε α) : Method σ ε α := fun s =>
  match m s with
  | (.ok a, s') => (.ok a, s')
  | (.error e, s') => (.error e, undo s')

/-! ## Running a method -/

@[simp]
theorem run_pure (a : α) (s : σ) : (pure a : Method σ ε α).run s = (.ok a, s) := rfl

theorem run_bind (m : Method σ ε α) (f : α → Method σ ε β) (s : σ) :
    (m >>= f).run s = match m.run s with
      | (.ok a, s') => (f a).run s'
      | (.error e, s') => (.error e, s') := by
  show Method.bind m f s = _
  unfold Method.bind run
  rfl

@[simp]
theorem run_self (s : σ) : (self : Method σ ε σ).run s = (.ok s, s) := rfl

@[simp]
theorem run_update (f : σ → σ) (s : σ) : (update f : Method σ ε Unit).run s = (.ok (), f s) := rfl

theorem run_self_bind (f : σ → Method σ ε α) (s : σ) : (self >>= f).run s = (f s).run s := rfl

theorem run_update_bind (g : σ → σ) (f : Unit → Method σ ε α) (s : σ) :
    (update g >>= f).run s = (f ()).run (g s) := rfl

@[simp]
theorem run_fail (e : ε) (s : σ) : (fail e : Method σ ε α).run s = (.error e, s) := rfl

@[simp]
theorem run_query (f : σ → Except ε α) (s : σ) : (query f).run s = (f s, s) := rfl

theorem run_onPart (get : σ → τ) (put : τ → σ → σ) (err : ε' → ε) (m : Method τ ε' α) (s : σ) :
    (onPart get put err m).run s = match m.run (get s) with
      | (.ok a, t) => (.ok a, put t s)
      | (.error e, t) => (.error (err e), put t s) := rfl

theorem run_attempt (m : Method σ ε α) (s : σ) :
    (attempt m : Method σ ε' _).run s = (.ok (m.run s).1, (m.run s).2) := rfl

theorem run_attempt_of {m : Method σ ε α} {s s' : σ} {r : Except ε α} (h : m.run s = (r, s')) :
    (attempt m : Method σ ε' _).run s = (.ok r, s') := by
  rw [run_attempt, h]

theorem run_attempt_eq_ok {m : Method σ ε α} {s s' : σ} {r : Except ε α} :
    (attempt m : Method σ ε' _).run s = (.ok r, s') ↔ m.run s = (r, s') := by
  rw [run_attempt, Prod.mk.injEq, Except.ok.injEq, Prod.ext_iff]

theorem run_undoing (undo : σ → σ) (m : Method σ ε α) (s : σ) :
    (undoing undo m).run s = match m.run s with
      | (.ok a, s') => (.ok a, s')
      | (.error e, s') => (.error e, undo s') := rfl

theorem run_ite (c : Prop) [Decidable c] (m m' : Method σ ε α) (s : σ) :
    (if c then m else m').run s = if c then m.run s else m'.run s := by
  split <;> rfl

/-- A call returns its result and leaves its receiver. -/
theorem run_eq_of_result {m : Method σ ε α} {s : σ} {r : Except ε α} (h : (m.run s).1 = r) :
    m.run s = (r, (m.run s).2) := by
  rw [← h]

/-- A call on one receiver ends in one way. -/
theorem run_ok_inj {m : Method σ ε α} {s s' s'' : σ} {a b : α} (h : m.run s = (.ok a, s'))
    (h' : m.run s = (.ok b, s'')) : a = b ∧ s' = s'' := by
  simpa using h.symm.trans h'

/-- A successful first call is followed by the rest of the method. -/
theorem run_bind_ok {m : Method σ ε α} {f : α → Method σ ε β} {s s' : σ} {a : α}
    (h : m.run s = (.ok a, s')) : (m >>= f).run s = (f a).run s' := by
  rw [run_bind, h]

/-- A failed first call stops the method. -/
theorem run_bind_error {m : Method σ ε α} {f : α → Method σ ε β} {s s' : σ} {e : ε}
    (h : m.run s = (.error e, s')) : (m >>= f).run s = (.error e, s') := by
  rw [run_bind, h]

/-- A method that returns a value got one from each of its calls. -/
theorem run_bind_eq_ok {m : Method σ ε α} {f : α → Method σ ε β} {s s'' : σ} {b : β} :
    (m >>= f).run s = (.ok b, s'') ↔
      ∃ a s', m.run s = (.ok a, s') ∧ (f a).run s' = (.ok b, s'') := by
  rw [run_bind]
  rcases m.run s with ⟨_ | a, s'⟩ <;> simp

/-! ## Transactions -/

theorem run_restoring (m : Method σ ε α) (s : σ) :
    (restoring m).run s = match m.run s with
      | (.ok a, s') => (.ok a, s')
      | (.error e, _) => (.error e, s) := rfl

/-- A restoring method returns what the inner method returns, in the same state. -/
theorem run_restoring_ok {m : Method σ ε α} {s s' : σ} {a : α} :
    (restoring m).run s = (.ok a, s') ↔ m.run s = (.ok a, s') := by
  rw [run_restoring]
  rcases m.run s with ⟨_ | b, t⟩ <;> simp

/-- An undoing method returns what the inner method returns, in the same state. -/
theorem run_undoing_ok {undo : σ → σ} {m : Method σ ε α} {s s' : σ} {a : α} :
    (undoing undo m).run s = (.ok a, s') ↔ m.run s = (.ok a, s') := by
  rw [run_undoing]
  rcases m.run s with ⟨_ | b, t⟩ <;> simp

end Method

/-- A guarded check passes exactly when its guard is not met and the rest passes. -/
theorem check_ite_eq_ok {ε α : Type} {c : Prop} [Decidable c] {e : ε} {y : Except ε α} {a : α} :
    (if c then .error e else y) = .ok a ↔ ¬ c ∧ y = .ok a := by
  split <;> simp_all

end MakopaVerified.Foundation
