/-!
# Computations that may stop

Guest code, the caller of a guest and the harness all compute in the same way:
they read an environment that stays fixed, carry a state along, and end with a
value or stop with an error.  Stopping does not undo anything: the state reached
by then is kept, so that whoever called can go on from it.
-/

namespace GuestHost

/-- A computation in an environment `ρ` over a state `s` that ends with an `α` or
stops with an `ε`. -/
def Attempt (ρ s ε α : Type) : Type :=
  ρ → s → Except ε α × s

namespace Attempt

variable {ρ s ε α β : Type}

instance : Monad (Attempt ρ s ε) where
  pure value := fun _ state => (.ok value, state)
  bind first next := fun environment state =>
    match first environment state with
    | (.ok value, state) => next value environment state
    | (.error error, state) => (.error error, state)

/-- Stop with an error. -/
def stop (error : ε) : Attempt ρ s ε α := fun _ state => (.error error, state)

/-- What the current state shows. -/
def look (view : s → α) : Attempt ρ s ε α := fun _ state => (.ok (view state), state)

/-- Change the state. -/
def change (next : s → s) : Attempt ρ s ε Unit := fun _ state => (.ok (), next state)

/-- Give the value of a finished computation, or stop with its error. -/
def ofExcept (outcome : Except ε α) : Attempt ρ s ε α := fun _ state => (outcome, state)

/-- How a computation ends, as a value: it is run, and does not stop what follows. -/
def outcome (first : Attempt ρ s ε α) : Attempt ρ s ε (Except ε α) := fun environment state =>
  let (outcome, state) := first environment state
  (.ok outcome, state)

/-! ### How the operations run -/

theorem bind_apply (first : Attempt ρ s ε α) (next : α → Attempt ρ s ε β) (environment : ρ)
    (state : s) :
    (first >>= next) environment state =
      match first environment state with
      | (.ok value, state) => next value environment state
      | (.error error, state) => (.error error, state) := rfl

theorem bind_of_ok {first : Attempt ρ s ε α} {next : α → Attempt ρ s ε β} {environment : ρ}
    {state after : s} {value : α} (hends : first environment state = (.ok value, after)) :
    (first >>= next) environment state = next value environment after := by
  rw [bind_apply, hends]

theorem bind_of_error {first : Attempt ρ s ε α} {next : α → Attempt ρ s ε β} {environment : ρ}
    {state after : s} {error : ε} (hstops : first environment state = (.error error, after)) :
    (first >>= next) environment state = (.error error, after) := by
  rw [bind_apply, hstops]

/-- A computation that has come to a value has come to one at its first step. -/
theorem bind_eq_ok {first : Attempt ρ s ε α} {next : α → Attempt ρ s ε β} {environment : ρ}
    {state after : s} {value : β}
    (hends : (first >>= next) environment state = (.ok value, after)) :
    ∃ found middle, first environment state = (.ok found, middle) ∧
      next found environment middle = (.ok value, after) := by
  rw [bind_apply] at hends
  rcases hrun : first environment state with ⟨outcome, middle⟩
  rw [hrun] at hends
  cases outcome with
  | error error => cases hends
  | ok found => exact ⟨found, middle, rfl, hends⟩

theorem id_map_attempt (first : Attempt ρ s ε α) : id <$> first = first := by
  funext environment state
  simp only [Functor.map, Function.comp]
  rcases first environment state with ⟨outcome, after⟩
  cases outcome <;> rfl

theorem bind_assoc_attempt {γ : Type} (first : Attempt ρ s ε α) (second : α → Attempt ρ s ε β)
    (third : β → Attempt ρ s ε γ) :
    first >>= second >>= third = first >>= fun value => second value >>= third := by
  funext environment state
  simp only [bind_apply]
  rcases first environment state with ⟨outcome, after⟩
  cases outcome <;> rfl

instance : LawfulMonad (Attempt ρ s ε) :=
  LawfulMonad.mk' (Attempt ρ s ε) id_map_attempt (fun _ _ => rfl) bind_assoc_attempt

end Attempt

end GuestHost
