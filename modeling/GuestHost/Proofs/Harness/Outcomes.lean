import GuestHost.Instance.Calls

/-!
# How the harness ends

What the harness does ends with a value, with an error that it reports, or with a
panic.  From a value it can be told what each operation on the way has answered
(`read_eq_ok`).

That it does not fail in a certain way is seen operation by operation.  `Avoids` is kept by
whatever the harness is built of, if the failures that arise in the operations themselves
are others.  A computation is `Orderly` if it avoids panics; only the sum of two pointers in
a frame is not orderly by itself.  An orderly computation that has no value reports an error
(`Orderly.exists_error`).
-/

namespace GuestHost

namespace Harness

variable {γ α β : Type} {program : GuestProgram γ} {inst after : Instance γ}

/-- What has been read was there to be read, and reading has changed nothing. -/
theorem read_eq_ok {reader : LinearMemory → Except AccessError α} {value : α}
    (hread : read reader program inst = (.ok value, after)) :
    reader inst.state.memory = .ok value ∧ after = inst := by
  unfold read at hread
  cases hreader : reader inst.state.memory with
  | error error =>
      rw [hreader] at hread
      cases hread
  | ok found =>
      rw [hreader] at hread
      cases hread
      exact ⟨rfl, rfl⟩

/-! ## Ways to fail -/

/-- Whatever the guest does, the computation does not fail in certain ways. -/
def Avoids (program : GuestProgram γ) (ways : Failure HarnessError → Prop)
    (computation : Harness γ α) : Prop :=
  ∀ inst failure, (computation program inst).1 = .error failure → ¬ ways failure

namespace Avoids

variable {ways : Failure HarnessError → Prop}

theorem pure (value : α) : Avoids program ways (pure value : Harness γ α) :=
  fun _ _ => nofun

theorem look (view : Instance γ → α) : Avoids program ways (Attempt.look view : Harness γ α) :=
  fun _ _ => nofun

theorem change (next : Instance γ → Instance γ) :
    Avoids program ways (Attempt.change next : Harness γ Unit) :=
  fun _ _ => nofun

theorem fail {error : HarnessError} (herror : ¬ ways (.error error)) :
    Avoids program ways (fail error : Harness γ α) := by
  rintro inst failure ⟨⟩
  exact herror

theorem ofExcept {outcome : Except (Failure HarnessError) α}
    (houtcome : ∀ failure, outcome = .error failure → ¬ ways failure) :
    Avoids program ways (Attempt.ofExcept outcome : Harness γ α) :=
  fun _ => houtcome

theorem ite {condition : Prop} [Decidable condition] {first second : Harness γ α}
    (hfirst : Avoids program ways first) (hsecond : Avoids program ways second) :
    Avoids program ways (if condition then first else second) := by
  split
  · exact hfirst
  · exact hsecond

theorem bind {first : Harness γ α} {next : α → Harness γ β}
    (hfirst : Avoids program ways first) (hnext : ∀ value, Avoids program ways (next value)) :
    Avoids program ways (first >>= next) := by
  intro inst failure hfails
  rw [Attempt.bind_apply] at hfails
  rcases hrun : first program inst with ⟨outcome, middle⟩
  rw [hrun] at hfails
  cases outcome with
  | ok value => exact hnext value middle failure hfails
  | error cause =>
      obtain rfl : cause = failure := by simpa using hfails
      exact hfirst inst cause (by rw [hrun])

/-- An outcome that is kept is none of the ways, and what follows may hand it on. -/
theorem outcome {first : Harness γ α} {next : Except (Failure HarnessError) α → Harness γ β}
    (hfirst : Avoids program ways first)
    (hnext : ∀ outcome : Except (Failure HarnessError) α,
      (∀ failure, outcome = .error failure → ¬ ways failure) →
      Avoids program ways (next outcome)) :
    Avoids program ways (Attempt.outcome first >>= next) := by
  intro inst
  have hends : Attempt.outcome first program inst =
      (.ok (first program inst).1, (first program inst).2) := rfl
  rw [Attempt.bind_of_ok hends]
  exact hnext _ (hfirst inst) _

theorem read {reader : LinearMemory → Except AccessError α}
    (haccess : ∀ error, ¬ ways (.error (.access error))) :
    Avoids program ways (read reader : Harness γ α) := by
  intro inst failure hfails
  unfold Harness.read at hfails
  cases hreader : reader inst.state.memory with
  | ok value =>
      rw [hreader] at hfails
      cases hfails
  | error error =>
      rw [hreader] at hfails
      cases hfails
      exact haccess error

theorem readFrame (haccess : ∀ error, ¬ ways (.error (.access error)))
    (hpanic : ∀ cause, ¬ ways (.panic cause)) (pointer : Int32) :
    Avoids program ways (readFrame pointer : Harness γ Bytes) := by
  intro inst failure hfails
  unfold Harness.readFrame at hfails
  cases hframe : inst.state.memory.readFrame pointer with
  | ok payload =>
      rw [hframe] at hfails
      cases hfails
  | error cause =>
      rw [hframe] at hfails
      cases hfails
      cases cause with
      | error error => exact haccess error
      | panic cause => exact hpanic cause

theorem write (haccess : ∀ error, ¬ ways (.error (.access error))) (pointer : Int32)
    (bytes : Bytes) :
    Avoids program ways (writeBytes.write pointer bytes : Harness γ Unit) := by
  intro inst failure hfails
  unfold writeBytes.write at hfails
  cases hwritten : inst.state.memory.writeAt pointer bytes with
  | ok memory =>
      rw [hwritten] at hfails
      cases hfails
  | error error =>
      rw [hwritten] at hfails
      cases hfails
      exact haccess error

theorem invoke {onTrap : HarnessError} (htrap : ¬ ways (.error onTrap)) (name : String)
    (arguments : List Int32) :
    Avoids program ways (invoke name arguments onTrap : Harness γ Int32) := by
  intro inst failure hfails
  unfold Harness.invoke at hfails
  rcases hrun : program.invoke name arguments inst.state with ⟨outcome, state⟩
  rw [hrun] at hfails
  cases outcome with
  | ok answer => cases hfails
  | error =>
      cases hfails
      exact htrap

/-- That a function is missing is a failure only where it is missing. -/
theorem call {name : String} {signature : Signature}
    (hmissing : exportsFunction program name signature = false →
      ¬ ways (.error (.noFunction name)))
    (htrap : ¬ ways (.error (.callFailed name))) (arguments : List Int32) :
    Avoids program ways (call name signature arguments : Harness γ Int32) := by
  intro inst failure hfails
  unfold Harness.call at hfails
  split at hfails
  · exact invoke htrap name arguments inst failure hfails
  · next habsent =>
      cases hfails
      exact hmissing (Bool.eq_false_iff.mpr habsent)

end Avoids

/-! ## Computations without a panic -/

/-- Whatever the guest does, the computation does not panic. -/
def Orderly (computation : Harness γ α) : Prop :=
  ∀ program inst cause, (computation program inst).1 ≠ .error (.panic cause)

/-- The failures that are panics. -/
inductive Panics : Failure HarnessError → Prop
  | panic (cause : Panic) : Panics (.panic cause)

theorem orderly_iff {computation : Harness γ α} :
    Orderly computation ↔ ∀ program, Avoids program Panics computation := by
  constructor
  · rintro horderly program inst - hfails ⟨cause⟩
    exact horderly program inst cause hfails
  · intro havoids program inst cause hpanic
    exact havoids program inst (.panic cause) hpanic (.panic cause)

namespace Orderly

theorem pure (value : α) : Orderly (pure value : Harness γ α) :=
  orderly_iff.mpr fun _ => .pure value

theorem fail (error : HarnessError) : Orderly (fail error : Harness γ α) :=
  orderly_iff.mpr fun _ => .fail nofun

theorem bind {first : Harness γ α} {next : α → Harness γ β} (hfirst : Orderly first)
    (hnext : ∀ value, Orderly (next value)) : Orderly (first >>= next) :=
  orderly_iff.mpr fun program =>
    .bind (orderly_iff.mp hfirst program) fun value => orderly_iff.mp (hnext value) program

theorem ite {condition : Prop} [Decidable condition] {first second : Harness γ α}
    (hfirst : Orderly first) (hsecond : Orderly second) :
    Orderly (if condition then first else second) :=
  orderly_iff.mpr fun program =>
    .ite (orderly_iff.mp hfirst program) (orderly_iff.mp hsecond program)

theorem read (reader : LinearMemory → Except AccessError α) :
    Orderly (read reader : Harness γ α) :=
  orderly_iff.mpr fun _ => .read fun _ => nofun

theorem invoke (name : String) (arguments : List Int32) (onTrap : HarnessError) :
    Orderly (invoke name arguments onTrap : Harness γ Int32) :=
  orderly_iff.mpr fun _ => .invoke nofun name arguments

theorem call (name : String) (signature : Signature) (arguments : List Int32) :
    Orderly (call name signature arguments : Harness γ Int32) :=
  orderly_iff.mpr fun _ => .call (fun _ => nofun) nofun arguments

theorem callVoid (name : String) (signature : Signature) (arguments : List Int32) :
    Orderly (callVoid name signature arguments : Harness γ Unit) :=
  .bind (.call name signature arguments) fun _ => .pure ()

theorem free (pointer : Int32) : Orderly (free pointer : Harness γ Unit) :=
  .bind (.invoke _ _ _) fun _ => .pure ()

end Orderly

/-- An orderly computation without a value reports an error. -/
theorem Orderly.exists_error {computation : Harness γ α} (horderly : Orderly computation)
    (hvalue : ∀ value after, computation program inst ≠ (.ok value, after)) :
    ∃ error after, computation program inst = (.error (.error error), after) := by
  rcases hrun : computation program inst with ⟨outcome, after⟩
  match outcome with
  | .ok value => exact absurd hrun (hvalue value after)
  | .error (.error error) => exact ⟨error, after, rfl⟩
  | .error (.panic cause) =>
      have hpanic : (computation program inst).1 = .error (.panic cause) := by rw [hrun]
      exact absurd hpanic (horderly program inst cause)

end Harness

end GuestHost
