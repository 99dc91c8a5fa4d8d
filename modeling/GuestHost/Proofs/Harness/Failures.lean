import GuestHost.Instance.Scripted
import GuestHost.Proofs.Harness.Runs

/-!
# Which failure is reported

A string that is lent is released however the call ends, so two things can go wrong after it has
been written: the call, and the release.  `callLending` keeps the outcome of both and hands on
that of the call first (`callLending_of_trap`).  `toUpper` hands on that of the release first
(`toUpper_of_fails`), so if the release traps it is all that is heard of, whatever the call has
come to before.

`UpperFails` says in which ways the call of `ToUpper` goes wrong by itself.  Such a failure is
reported if the guest comes back from releasing the string, and in no other case.
-/

namespace GuestHost.Harness

variable {γ : Type} {program : GuestProgram γ} {inst lent : Instance γ}
  {state called freed : GuestState γ} {name text : String} {arguments : List Int32}
  {pointer : Int32} {error : HarnessError}

/-! ## A guest that traps -/

/-- A function of the guest does not come back. -/
def Traps (program : GuestProgram γ) (name : String) (arguments : List Int32)
    (state after : GuestState γ) : Prop :=
  program.invoke name arguments state = (.error .trap, after)

theorem returns_or_traps (program : GuestProgram γ) (name : String) (arguments : List Int32)
    (state : GuestState γ) :
    (∃ after, Returns program name arguments state after) ∨
      ∃ after, Traps program name arguments state after := by
  rcases hinvoke : program.invoke name arguments state with ⟨outcome, after⟩
  cases outcome with
  | ok answer => exact .inl ⟨after, answer, hinvoke⟩
  | error cause => exact .inr ⟨after, hinvoke⟩

/-- What a computation comes to where its value is known. -/
theorem run_of_toOption {α : Type} {computation : Harness γ α} {value : α}
    (hvalue : (computation program inst).1.toOption = some value) :
    computation program inst = (.ok value, (computation program inst).2) := by
  rcases hrun : computation program inst with ⟨outcome, after⟩
  rw [hrun] at hvalue
  cases outcome with
  | error failure => cases hvalue
  | ok found =>
      obtain rfl : found = value := Option.some.inj hvalue
      rfl

/-- What a function of the guest does where it is known to have no answer. -/
theorem traps_of_toOption (hnone : (program.invoke name arguments state).1.toOption = none) :
    Traps program name arguments state (program.invoke name arguments state).2 := by
  unfold Traps
  rcases hinvoke : program.invoke name arguments state with ⟨outcome, after⟩
  rw [hinvoke] at hnone
  cases outcome with
  | ok answer => cases hnone
  | error cause => rfl

theorem call_run_trap {signature : Signature}
    (hexports : exportsFunction program name signature = true)
    (htraps : Traps program name arguments inst.state called) :
    call name signature arguments program inst =
      (.error (.error (.callFailed name)), inst.called name arguments called) := by
  unfold call
  rw [if_pos hexports]
  exact invoke_run_trap htraps _

theorem free_run_trap (htraps : Traps program Export.free [pointer] inst.state freed) :
    free pointer program inst =
      (.error (.error .freeFailed), inst.called Export.free [pointer] freed) := by
  rw [free, Attempt.bind_of_error (invoke_run_trap htraps _)]

/-- A computation whose end is kept goes on from there. -/
theorem outcome_run {α : Type} {first : Harness γ α} {outcome : Except (Failure HarnessError) α}
    {after : Instance γ} (hrun : first program inst = (outcome, after)) :
    Attempt.outcome first program inst = (.ok outcome, after) := by
  rw [Attempt.outcome, hrun]

/-! ## A call that traps -/

/-- That a call has trapped is reported whatever becomes of the string. -/
theorem callLending_of_trap (hexports : exportsFunction program name .unary = true)
    (hwritten : writeCString text program inst = (.ok pointer, lent))
    (htraps : Traps program name [pointer] lent.state called) :
    (callLending name text program inst).1 = .error (.error (.callFailed name)) := by
  have hcall := outcome_run (call_run_trap hexports htraps)
  rw [callLending, Attempt.bind_of_ok hwritten, Attempt.bind_of_ok hcall]
  rcases hfree : free pointer program (lent.called name [pointer] called) with ⟨freed, after⟩
  rw [Attempt.bind_of_ok (outcome_run hfree)]
  rfl

/-! ## `ToUpper` -/

/-- The call of `ToUpper` for the string that is lent at a pointer goes wrong: the guest traps,
answers another pointer than that of the string, or leaves what is no string or no text.  Along
with the error it is told what the guest leaves behind. -/
inductive UpperFails (program : GuestProgram γ) (lent : Instance γ) (pointer : Int32) :
    HarnessError → GuestState γ → Prop
  | trapped {called : GuestState γ}
      (htraps : Traps program Export.toUpper [pointer] lent.state called) :
      UpperFails program lent pointer (.callFailed Export.toUpper) called
  | rejected {called : GuestState γ} {answer : Int32}
      (hinvoke : program.invoke Export.toUpper [pointer] lent.state = (.ok answer, called))
      (hnull : answer ≠ 0) (hother : answer ≠ pointer) :
      UpperFails program lent pointer (.otherPointer Export.toUpper answer pointer) called
  | unreadable {called : GuestState γ} {error : AccessError}
      (hinvoke : program.invoke Export.toUpper [pointer] lent.state = (.ok pointer, called))
      (hread : called.memory.readCString pointer lent.maxStringLength = .error error) :
      UpperFails program lent pointer (.access error) called
  | notText {called : GuestState γ} {bytes : Bytes}
      (hinvoke : program.invoke Export.toUpper [pointer] lent.state = (.ok pointer, called))
      (hread : called.memory.readCString pointer lent.maxStringLength = .ok bytes)
      (hdecode : Utf8.decode? bytes = none) :
      UpperFails program lent pointer (.notText "Guest") called

/-- None of these is the failure of a release. -/
theorem UpperFails.ne_freeFailed (hfails : UpperFails program lent pointer error called) :
    error ≠ .freeFailed := by
  cases hfails <;> nofun

theorem readText_run_error {cause : AccessError}
    (hread : inst.state.memory.readCString pointer inst.maxStringLength = .error cause) :
    readText pointer program inst = (.error (.error (.access cause)), inst) := by
  have hlook : (Attempt.look fun inst => inst.maxStringLength : Harness γ Nat) program inst =
      (.ok inst.maxStringLength, inst) := rfl
  have hbytes : read (fun memory => memory.readCString pointer inst.maxStringLength) program
      inst = (.error (.error (.access cause)), inst) := by
    rw [read, hread]
    rfl
  rw [readText, Attempt.bind_of_ok hlook, Attempt.bind_of_error hbytes]

/-- What the call of `ToUpper` comes to by itself, before the string is released. -/
theorem UpperFails.run (hexports : exportsFunction program Export.toUpper .unary = true)
    (hnull : pointer ≠ 0) (hfails : UpperFails program lent pointer error called) :
    (call Export.toUpper .unary [pointer] >>= upperAnswer pointer) program lent =
      (.error (.error error), lent.called Export.toUpper [pointer] called) := by
  cases hfails with
  | trapped htraps => rw [Attempt.bind_of_error (call_run_trap hexports htraps)]
  | rejected hinvoke hanswer hother =>
      rw [Attempt.bind_of_ok (call_run hexports hinvoke), upperAnswer, if_neg hanswer,
        if_neg hother]
      rfl
  | unreadable hinvoke hread =>
      rw [Attempt.bind_of_ok (call_run hexports hinvoke), upperAnswer, if_neg hnull, if_pos rfl,
        Attempt.bind_of_error (readText_run_error hread)]
  | notText hinvoke hread hdecode =>
      have htext : readText pointer program (lent.called Export.toUpper [pointer] called) = _ :=
        readText_run hread
      rw [hdecode] at htext
      rw [Attempt.bind_of_ok (call_run hexports hinvoke), upperAnswer, if_neg hnull, if_pos rfl,
        Attempt.bind_of_error htext]

/-- No string is written at the null pointer. -/
theorem ne_zero_of_writeCString (hwritten : writeCString text program inst = (.ok pointer, lent)) :
    pointer ≠ 0 := by
  rw [writeCString] at hwritten
  split at hwritten
  · cases hwritten
  · obtain ⟨_, hnull, -⟩ := writeBytes_eq_ok hwritten
    exact hnull

section Upper

variable (hexports : exportsFunction program Export.toUpper .unary = true)
  (hwritten : writeCString text program inst = (.ok pointer, lent))
  (hfails : UpperFails program lent pointer error called)

include hexports hwritten hfails

/-- After a call that has gone wrong everything depends on the release of the string. -/
theorem toUpper_of_fails : (toUpper text program inst).1 =
    (free pointer program (lent.called Export.toUpper [pointer] called)).1.bind
      fun _ => .error (.error error) := by
  have hcall := outcome_run (hfails.run hexports (ne_zero_of_writeCString hwritten))
  rw [toUpper, Attempt.bind_of_ok hwritten, Attempt.bind_of_ok hcall, Attempt.bind_apply]
  rcases free pointer program (lent.called Export.toUpper [pointer] called) with ⟨freed, after⟩
  cases freed <;> rfl

theorem toUpper_of_fails_of_returns (hfree : Returns program Export.free [pointer] called freed) :
    (toUpper text program inst).1 = .error (.error error) := by
  have hrun : free pointer program (lent.called Export.toUpper [pointer] called) = _ :=
    free_run hfree
  rw [toUpper_of_fails hexports hwritten hfails, hrun]
  rfl

theorem toUpper_of_fails_of_traps (hfree : Traps program Export.free [pointer] called freed) :
    (toUpper text program inst).1 = .error (.error .freeFailed) := by
  have hrun : free pointer program (lent.called Export.toUpper [pointer] called) = _ :=
    free_run_trap hfree
  rw [toUpper_of_fails hexports hwritten hfails, hrun]
  rfl

end Upper

/-! ## Which of two failures -/

/-- Whatever the guest is, once a string has been written for it: that the call of `HelloWorld`
has trapped is reported in any case, while an error of the call of `ToUpper` is reported exactly
if the guest comes back from releasing the string.  If it traps there as well, the failure of
the release is reported in place of the call's own. -/
theorem failures_of_lent_strings
    (hchecked : checkModule program.exports program.imports = .ok ()) (inst : Instance γ)
    (hwritten : writeCString text program inst = (.ok pointer, lent)) :
    (∀ called, Traps program Export.helloWorld [pointer] lent.state called →
      (helloWorld text program inst).1 = .error (.error (.callFailed Export.helloWorld))) ∧
    (∀ error called, UpperFails program lent pointer error called →
      ((toUpper text program inst).1 = .error (.error error) ↔
        ∃ freed, Returns program Export.free [pointer] called freed) ∧
      (∀ freed, Traps program Export.free [pointer] called freed →
        (toUpper text program inst).1 = .error (.error .freeFailed))) ∧
    (HarnessError.callFailed Export.helloWorld).message = "Call to 'HelloWorld' failed" ∧
    (HarnessError.callFailed Export.toUpper).message = "Call to 'ToUpper' failed" := by
  have hhello : exportsFunction program Export.helloWorld .unary = true :=
    exportsFunction_of_checkModule hchecked rfl
  have hupper : exportsFunction program Export.toUpper .unary = true :=
    exportsFunction_of_checkModule hchecked rfl
  refine ⟨fun called htraps => callLending_of_trap hhello hwritten htraps,
    fun error called hfails => ⟨⟨fun hreported => ?_, fun ⟨freed, hfree⟩ => ?_⟩, ?_⟩, rfl, rfl⟩
  · -- had the release trapped, its own failure would have been reported
    rcases returns_or_traps program Export.free [pointer] called with hfree | ⟨freed, hfree⟩
    · exact hfree
    · rw [toUpper_of_fails_of_traps hupper hwritten hfails hfree] at hreported
      cases hreported
      exact absurd rfl hfails.ne_freeFailed
  · exact toUpper_of_fails_of_returns hupper hwritten hfails hfree
  · exact fun freed => toUpper_of_fails_of_traps hupper hwritten hfails

/-- The scripted guest traps in both functions, and comes back from releasing their strings. -/
theorem traps_are_reported :
    let told := ((ScriptedGuest.start Settings.default 1).put 8 [5, 0, 0, 0]).put 24 [5, 0, 0, 0]
    (helloWorld "ab" ScriptedGuest.program told).1 =
        .error (.error (.callFailed Export.helloWorld)) ∧
      (toUpper "ab" ScriptedGuest.program told).1 =
        .error (.error (.callFailed Export.toUpper)) := by
  intro told
  have hchecked : checkModule ScriptedGuest.program.exports ScriptedGuest.program.imports =
      .ok () := rfl
  have hpointer : (writeCString "ab" ScriptedGuest.program told).1.toOption = some 4104 := by
    decide +kernel
  let lent := (writeCString "ab" ScriptedGuest.program told).2
  have hwritten : writeCString "ab" ScriptedGuest.program told = (.ok 4104, lent) :=
    run_of_toOption hpointer
  let called := (ScriptedGuest.program.invoke Export.toUpper [4104] lent.state).2
  have hgreeting : Traps ScriptedGuest.program Export.helloWorld [4104] lent.state _ :=
    traps_of_toOption (by decide +kernel)
  have hupper : Traps ScriptedGuest.program Export.toUpper [4104] lent.state called :=
    traps_of_toOption (by decide +kernel)
  have hfree : Returns ScriptedGuest.program Export.free [4104] called _ :=
    ⟨0, invoke_of_toOption (by decide +kernel)⟩
  obtain ⟨hlending, huppering, -⟩ := failures_of_lent_strings hchecked told hwritten
  exact ⟨hlending _ hgreeting, (huppering _ _ (.trapped hupper)).1.mpr ⟨_, hfree⟩⟩

/-- If it traps in `free` as well, this is all that is heard of a call of `ToUpper`. -/
theorem release_hides_the_call :
    let told := ((ScriptedGuest.start Settings.default 1).put 4 [5, 0, 0, 0]).put 24 [5, 0, 0, 0]
    let lent := (writeCString "ab" ScriptedGuest.program told).2
    checkModule ScriptedGuest.program.exports ScriptedGuest.program.imports = .ok () ∧
      writeCString "ab" ScriptedGuest.program told = (.ok 4104, lent) ∧
      (∃ called, Traps ScriptedGuest.program Export.toUpper [4104] lent.state called) ∧
      (toUpper "ab" ScriptedGuest.program told).1 = .error (.error .freeFailed) ∧
      (toUpper "ab" ScriptedGuest.program told).1 ≠
        .error (.error (.callFailed Export.toUpper)) := by
  intro told lent
  have hpointer : (writeCString "ab" ScriptedGuest.program told).1.toOption = some 4104 := by
    decide +kernel
  have hwritten : writeCString "ab" ScriptedGuest.program told = (.ok 4104, lent) :=
    run_of_toOption hpointer
  let called := (ScriptedGuest.program.invoke Export.toUpper [4104] lent.state).2
  have hupper : Traps ScriptedGuest.program Export.toUpper [4104] lent.state called :=
    traps_of_toOption (by decide +kernel)
  have hfree : Traps ScriptedGuest.program Export.free [4104] called _ :=
    traps_of_toOption (by decide +kernel)
  have hreported := toUpper_of_fails_of_traps rfl hwritten (.trapped hupper) hfree
  refine ⟨rfl, hwritten, ⟨called, hupper⟩, hreported, ?_⟩
  rw [hreported]
  nofun

end GuestHost.Harness
