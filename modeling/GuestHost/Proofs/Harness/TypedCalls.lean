import GuestHost.Proofs.Harness.Exports
import GuestHost.Proofs.Harness.Outcomes
import GuestHost.Session.Instances

/-!
# Calls in the types that were checked

A method of the harness looks its functions up by name and by signature, each time that it
calls one.  The signatures are written down at the calls, and once more in the interface that
a module is checked against.  If the two ever differed, a module could pass the check and be
refused later, when the method is called.

They do not differ.  `InstanceStep.lookups` lists what a step looks up, and
`InstanceStep.run_looksUp` proves that its run makes these look-ups and no others, by following
the run call by call: `LooksUp` says of a computation that it finds a function missing only if
one of the listed look-ups fails, and that it comes to a value only if all of them succeed, so
the lists of two computations are joined when one follows the other (`LooksUp.bind`).
`InstanceStep.mem_exports_of_mem_lookups` finds each look-up in the interface.  At a module
that has passed the check every look-up succeeds, then, and no step ends with a function that
is missing.
-/

namespace GuestHost

/-- The failures that name a function which is not there. -/
inductive MissingFunction : Failure HarnessError → Prop
  | noFunction (name : String) : MissingFunction (.error (.noFunction name))

namespace Harness

variable {γ α β : Type} {program : GuestProgram γ}

/-! ## What looks no function up -/

theorem free_avoids_missing (pointer : Int32) :
    Avoids program MissingFunction (free pointer : Harness γ Unit) :=
  .bind (.invoke nofun _ _) fun _ => .pure ()

theorem writeBytes_avoids_missing (bytes : Bytes) :
    Avoids program MissingFunction (writeBytes bytes : Harness γ Int32) := by
  unfold writeBytes
  split
  · exact .fail nofun
  · exact .bind (.invoke nofun _ _) fun pointer =>
      .ite (.fail nofun) (.bind (.write (fun _ => nofun) _ _) fun _ => .pure _)

theorem writeCString_avoids_missing (text : String) :
    Avoids program MissingFunction (writeCString text : Harness γ Int32) :=
  .ite (.fail nofun) (writeBytes_avoids_missing _)

theorem readText_avoids_missing (pointer : Int32) :
    Avoids program MissingFunction (readText pointer : Harness γ String) := by
  refine .bind (.look _) fun limit => .bind (.read fun _ => nofun) fun bytes => ?_
  split
  · exact .pure _
  · exact .fail nofun

theorem upperAnswer_avoids_missing (pointer answer : Int32) :
    Avoids program MissingFunction (upperAnswer pointer answer : Harness γ (Option String)) :=
  .ite (.pure _) (.ite (.bind (readText_avoids_missing answer) fun _ => .pure _) (.fail nofun))

/-! ## The look-ups of a computation -/

/-- The failure, if it names a missing function, comes from a listed look-up that fails. -/
def MissesOnly (program : GuestProgram γ) (lookups : List (String × Signature))
    (failure : Failure HarnessError) : Prop :=
  ∀ name, failure = .error (.noFunction name) →
    ∃ signature, (name, signature) ∈ lookups ∧ exportsFunction program name signature = false

/-- The computation looks the listed functions up, and no others. -/
structure LooksUp (program : GuestProgram γ) (lookups : List (String × Signature))
    (computation : Harness γ α) : Prop where
  /-- A function is found missing only if a listed look-up fails. -/
  misses : ∀ inst failure, (computation program inst).1 = .error failure →
    MissesOnly program lookups failure
  /-- There is a value only if every listed look-up succeeds. -/
  finds : ∀ inst value, (computation program inst).1 = .ok value →
    ∀ lookup ∈ lookups, exportsFunction program lookup.1 lookup.2 = true

theorem MissesOnly.mono {lookups more : List (String × Signature)}
    {failure : Failure HarnessError} (hmisses : MissesOnly program lookups failure)
    (hsubset : lookups ⊆ more) : MissesOnly program more failure := by
  intro name hmissing
  obtain ⟨signature, hlookup, habsent⟩ := hmisses name hmissing
  exact ⟨signature, hsubset hlookup, habsent⟩

namespace LooksUp

variable {lookups later : List (String × Signature)} {first : Harness γ α}
  {next : α → Harness γ β}

/-- Nothing is looked up where no function is ever missing. -/
theorem nothing (havoids : Avoids program MissingFunction first) : LooksUp program [] first where
  misses inst failure hfails := by
    rintro name rfl
    exact absurd (.noFunction name) (havoids inst _ hfails)
  finds _ _ _ := nofun

/-- A computation that only fails comes to no value, so that any list will do. -/
theorem fail {error : HarnessError} (herror : MissesOnly program lookups (.error error)) :
    LooksUp program lookups (fail error : Harness γ α) where
  misses inst failure hfails := by
    cases hfails
    exact herror
  finds _ _ := nofun

theorem ofError {failure : Failure HarnessError} (hfailure : MissesOnly program lookups failure) :
    LooksUp program lookups (Attempt.ofExcept (.error failure) : Harness γ α) where
  misses inst other hfails := by
    cases hfails
    exact hfailure
  finds _ _ := nofun

theorem ite {condition : Prop} [Decidable condition] {second : Harness γ α}
    (hfirst : LooksUp program lookups first) (hsecond : LooksUp program lookups second) :
    LooksUp program lookups (if condition then first else second) := by
  split
  · exact hfirst
  · exact hsecond

theorem call (name : String) (signature : Signature) (arguments : List Int32) :
    LooksUp program [(name, signature)] (call name signature arguments : Harness γ Int32) := by
  by_cases hexports : exportsFunction program name signature = true
  -- once it is found, a call can only fail in another way
  · have hcall : (Harness.call name signature arguments : Harness γ Int32) program =
        invoke name arguments (.callFailed name) program := by
      funext inst
      rw [Harness.call, if_pos hexports]
    have havoids : Avoids program MissingFunction
        (invoke name arguments (.callFailed name) : Harness γ Int32) := .invoke nofun _ _
    refine ⟨fun inst failure hfails => ?_, fun inst value _ lookup hlookup => ?_⟩
    · rw [hcall] at hfails
      rintro other rfl
      exact absurd (.noFunction other) (havoids inst _ hfails)
    · obtain rfl := List.mem_singleton.mp hlookup
      exact hexports
  -- if it is not found, there is no value, and the failure names it
  · have hcall (inst : Instance γ) : Harness.call name signature arguments program inst =
        (.error (.error (.noFunction name)), inst) := if_neg hexports
    refine ⟨fun inst failure hfails => ?_, fun inst value hvalue => ?_⟩
    · rw [hcall] at hfails
      rintro other rfl
      cases hfails
      exact ⟨signature, .head _, Bool.eq_false_iff.mpr hexports⟩
    · rw [hcall] at hvalue
      cases hvalue

/-- What follows is reached only from a value, that is, after all the look-ups before it. -/
theorem bind (hfirst : LooksUp program lookups first)
    (hnext : ∀ value, LooksUp program later (next value)) :
    LooksUp program (lookups ++ later) (first >>= next) := by
  refine ⟨fun inst failure hfails => ?_, fun inst value hvalue => ?_⟩
  · rw [Attempt.bind_apply] at hfails
    rcases hrun : first program inst with ⟨outcome, middle⟩
    rw [hrun] at hfails
    cases outcome with
    -- whichever of the two failed, what it missed is among its own look-ups
    | ok found =>
        exact ((hnext found).misses middle failure hfails).mono
          (List.subset_append_right lookups later)
    | error cause =>
        cases hfails
        exact (hfirst.misses inst failure (by rw [hrun])).mono
          (List.subset_append_left lookups later)
  · have hends : (first >>= next) program inst =
        (.ok value, ((first >>= next) program inst).2) := by
      rw [← hvalue]
    obtain ⟨found, middle, hrun, hrest⟩ := Attempt.bind_eq_ok hends
    intro lookup hlookup
    rcases List.mem_append.mp hlookup with hlookup | hlookup
    · exact hfirst.finds inst found (by rw [hrun]) lookup hlookup
    · exact (hnext found).finds middle value (by rw [hrest]) lookup hlookup

/-- Nothing is looked up before the computation. -/
theorem after (hfirst : Avoids program MissingFunction first)
    (hnext : ∀ value, LooksUp program lookups (next value)) :
    LooksUp program lookups (first >>= next) :=
  (nothing hfirst).bind hnext

/-- Nothing is looked up after the computation. -/
theorem andThen (hfirst : LooksUp program lookups first)
    (hnext : ∀ value, Avoids program MissingFunction (next value)) :
    LooksUp program lookups (first >>= next) := by
  rw [← List.append_nil lookups]
  exact hfirst.bind fun value => nothing (hnext value)

/-- The outcome of a computation is kept for later.  A value must not be followed by another
look-up; a failure must still be one in the end. -/
theorem outcome {next : Except (Failure HarnessError) α → Harness γ β}
    (hfirst : LooksUp program lookups first)
    (hvalue : ∀ value, Avoids program MissingFunction (next (.ok value)))
    (hfailure : ∀ failure, MissesOnly program lookups failure →
      LooksUp program lookups (next (.error failure))) :
    LooksUp program lookups (Attempt.outcome first >>= next) := by
  have hrun (inst : Instance γ) : (Attempt.outcome first >>= next) program inst =
      next (first program inst).1 program (first program inst).2 := rfl
  refine ⟨fun inst failure hfails => ?_, fun inst value hends => ?_⟩
  · rw [hrun] at hfails
    cases houtcome : (first program inst).1 with
    -- nothing is missed any more behind a value
    | ok found =>
        rw [houtcome] at hfails
        rintro name rfl
        exact absurd (.noFunction name) (hvalue found _ _ hfails)
    | error cause =>
        rw [houtcome] at hfails
        exact (hfailure cause (hfirst.misses inst cause houtcome)).misses _ failure hfails
  · rw [hrun] at hends
    cases houtcome : (first program inst).1 with
    | ok found => exact hfirst.finds inst found houtcome
    | error cause =>
        rw [houtcome] at hends
        exact (hfailure cause (hfirst.misses inst cause houtcome)).finds _ value hends

end LooksUp

/-! ## The methods with more than one part -/

theorem callVoid_looksUp (name : String) (signature : Signature) (arguments : List Int32) :
    LooksUp program [(name, signature)] (callVoid name signature arguments : Harness γ Unit) :=
  .andThen (.call name signature arguments) fun _ => .pure ()

/-- A call that fails is reported, whatever becomes of the release. -/
theorem callLending_looksUp (name text : String) :
    LooksUp program [(name, .unary)] (callLending name text : Harness γ Int32) := by
  refine .after (writeCString_avoids_missing text) fun pointer => ?_
  refine .outcome (.call name .unary _) (fun answer => ?_) fun failure hfailure => ?_
  · refine .outcome (free_avoids_missing pointer) fun freed hfreed => ?_
    exact .bind (.ofExcept nofun) fun _ => .bind (.ofExcept hfreed) fun _ => .pure _
  · exact .after (fun _ _ => nofun) fun freed => .ofError hfailure

theorem toUpper_looksUp (text : String) :
    LooksUp program [(Export.toUpper, .unary)] (toUpper text : Harness γ (Option String)) := by
  refine .after (writeCString_avoids_missing text) fun pointer => ?_
  refine .outcome ?_ (fun upper => ?_) fun failure hfailure => ?_
  · exact .andThen (.call _ _ _) fun answer => upperAnswer_avoids_missing pointer answer
  · exact .bind (free_avoids_missing pointer) fun _ => .ofExcept nofun
  · exact .after (free_avoids_missing pointer) fun _ => .ofError hfailure

theorem tryReceiveByteArray_looksUp (data : Bytes) (length : Int32) :
    LooksUp program [(Export.receiveByteArray, .binary)]
      (tryReceiveByteArray data length : Harness γ (Option Bytes)) := by
  refine .after (writeBytes_avoids_missing data) fun pointer => ?_
  refine .andThen (.call _ _ _) fun answer => .ite (.pure _) ?_
  exact .bind (.readFrame (fun _ => nofun) (fun _ => nofun) answer) fun payload =>
    .bind (free_avoids_missing answer) fun _ => .pure _

theorem receiveByteArrayWithLength_looksUp (data : Bytes) (length : Int32) :
    LooksUp program [(Export.receiveByteArray, .binary)]
      (receiveByteArrayWithLength data length : Harness γ Bytes) := by
  refine .andThen (tryReceiveByteArray_looksUp data length) fun payload => ?_
  cases payload with
  | some payload => exact .pure payload
  | none => exact .fail nofun

theorem receiveByteArray_looksUp (data : Bytes) :
    LooksUp program [(Export.receiveByteArray, .binary)]
      (receiveByteArray data : Harness γ Bytes) := by
  unfold receiveByteArray
  split
  · exact .fail nofun
  · exact receiveByteArrayWithLength_looksUp data _

theorem echo_looksUp (text : String) :
    LooksUp program [(Export.echo, .unary)] (echo text : Harness γ (String × Bool)) := by
  refine .after (writeCString_avoids_missing text) fun pointer => ?_
  refine .andThen (.call _ _ _) fun answer => .ite (.fail nofun) ?_
  exact .bind (readText_avoids_missing answer) fun echoed =>
    .bind (free_avoids_missing answer) fun _ => .pure _

theorem guestEcho_looksUp (text : String) :
    LooksUp program [(Export.guestEcho, .takeTwo), (Export.guestStringFree, .take)]
      (guestEcho text : Harness γ String) := by
  refine .after (writeBytes_avoids_missing _) fun data => .ite (.fail nofun) ?_
  refine .after (writeBytes_avoids_missing _) fun input => ?_
  refine .after (.write (fun _ => nofun) _ _) fun _ => ?_
  refine .after (writeBytes_avoids_missing _) fun output => ?_
  refine .bind (callVoid_looksUp Export.guestEcho .takeTwo [input, output]) fun _ => ?_
  -- Between the two calls both descriptors are read, and either may be refused.
  refine .after (.read fun _ => nofun) fun consumed => .ite (.fail nofun) ?_
  refine .after (.read fun _ => nofun) fun returned => .ite (.fail nofun) ?_
  refine .after (.read fun _ => nofun) fun bytes => ?_
  refine .andThen (callVoid_looksUp Export.guestStringFree .take [output]) fun _ => ?_
  refine .bind (free_avoids_missing input) fun _ => .bind (free_avoids_missing output) fun _ => ?_
  split
  · exact .pure _
  · exact .fail nofun

end Harness

/-! ## The steps of a session -/

namespace InstanceStep

/-- The functions that a step looks up, with the signatures that it calls them by. -/
def lookups : InstanceStep → List (String × Signature)
  | .hello => [(Export.hello, .answer)]
  | .helloWorld _ => [(Export.helloWorld, .unary)]
  | .passBuffer => [(Export.passBuffer, .answer)]
  | .calcFib _ => [(Export.calcFib, .unary)]
  | .receiveByteArray _ => [(Export.receiveByteArray, .binary)]
  | .receiveByteArrayWithLength .. => [(Export.receiveByteArray, .binary)]
  | .tryReceiveByteArray .. => [(Export.receiveByteArray, .binary)]
  | .printUsingHostPrint _ => [(Export.printUsingHostPrint, .unary)]
  | .printHelloWorld => [(Export.printHelloWorld, .plain)]
  | .print _ => [(Export.print, .take)]
  | .echo _ => [(Export.echo, .unary)]
  | .toUpper _ => [(Export.toUpper, .unary)]
  | .printUpper _ => [(Export.printUpper, .take)]
  | .keepBusy _ => [(Export.keepBusy, .unary)]
  | .guestEcho _ => [(Export.guestEcho, .takeTwo), (Export.guestStringFree, .take)]
  | .plainHelloWorld => [(Export.plainHelloWorld, .answer)]
  | .add .. => [(Export.add, .binary)]
  | .callHostFunction _ => [(Export.callHostFunction, .unary)]
  | .simdTest => [(Export.simdTest, .answer)]
  | .memorySize => []
  | .setBufferStatus _ => []
  | .setMode .. => []
  | .call name signature _ => [(name, signature)]

/-- The step says itself which functions it calls; only the call of any function by name
and signature leaves that to the caller. -/
def NamesItsFunctions (step : InstanceStep) : Prop :=
  ∀ name signature argument, step ≠ .call name signature argument

/-- The look-ups are written down in the harness, the interface elsewhere, and they agree. -/
theorem mem_exports_of_mem_lookups {step : InstanceStep} (hnames : step.NamesItsFunctions)
    {lookup : String × Signature} (hlookup : lookup ∈ step.lookups) :
    lookup ∈ Abi.exports.map fun spec => (spec.name, spec.signature) := by
  have hagree : step.lookups ⊆ Abi.exports.map fun spec => (spec.name, spec.signature) := by
    cases step with
    | call name signature argument => exact absurd rfl (hnames name signature argument)
    | _ =>
        simp only [lookups]
        decide +kernel
  exact hagree hlookup

/-- The run of a step makes the look-ups that are listed for the step, and no others. -/
theorem run_looksUp {γ : Type} (program : GuestProgram γ) (step : InstanceStep) :
    Harness.LooksUp program step.lookups (step.run : Harness γ InstanceReply) := by
  cases step with
  | hello | passBuffer | calcFib n | keepBusy ms | plainHelloWorld | add left right
  | callHostFunction argument | simdTest =>
      exact .andThen (.call _ _ _) fun _ => .pure _
  | printHelloWorld =>
      exact .andThen (Harness.callVoid_looksUp _ _ _) fun _ => .pure _
  | helloWorld text =>
      exact .andThen (Harness.callLending_looksUp _ text) fun _ => .pure _
  | receiveByteArray data =>
      exact .andThen (Harness.receiveByteArray_looksUp data) fun _ => .pure _
  | receiveByteArrayWithLength data length =>
      exact .andThen (Harness.receiveByteArrayWithLength_looksUp data length) fun _ => .pure _
  | tryReceiveByteArray data length =>
      refine .andThen (Harness.tryReceiveByteArray_looksUp data length) fun payload => ?_
      cases payload <;> exact .pure _
  | printUsingHostPrint text =>
      exact .andThen (.after (Harness.writeCString_avoids_missing text) fun _ => .call _ _ _)
        fun _ => .pure _
  | print text | printUpper text =>
      exact .andThen
        (.after (Harness.writeCString_avoids_missing text) fun _ =>
          Harness.callVoid_looksUp _ _ _)
        fun _ => .pure _
  | echo text => exact .andThen (Harness.echo_looksUp text) fun _ => .pure _
  | toUpper text =>
      refine .andThen (Harness.toUpper_looksUp text) fun upper => ?_
      cases upper <;> exact .pure _
  | guestEcho text => exact .andThen (Harness.guestEcho_looksUp text) fun _ => .pure _
  | memorySize => exact .nothing (.bind (.look _) fun _ => .pure _)
  | setBufferStatus status => exact .nothing (.bind (.change _) fun _ => .pure _)
  | setMode function mode =>
      exact .nothing (.bind (.write (fun _ => nofun) _ _) fun _ => .pure _)
  | call name signature argument =>
      exact .andThen (.call _ _ _) fun _ => .ite (.pure _) (.pure _)

end InstanceStep

/-! ## What the check is worth -/

/-- The check of a module does not look functions up by name. -/
theorem checkModule_ne_noFunction (exports : List (String × Extern))
    (imports : List FunctionImport) (name : String) :
    checkModule exports imports ≠ .error (.noFunction name) := by
  unfold checkModule
  cases checkExports exports with
  | error fault => nofun
  | ok =>
      dsimp only
      split
      · split <;> nofun
      · nofun

/-- The two functions that memory is managed by are looked up before any other, and a
program that has passed the check has them. -/
theorem Instance.instantiate_ne_noFunction {γ : Type} {program : GuestProgram γ}
    (haccepted : checkExports program.exports = .ok ()) (settings : Settings)
    (memory : LinearMemory) (own : γ) (name : String) :
    instantiate program settings memory own ≠ .error (.noFunction name) := by
  have hmalloc : Harness.exportsFunction program Export.malloc .unary = true :=
    Harness.exportsFunction_of_checkExports haccepted (by decide +kernel)
  have hfree : Harness.exportsFunction program Export.free .take = true :=
    Harness.exportsFunction_of_checkExports haccepted (by decide +kernel)
  intro hfails
  unfold instantiate at hfails
  cases hchecked : checkModule program.exports program.imports with
  | error error =>
      rw [hchecked] at hfails
      cases hfails
      exact checkModule_ne_noFunction _ _ _ hchecked
  | ok =>
      rw [hchecked, if_pos hmalloc, if_pos hfree] at hfails
      cases hfails

/-- A module with distinct names passes the check exactly if it provides every function of
the interface; if not, the fault is what the first function that is not provided lacks.
A program whose module has passed the check is put to work without a function being found
missing.  From then on every step that names its functions itself looks them up with
success, and does not end with a function that is missing, whatever the guest does.  These
look-ups are those that the run of the step makes, at this program and at any other. -/
theorem checked_modules_are_called_in_their_types (exports : List (String × Extern))
    (hnodup : (exports.map Prod.fst).Nodup) :
    (checkExports exports = .ok () ↔ ∀ spec ∈ Abi.exports, Provides exports spec) ∧
    (∀ fault, checkExports exports = .error fault ↔
      ∃ earlier spec later, Abi.exports = earlier ++ spec :: later ∧
        (∀ other ∈ earlier, Provides exports other) ∧
        Lacks exports spec fault fault.message) ∧
    (checkExports exports = .ok () →
      ∀ (γ : Type) (program : GuestProgram γ), program.exports = exports →
        (∀ settings memory own name,
          Instance.instantiate program settings memory own ≠ .error (.noFunction name)) ∧
        ∀ step : InstanceStep, step.NamesItsFunctions →
          (∀ lookup ∈ step.lookups,
            Harness.exportsFunction program lookup.1 lookup.2 = true) ∧
          ∀ inst name, (step.run program inst).1 ≠ .error (.error (.noFunction name))) ∧
    ∀ (γ : Type) (program : GuestProgram γ) (step : InstanceStep),
      Harness.LooksUp program step.lookups (step.run : Harness γ InstanceReply) := by
  refine ⟨?_, ?_, ?_, fun γ program step => step.run_looksUp program⟩
  · calc checkExports exports = .ok ()
        ↔ ∀ spec ∈ Abi.exports, checkExport exports spec = .ok () := checkAll_eq_ok_iff
      _ ↔ ∀ spec ∈ Abi.exports, Provides exports spec :=
        forall₂_congr fun spec _ => checkExport_eq_ok_iff_provides hnodup
  · intro fault
    simp only [checkExports, checkAll_eq_error_iff, checkExport_eq_ok_iff_provides hnodup,
      checkExport_eq_error_iff hnodup]
  · rintro haccepted γ program rfl
    refine ⟨Instance.instantiate_ne_noFunction haccepted, fun step hnames => ?_⟩
    have hlookups : ∀ lookup ∈ step.lookups,
        Harness.exportsFunction program lookup.1 lookup.2 = true := fun lookup hlookup =>
      Harness.exportsFunction_of_checkExports haccepted
        (InstanceStep.mem_exports_of_mem_lookups hnames hlookup)
    refine ⟨hlookups, fun inst name hmissing => ?_⟩
    obtain ⟨signature, hlookup, habsent⟩ :=
      (step.run_looksUp program).misses inst _ hmissing name rfl
    rw [hlookups _ hlookup] at habsent
    cases habsent

/-- The scripted guest passes the check, and its `guest_echo` is not found missing.  Without
`simd_test`, and with a global in the place of `add`, it does not pass, because of `add`,
which comes first. -/
theorem scripted_guest_is_called_in_its_types :
    let exports := ScriptedGuest.program.exports
    let others := changeExports exports ["simd_test"] [("add", .global)]
    (exports.map Prod.fst).Nodup ∧ checkExports exports = .ok () ∧
    ((InstanceStep.guestEcho "hé").run ScriptedGuest.program
      (ScriptedGuest.start Settings.default 1)).1 ≠ .error (.error (.noFunction "guest_echo")) ∧
    (others.map Prod.fst).Nodup ∧ checkExports others = .error (.notFunction "add") := by
  intro exports others
  have hnodup : (exports.map Prod.fst).Nodup := by decide +kernel
  have haccepted : checkExports exports = .ok () := rfl
  have hothers : (others.map Prod.fst).Nodup := by decide +kernel
  obtain ⟨-, -, hruns, -⟩ := checked_modules_are_called_in_their_types exports hnodup
  obtain ⟨-, hsteps⟩ := hruns haccepted UInt32 ScriptedGuest.program rfl
  obtain ⟨-, hmissing⟩ := hsteps (.guestEcho "hé") nofun
  obtain ⟨-, hfault, -⟩ := checked_modules_are_called_in_their_types others hothers
  refine ⟨hnodup, haccepted, hmissing _ _, hothers, ?_⟩
  refine (hfault _).mpr ⟨Abi.exports.take 15, ⟨Export.add, [.i32, .i32], [.i32], .none⟩,
    Abi.exports.drop 16, by decide +kernel, ?_, ?_⟩
  · simp only [Provides]
    decide +kernel
  · exact .notFunction .global (by decide +kernel) nofun

end GuestHost
