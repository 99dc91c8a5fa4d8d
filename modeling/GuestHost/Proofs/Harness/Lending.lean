import GuestHost.Instance.Scripted
import GuestHost.Proofs.Harness.Runs

/-!
# Strings lent and strings given away

Whether a string is lent to a guest's function or given away, the harness first has to
write it into memory that the guest allocates.  If that fails, nothing more is asked of the
guest.  If it succeeds, which of the guest's functions are called from then on does not
depend on what the guest does: a call that traps, or answers what makes no sense, is an
outcome that is kept until the string has been released.

`Makes` says this of a part of a computation: these are the calls that it makes, whatever
the guest is and whatever it answers.  It is kept by what follows only if that makes no
calls of its own (`Makes.bind`) or is reached in any case (`Makes.outcome`), and this is where
lending a string differs from giving up at the first error.  `PassesOn` says it of a whole
method, also where the string cannot be written.
-/

namespace GuestHost.Harness

variable {γ α β : Type} {program : GuestProgram γ} {made more : List GuestCall}

/-! ## Calls that are made in any case -/

/-- Whatever the guest does, these are the calls that are made, the latest first. -/
def Makes (program : GuestProgram γ) (made : List GuestCall) (computation : Harness γ α) :
    Prop :=
  ∀ inst, (computation program inst).2.calls = made ++ inst.calls

namespace Makes

theorem pure (value : α) : Makes program [] (pure value : Harness γ α) :=
  fun _ => rfl

theorem fail (error : HarnessError) : Makes program [] (fail error : Harness γ α) :=
  fun _ => rfl

theorem look (view : Instance γ → α) :
    Makes program [] (Attempt.look view : Harness γ α) :=
  fun _ => rfl

theorem ofExcept (outcome : Except (Failure HarnessError) α) :
    Makes program [] (Attempt.ofExcept outcome : Harness γ α) :=
  fun _ => rfl

theorem read (reader : LinearMemory → Except AccessError α) :
    Makes program [] (read reader : Harness γ α) :=
  fun _ => rfl

theorem write (pointer : Int32) (bytes : Bytes) :
    Makes program [] (writeBytes.write pointer bytes : Harness γ Unit) := by
  intro inst
  unfold writeBytes.write
  cases inst.state.memory.writeAt pointer bytes <;> rfl

theorem invoke (name : String) (arguments : List Int32) (onTrap : HarnessError) :
    Makes program [⟨name, arguments⟩] (invoke name arguments onTrap : Harness γ Int32) :=
  fun _ => rfl

theorem call {name : String} {signature : Signature} (arguments : List Int32)
    (hexports : exportsFunction program name signature = true) :
    Makes program [⟨name, arguments⟩] (call name signature arguments : Harness γ Int32) := by
  intro inst
  unfold Harness.call
  rw [if_pos hexports]
  exact invoke name arguments _ inst

theorem ite {condition : Prop} [Decidable condition] {first second : Harness γ α}
    (hfirst : Makes program made first) (hsecond : Makes program made second) :
    Makes program made (if condition then first else second) := by
  split
  · exact hfirst
  · exact hsecond

/-- What comes next may be left out, so it must not make any calls. -/
theorem bind {first : Harness γ α} {next : α → Harness γ β} (hfirst : Makes program made first)
    (hnext : ∀ value, Makes program [] (next value)) : Makes program made (first >>= next) := by
  intro inst
  rw [Attempt.bind_apply, ← hfirst inst]
  rcases first program inst with ⟨outcome, middle⟩
  cases outcome with
  | error failure => rfl
  | ok value => exact hnext value middle

/-- What follows an outcome is never left out. -/
theorem outcome {first : Harness γ α} {next : Except (Failure HarnessError) α → Harness γ β}
    (hfirst : Makes program made first) (hnext : ∀ outcome, Makes program more (next outcome)) :
    Makes program (more ++ made) (Attempt.outcome first >>= next) := by
  intro inst
  have hends : Attempt.outcome first program inst =
      (.ok (first program inst).1, (first program inst).2) := rfl
  rw [Attempt.bind_of_ok hends, hnext, hfirst, List.append_assoc]

theorem free (pointer : Int32) :
    Makes program [⟨Export.free, [pointer]⟩] (free pointer : Harness γ Unit) :=
  .bind (.invoke _ _ _) fun _ => .pure ()

theorem callVoid {name : String} {signature : Signature} (arguments : List Int32)
    (hexports : exportsFunction program name signature = true) :
    Makes program [⟨name, arguments⟩] (callVoid name signature arguments : Harness γ Unit) :=
  .bind (.call arguments hexports) fun _ => .pure ()

theorem readText (pointer : Int32) : Makes program [] (readText pointer : Harness γ String) := by
  refine .bind (.look _) fun limit => .bind (.read _) fun bytes => ?_
  split
  · exact .pure _
  · exact .fail _

end Makes

/-! ## Writing a string -/

variable {inst after : Instance γ} {text : String}

/-- Bytes that are not too many are asked memory for, once. -/
theorem Makes.writeBytes {bytes : Bytes} {size : Int32}
    (hsize : Word.ofCount? bytes.length = some size) :
    Makes program [⟨Export.malloc, [size]⟩] (writeBytes bytes : Harness γ Int32) := by
  unfold Harness.writeBytes
  rw [hsize]
  exact .bind (.invoke _ _ _) fun pointer =>
    .ite (.fail _) (.bind (.write _ _) fun _ => .pure _)

/-- A string is written by one call of the allocator, or it is not even tried. -/
theorem writeCString_cases (program : GuestProgram γ) (inst : Instance γ) (text : String) :
    (∃ failure, writeCString text program inst = (.error failure, inst)) ∨
    ∃ size : Int32, size.toInt = (Utf8.encode text).length + 1 ∧
      (writeCString text program inst).2.calls =
        ⟨Export.malloc, [size]⟩ :: inst.calls := by
  unfold writeCString
  split
  · exact .inl ⟨_, rfl⟩
  · cases hsize : Word.ofCount? (Utf8.encode text ++ [0]).length with
    | none =>
        left
        unfold writeBytes
        rw [hsize]
        exact ⟨_, rfl⟩
    | some size =>
        right
        refine ⟨size, ?_, Makes.writeBytes hsize inst⟩
        have hcount := Word.toCount?_eq_some_iff.mp (Word.toCount?_of_ofCount? hsize)
        rw [hcount, List.length_append]
        rfl

/-- A computation writes a string and passes it on.  If the string cannot be written, that
is all, and the guest has been asked for memory at most.  If it stands at a pointer, the
guest has been asked for memory once, and certain calls have been made then, the latest
first. -/
structure PassesOn (program : GuestProgram γ) (inst : Instance γ) (text : String)
    (made : Int32 → List GuestCall) (computation : Harness γ α) : Prop where
  unwritten : ∀ failure after, writeCString text program inst = (.error failure, after) →
    computation program inst = (.error failure, after) ∧
      (after.calls = inst.calls ∨
        ∃ size : Int32, after.calls = ⟨Export.malloc, [size]⟩ :: inst.calls)
  written : ∀ pointer after, writeCString text program inst = (.ok pointer, after) →
    ∃ size : Int32, size.toInt = (Utf8.encode text).length + 1 ∧
      (computation program inst).2.calls =
        made pointer ++ ⟨Export.malloc, [size]⟩ :: inst.calls

theorem PassesOn.of_makes {made : Int32 → List GuestCall} {take : Int32 → Harness γ α}
    (hmakes : ∀ pointer, Makes program (made pointer) (take pointer)) :
    PassesOn program inst text made (writeCString text >>= take) where
  unwritten := by
    intro failure after hwrite
    refine ⟨Attempt.bind_of_error hwrite, ?_⟩
    -- the string was not tried, or the guest was asked for memory in vain
    rcases writeCString_cases program inst text with ⟨_, hfails⟩ | ⟨size, -, hcalls⟩
    · rw [hwrite] at hfails
      exact .inl (congrArg Instance.calls (Prod.mk.inj hfails).2)
    · rw [hwrite] at hcalls
      exact .inr ⟨size, hcalls⟩
  written := by
    intro pointer after hwrite
    rcases writeCString_cases program inst text with ⟨_, hfails⟩ | ⟨size, hsize, hcalls⟩
    · rw [hwrite] at hfails
      cases (Prod.mk.inj hfails).1
    · rw [hwrite] at hcalls
      refine ⟨size, hsize, ?_⟩
      rw [Attempt.bind_of_ok hwrite, hmakes, hcalls]

/-! ## What becomes of a string -/

/-- A string that is lent is released when the call has come to an end, whatever end. -/
theorem callLending_passesOn {name : String}
    (hexports : exportsFunction program name .unary = true) :
    PassesOn program inst text
      (fun pointer => [⟨Export.free, [pointer]⟩, ⟨name, [pointer]⟩]) (callLending name text) := by
  refine .of_makes fun pointer => ?_
  -- the calls are listed the latest first, so those of what follows stand in front
  change Makes program ([⟨Export.free, [pointer]⟩] ++ [⟨name, [pointer]⟩]) _
  refine .outcome (.call [pointer] hexports) fun answer => ?_
  change Makes program ([] ++ [⟨Export.free, [pointer]⟩]) _
  refine .outcome (.free pointer) fun freed => ?_
  exact .bind (.ofExcept answer) fun _ => .bind (.ofExcept freed) fun _ => .pure _

theorem upperAnswer_makes (pointer answer : Int32) :
    Makes program [] (upperAnswer pointer answer : Harness γ (Option String)) :=
  .ite (.pure none) (.ite (.bind (.readText answer) fun _ => .pure _) (.fail _))

theorem toUpper_passesOn (hexports : exportsFunction program Export.toUpper .unary = true) :
    PassesOn program inst text
      (fun pointer => [⟨Export.free, [pointer]⟩, ⟨Export.toUpper, [pointer]⟩]) (toUpper text) := by
  refine .of_makes fun pointer => ?_
  change Makes program ([⟨Export.free, [pointer]⟩] ++ [⟨Export.toUpper, [pointer]⟩]) _
  -- also a string that cannot be read is an outcome, and does not keep `free` from coming
  refine .outcome (.bind (.call [pointer] hexports) (upperAnswer_makes pointer)) fun result => ?_
  exact .bind (.free pointer) fun _ => .ofExcept result

/-- Of a string that is given away the harness does not hear again. -/
theorem callVoid_passesOn {name : String} (hexports : exportsFunction program name .take = true) :
    PassesOn program inst text (fun pointer => [⟨name, [pointer]⟩])
      (writeCString text >>= fun pointer => callVoid name .take [pointer]) :=
  .of_makes fun pointer => .callVoid [pointer] hexports

theorem printUsingHostPrint_passesOn
    (hexports : exportsFunction program Export.printUsingHostPrint .unary = true) :
    PassesOn program inst text (fun pointer => [⟨Export.printUsingHostPrint, [pointer]⟩])
      (printUsingHostPrint text) :=
  .of_makes fun pointer => .call [pointer] hexports

/-- Whatever the guest does, and however its functions end, a string that is lent to it is
released, once and after the call, and one that is given away is never released. -/
theorem strings_lent_and_given_away
    (hchecked : checkModule program.exports program.imports = .ok ()) (inst : Instance γ)
    (text : String) :
    PassesOn program inst text
      (fun pointer => [⟨Export.free, [pointer]⟩, ⟨Export.helloWorld, [pointer]⟩])
      (helloWorld text) ∧
    PassesOn program inst text
      (fun pointer => [⟨Export.free, [pointer]⟩, ⟨Export.toUpper, [pointer]⟩]) (toUpper text) ∧
    PassesOn program inst text (fun pointer => [⟨Export.print, [pointer]⟩]) (print text) ∧
    PassesOn program inst text (fun pointer => [⟨Export.printUpper, [pointer]⟩])
      (printUpper text) ∧
    PassesOn program inst text (fun pointer => [⟨Export.printUsingHostPrint, [pointer]⟩])
      (printUsingHostPrint text) :=
  ⟨callLending_passesOn (exportsFunction_of_checkModule hchecked rfl),
    toUpper_passesOn (exportsFunction_of_checkModule hchecked rfl),
    callVoid_passesOn (exportsFunction_of_checkModule hchecked rfl),
    callVoid_passesOn (exportsFunction_of_checkModule hchecked rfl),
    printUsingHostPrint_passesOn (exportsFunction_of_checkModule hchecked rfl)⟩

/-- A string of two letters is released although `ToUpper` has trapped. -/
theorem toUpper_releases_after_a_trap :
    let guest := ScriptedGuest.start Settings.default 1
    let told := guest.put 24 [5, 0, 0, 0]
    (toUpper "ab" ScriptedGuest.program told).2.calls =
      [⟨Export.free, [4104]⟩, ⟨Export.toUpper, [4104]⟩, ⟨Export.malloc, [3]⟩] := by
  intro guest told
  have hchecked : checkModule ScriptedGuest.program.exports ScriptedGuest.program.imports =
      .ok () := rfl
  have hwrite : (writeCString "ab" ScriptedGuest.program told).1.toOption = some 4104 := by
    decide +kernel
  rcases hwritten : writeCString "ab" ScriptedGuest.program told with ⟨outcome, after⟩
  rw [hwritten] at hwrite
  cases outcome with
  | error failure => cases hwrite
  | ok pointer =>
      obtain rfl : pointer = 4104 := Option.some.inj hwrite
      obtain ⟨-, hupper, -⟩ := strings_lent_and_given_away hchecked told "ab"
      obtain ⟨size, hsize, hcalls⟩ := hupper.written 4104 after hwritten
      have hlength : (Utf8.encode "ab").length = 2 := by decide
      obtain rfl : size = 3 := by
        rw [hlength] at hsize
        exact Int32.toInt_inj.mp hsize
      exact hcalls

end GuestHost.Harness
