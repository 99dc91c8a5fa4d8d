import GuestHost.Instance.Calls
import GuestHost.Proofs.Harness.Exports
import GuestHost.Proofs.Memory.Access

/-!
# How the harness works with an instance

Nothing is known of a guest but what its functions answer at the states in which they
are called.  So each operation of the harness has an equation that takes such answers
as given, and says which instance the operation ends with: `called` is the instance
after the guest has been called, and `put` the one after the host has written into its
memory.

The equations are chained: the state that one ends in is that in which the guest is
called next.  `Returns` and `Allocates` say what the guest has to answer where it is
not the answer that counts, and `writeBytes_run` and `writeCString_run` put the chain
together that every method begins with.
-/

namespace GuestHost

variable {γ : Type}

/-- The host has written bytes into memory. -/
def GuestState.put (state : GuestState γ) (start : Nat) (bytes : Bytes) : GuestState γ :=
  { state with memory := state.memory.overwrite start bytes }

namespace Instance

/-- A function of the guest has been called, and has left this state behind. -/
def called (inst : Instance γ) (name : String) (arguments : List Int32)
    (state : GuestState γ) : Instance γ :=
  { inst with state, calls := ⟨name, arguments⟩ :: inst.calls }

/-- The host has written bytes into the guest's memory. -/
def put (inst : Instance γ) (start : Nat) (bytes : Bytes) : Instance γ :=
  { inst with state := inst.state.put start bytes }

end Instance

namespace Harness

variable {program : GuestProgram γ} {inst : Instance γ} {state : GuestState γ} {name : String}
  {signature : Signature} {arguments : List Int32} {answer pointer : Int32} {start : Nat}
  {bytes : Bytes}

/-! ## Calling the guest -/

/-- What a function of the guest does where its answer is known. -/
theorem invoke_of_toOption
    (hanswer : (program.invoke name arguments state).1.toOption = some answer) :
    program.invoke name arguments state =
      (.ok answer, (program.invoke name arguments state).2) := by
  rcases hinvoke : program.invoke name arguments state with ⟨outcome, after⟩
  rw [hinvoke] at hanswer
  cases outcome with
  | error cause => cases hanswer
  | ok word =>
      obtain rfl : word = answer := Option.some.inj hanswer
      rfl

theorem invoke_run (hinvoke : program.invoke name arguments inst.state = (.ok answer, state))
    (onTrap : HarnessError) :
    invoke name arguments onTrap program inst =
      (.ok answer, inst.called name arguments state) := by
  unfold invoke
  rw [hinvoke]
  rfl

theorem invoke_run_trap
    (hinvoke : program.invoke name arguments inst.state = (.error .trap, state))
    (onTrap : HarnessError) :
    invoke name arguments onTrap program inst =
      (.error (.error onTrap), inst.called name arguments state) := by
  unfold invoke
  rw [hinvoke]
  rfl

theorem call_run (hexports : exportsFunction program name signature = true)
    (hinvoke : program.invoke name arguments inst.state = (.ok answer, state)) :
    call name signature arguments program inst =
      (.ok answer, inst.called name arguments state) := by
  unfold call
  rw [if_pos hexports]
  exact invoke_run hinvoke _

/-- A function of the guest comes back, whatever it answers. -/
def Returns (program : GuestProgram γ) (name : String) (arguments : List Int32)
    (state after : GuestState γ) : Prop :=
  ∃ answer, program.invoke name arguments state = (.ok answer, after)

theorem callVoid_run (hexports : exportsFunction program name signature = true)
    (hreturns : Returns program name arguments inst.state state) :
    callVoid name signature arguments program inst =
      (.ok (), inst.called name arguments state) := by
  obtain ⟨answer, hinvoke⟩ := hreturns
  rw [callVoid, Attempt.bind_of_ok (call_run hexports hinvoke)]
  rfl

theorem free_run (hreturns : Returns program Export.free [pointer] inst.state state) :
    free pointer program inst = (.ok (), inst.called Export.free [pointer] state) := by
  obtain ⟨answer, hinvoke⟩ := hreturns
  rw [free, Attempt.bind_of_ok (invoke_run hinvoke _)]
  rfl

/-! ## Memory -/

theorem read_run {α : Type} {reader : LinearMemory → Except AccessError α} {value : α}
    (hread : reader inst.state.memory = .ok value) :
    read reader program inst = (.ok value, inst) := by
  rw [read, hread]
  rfl

theorem readFrame_run {payload : Bytes}
    (hread : inst.state.memory.readFrame pointer = .ok payload) :
    readFrame pointer program inst = (.ok payload, inst) := by
  rw [readFrame, hread]
  rfl

/-- A string that can be read is a text, or it is reported. -/
theorem readText_run
    (hread : inst.state.memory.readCString pointer inst.maxStringLength = .ok bytes) :
    readText pointer program inst = (match Utf8.decode? bytes with
      | some text => .ok text
      | none => .error (.error (.notText "Guest")), inst) := by
  have hlook : (Attempt.look fun inst => inst.maxStringLength : Harness γ Nat) program inst =
      (.ok inst.maxStringLength, inst) := rfl
  have hbytes : read (fun memory => memory.readCString pointer inst.maxStringLength) program
      inst = (.ok bytes, inst) := read_run hread
  rw [readText, Attempt.bind_of_ok hlook, Attempt.bind_of_ok hbytes]
  cases Utf8.decode? bytes <;> rfl

theorem write_run (hpointer : Word.toCount? pointer = some start)
    (hfits : start + bytes.length ≤ inst.state.memory.size) :
    writeBytes.write pointer bytes program inst = (.ok (), inst.put start bytes) := by
  unfold writeBytes.write
  rw [LinearMemory.writeAt_eq_ok_iff.mpr ⟨start, hpointer, hfits, rfl⟩]
  rfl

theorem writeDescriptor_run {descriptor : Descriptor}
    (hpointer : Word.toCount? pointer = some start)
    (hfits : start + Descriptor.size ≤ inst.state.memory.size) :
    writeDescriptor pointer descriptor program inst =
      (.ok (), inst.put start descriptor.toBytes) :=
  write_run hpointer hfits

/-- The guest allocates memory of a size: not at the null pointer, and all of it inside
of memory. -/
structure Allocates (program : GuestProgram γ) (state : GuestState γ) (size : Nat)
    (pointer : Int32) (after : GuestState γ) : Prop where
  answer : program.invoke Export.malloc [Int32.ofNat size] state = (.ok pointer, after)
  positive : 0 < pointer.toInt
  fits : pointer.toInt.toNat + size ≤ after.memory.size

namespace Allocates

variable {size : Nat} {after : GuestState γ}

theorem toCount? (hmalloc : Allocates program state size pointer after) :
    Word.toCount? pointer = some pointer.toInt.toNat :=
  Word.toCount?_of_nonneg (Int.le_of_lt hmalloc.positive)

theorem ne_zero (hmalloc : Allocates program state size pointer after) : pointer ≠ 0 := by
  rintro rfl
  exact absurd hmalloc.positive (by decide)

end Allocates

/-- Bytes are written to where the guest has allocated memory for them. -/
theorem writeBytes_run (hsize : bytes.length < 2 ^ 31)
    (hmalloc : Allocates program inst.state bytes.length pointer state) :
    writeBytes bytes program inst =
      (.ok pointer, (inst.called Export.malloc [Int32.ofNat bytes.length] state).put
        pointer.toInt.toNat bytes) := by
  have hword : Word.ofCount? bytes.length = some (Int32.ofNat bytes.length) := if_pos hsize
  have hwrite : writeBytes.write pointer bytes program
      (inst.called Export.malloc [Int32.ofNat bytes.length] state) = (.ok (), _) :=
    write_run hmalloc.toCount? hmalloc.fits
  rw [writeBytes, hword]
  simp only
  rw [Attempt.bind_of_ok (invoke_run hmalloc.answer _), if_neg hmalloc.ne_zero,
    Attempt.bind_of_ok hwrite]
  rfl

/-- Bytes that have been written somewhere were written where the guest has answered, and that
is not the null pointer. -/
theorem writeBytes_eq_ok {final : Instance γ}
    (hrun : writeBytes bytes program inst = (.ok pointer, final)) :
    ∃ middle, pointer ≠ 0 ∧ writeBytes.write pointer bytes program middle = (.ok (), final) := by
  rw [writeBytes] at hrun
  cases hsize : Word.ofCount? bytes.length with
  | none =>
      rw [hsize] at hrun
      cases hrun
  | some size =>
      rw [hsize] at hrun
      obtain ⟨answer, middle, -, hrest⟩ := Attempt.bind_eq_ok hrun
      by_cases hnull : answer = 0
      · rw [if_pos hnull] at hrest
        cases hrest
      · rw [if_neg hnull] at hrest
        obtain ⟨_, _, hwrite, hlast⟩ := Attempt.bind_eq_ok hrest
        cases hlast
        exact ⟨middle, hnull, hwrite⟩

/-- A text without U+0000 is written like bytes, and a zero byte after it. -/
theorem writeCString_run {text : String} (hnul : '\x00' ∉ text.toList)
    (hsize : (Utf8.encode text ++ [0]).length < 2 ^ 31)
    (hmalloc : Allocates program inst.state (Utf8.encode text ++ [0]).length pointer state) :
    writeCString text program inst =
      (.ok pointer, (inst.called Export.malloc
        [Int32.ofNat (Utf8.encode text ++ [0]).length] state).put pointer.toInt.toNat
          (Utf8.encode text ++ [0])) := by
  have hwritten : ¬ text.toList.contains '\x00' = true := by
    rwa [List.contains_iff_mem]
  rw [writeCString, if_neg hwritten]
  exact writeBytes_run hsize hmalloc

end Harness

end GuestHost
