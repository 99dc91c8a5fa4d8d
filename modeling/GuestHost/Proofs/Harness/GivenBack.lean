import GuestHost.Proofs.Harness.GuestEcho

/-!
# What a guest gives back

A buffer that a guest gives back belongs to the harness from then on.  `tryReceiveByteArray`,
`echo` and `guestEcho` read it first and release it then, and a reader that fails is the
end of all of them: a buffer that cannot be read is never released.  A string that is lent
is released in any case; here there is no such care.

So what is released depends on what the guest has left in memory, and on nothing else.
`Finds` says of a reader what there is for it to be read, and `ReleasedOnceRead` of a whole
computation that it makes certain calls if there is something, and none if there is not.
The second is kept by a reader in front (`ReleasedOnceRead.bind`), as a reader neither calls the
guest nor changes memory.  `buffers_released_once_read` says it of the three methods.
-/

namespace GuestHost.Harness

variable {γ α β δ : Type} {program : GuestProgram γ} {inst : Instance γ}

/-! ## What there is to be read -/

/-- The text at a pointer, if there is one. -/
def textAt (memory : LinearMemory) (limit : Nat) (pointer : Int32) : Option String :=
  (memory.readCString pointer limit).toOption.bind Utf8.decode?

/-- The bytes that two descriptors leave to be read: the first one has been reset, and the
second one is that of bytes in memory. -/
def describedBytes (memory : LinearMemory) (input output : Int32) : Option Bytes :=
  (memory.readDescriptor input).toOption.bind fun consumed =>
    if consumed ≠ Descriptor.zero then none
    else (memory.readDescriptor output).toOption.bind fun returned =>
      if returned.isNull then none
      else (memory.readBytes returned.pointer.toInt32 returned.length.toInt32).toOption

/-- Bytes given back by descriptor have to be a text. -/
def echoedText (bytes : Bytes) : Except (Failure HarnessError) String :=
  match Utf8.decode? bytes with
  | some text => .ok text
  | none => .error (.error (.notText Export.guestEcho))

/-- A reader leaves the instance as it is, and comes to a value if there is one. -/
structure Finds (program : GuestProgram γ) (inst : Instance γ) (found : Option α)
    (reader : Harness γ α) : Prop where
  stays : (reader program inst).2 = inst
  finds : (reader program inst).1.toOption = found

namespace Finds

theorem pure (value : α) : Finds program inst (some value) (pure value : Harness γ α) :=
  ⟨rfl, rfl⟩

theorem fail (error : HarnessError) :
    Finds program inst none (fail error : Harness γ α) :=
  ⟨rfl, rfl⟩

theorem look (view : Instance γ → α) :
    Finds program inst (some (view inst)) (Attempt.look view : Harness γ α) :=
  ⟨rfl, rfl⟩

theorem read (reader : LinearMemory → Except AccessError α) :
    Finds program inst (reader inst.state.memory).toOption (read reader : Harness γ α) where
  stays := rfl
  finds := by
    unfold Harness.read
    cases reader inst.state.memory <;> rfl

theorem readFrame (pointer : Int32) :
    Finds program inst (inst.state.memory.readFrame pointer).toOption
      (readFrame pointer : Harness γ Bytes) where
  stays := rfl
  finds := by
    unfold Harness.readFrame
    cases inst.state.memory.readFrame pointer <;> rfl

variable {found : Option α} {first : Harness γ α}

/-- A reader of which something is known has come to it, or has failed. -/
theorem cases (hfirst : Finds program inst found first) :
    (∃ value, found = some value ∧ first program inst = (.ok value, inst)) ∨
      ∃ failure, found = none ∧ first program inst = (.error failure, inst) := by
  obtain ⟨hstays, hfinds⟩ := hfirst
  rcases hrun : first program inst with ⟨outcome, after⟩
  rw [hrun] at hstays hfinds
  obtain rfl : after = inst := hstays
  cases outcome with
  | ok value => exact .inl ⟨value, hfinds.symm, rfl⟩
  | error failure => exact .inr ⟨failure, hfinds.symm, rfl⟩

theorem bind {more : α → Option β} {next : α → Harness γ β}
    (hfirst : Finds program inst found first)
    (hnext : ∀ value, Finds program inst (more value) (next value)) :
    Finds program inst (found.bind more) (first >>= next) := by
  rcases hfirst.cases with ⟨value, rfl, hrun⟩ | ⟨failure, rfl, hrun⟩
  · constructor
    · rw [Attempt.bind_of_ok hrun]
      exact (hnext value).stays
    · rw [Attempt.bind_of_ok hrun]
      exact (hnext value).finds
  · constructor
    · rw [Attempt.bind_of_error hrun]
    · rw [Attempt.bind_of_error hrun]
      rfl

theorem readText (pointer : Int32) :
    Finds program inst (textAt inst.state.memory inst.maxStringLength pointer)
      (readText pointer : Harness γ String) := by
  change Finds program inst
    ((some inst.maxStringLength).bind fun limit => textAt inst.state.memory limit pointer) _
  refine .bind (.look _) fun limit => ?_
  refine .bind (.read fun memory => memory.readCString pointer limit) fun bytes => ?_
  cases Utf8.decode? bytes with
  | some text => exact .pure text
  | none => exact .fail _

end Finds

/-! ## Released once read -/

/-- What is found is the one thing that decides on what a run releases.  If there is
something, the run makes certain calls and ends with what is to be made of it; if there is
nothing, the run fails and makes no calls. -/
structure ReleasedOnceRead (found : Option β) (finish : β → Except (Failure HarnessError) α)
    (released before : List GuestCall) (run : Except (Failure HarnessError) α × Instance γ) :
    Prop where
  read : ∀ value, found = some value → run.1 = finish value ∧ run.2.calls = released ++ before
  unread : found = none → (∃ failure, run.1 = .error failure) ∧ run.2.calls = before

namespace ReleasedOnceRead

variable {finish : β → Except (Failure HarnessError) δ} {released : List GuestCall}

theorem fail (error : HarnessError) :
    ReleasedOnceRead none finish released inst.calls
      ((fail error : Harness γ δ) program inst) where
  read := nofun
  unread := fun _ => ⟨⟨_, rfl⟩, rfl⟩

/-- The end of a computation: something has been found, and now it is released. -/
theorem of_run {value : β} {before : List GuestCall}
    {run : Except (Failure HarnessError) δ × Instance γ} (hfinish : run.1 = finish value)
    (hcalls : run.2.calls = released ++ before) :
    ReleasedOnceRead (some value) finish released before run where
  read := by
    rintro other ⟨⟩
    exact ⟨hfinish, hcalls⟩
  unread := nofun

theorem ite {condition : Prop} [Decidable condition] {found other : Option β}
    {first second : Harness γ δ} {before : List GuestCall}
    (hfirst : ReleasedOnceRead found finish released before (first program inst))
    (hsecond : ReleasedOnceRead other finish released before (second program inst)) :
    ReleasedOnceRead (if condition then found else other) finish released before
      ((if condition then first else second) program inst) := by
  split
  · exact hfirst
  · exact hsecond

/-- What a reader finds is handed on, and nothing has happened by then. -/
theorem bind {found : Option α} {more : α → Option β} {first : Harness γ α}
    {next : α → Harness γ δ} (hfirst : Finds program inst found first)
    (hnext : ∀ value, found = some value →
      ReleasedOnceRead (more value) finish released inst.calls (next value program inst)) :
    ReleasedOnceRead (found.bind more) finish released inst.calls
      ((first >>= next) program inst) := by
  rcases hfirst.cases with ⟨value, rfl, hrun⟩ | ⟨failure, rfl, hrun⟩
  · rw [Attempt.bind_of_ok hrun]
    exact hnext value rfl
  · rw [Attempt.bind_of_error hrun]
    exact ⟨nofun, fun _ => ⟨⟨failure, rfl⟩, rfl⟩⟩

end ReleasedOnceRead

/-! ## The three methods -/

section Methods

variable {text : String} {data : Bytes} {pointer length answer input output : Int32}
  {first second third freed freedInput freedOutput : GuestState γ}

/-- One buffer is read, and the rest of the computation begins with its release. -/
theorem releasedOnceRead_free {found : Option α} {reader : Harness γ α} (view : α → δ)
    (hreader : Finds program inst found reader)
    (hfree : Returns program Export.free [answer] inst.state freed) :
    ReleasedOnceRead found (fun value => .ok (view value)) [⟨Export.free, [answer]⟩] inst.calls
      ((reader >>= fun value => free answer >>= fun _ => pure (view value)) program inst) := by
  rw [← Option.bind_fun_some found]
  refine .bind hreader fun value _ => ?_
  rw [Attempt.bind_of_ok (free_run hfree)]
  exact .of_run rfl rfl

theorem readEcho_releasedOnceRead
    (hexports : exportsFunction program Export.guestStringFree .take = true)
    (hreleases : Releases program inst.state input output freed freedInput freedOutput) :
    ReleasedOnceRead (describedBytes inst.state.memory input output) echoedText
      [⟨Export.free, [output]⟩, ⟨Export.free, [input]⟩, ⟨Export.guestStringFree, [output]⟩]
      inst.calls (readEcho input output program inst) := by
  unfold describedBytes readEcho
  refine .bind (.read fun memory => memory.readDescriptor input) fun consumed _ => ?_
  refine .ite (.fail _) ?_
  refine .bind (.read fun memory => memory.readDescriptor output) fun returned _ => ?_
  refine .ite (.fail _) ?_
  rw [← Option.bind_fun_some (inst.state.memory.readBytes _ _).toOption]
  refine .bind (.read fun memory =>
    memory.readBytes returned.pointer.toInt32 returned.length.toInt32) fun bytes _ => ?_
  rw [Attempt.bind_of_ok (callVoid_run hexports hreleases.string),
    Attempt.bind_of_ok (free_run hreleases.input),
    Attempt.bind_of_ok (free_run hreleases.output)]
  -- that the bytes are no text comes out too late to keep them from being released
  cases hdecode : Utf8.decode? bytes with
  | some echoed => exact .of_run (by rw [echoedText, hdecode]; rfl) rfl
  | none => exact .of_run (by rw [echoedText, hdecode]; rfl) rfl

theorem echo_releasedOnceRead (hexports : exportsFunction program Export.echo .unary = true)
    (hnul : '\x00' ∉ text.toList) (hsize : (Utf8.encode text ++ [0]).length < 2 ^ 31)
    (hmalloc : Allocates program inst.state (Utf8.encode text ++ [0]).length pointer first)
    (hecho : program.invoke Export.echo [pointer]
      (first.put pointer.toInt.toNat (Utf8.encode text ++ [0])) = (.ok answer, second))
    (hanswer : answer ≠ 0) (hfree : Returns program Export.free [answer] second freed) :
    ReleasedOnceRead (textAt second.memory inst.maxStringLength answer)
      (fun echoed => .ok (echoed, answer == pointer)) [⟨Export.free, [answer]⟩]
      ([⟨Export.echo, [pointer]⟩,
        ⟨Export.malloc, [Int32.ofNat (Utf8.encode text ++ [0]).length]⟩] ++ inst.calls)
      (echo text program inst) := by
  -- from here on only the reader and the release are left
  let answered := ((inst.called Export.malloc
    [Int32.ofNat (Utf8.encode text ++ [0]).length] first).put pointer.toInt.toNat
      (Utf8.encode text ++ [0])).called Export.echo [pointer] second
  rw [echo, Attempt.bind_of_ok (writeCString_run hnul hsize hmalloc),
    Attempt.bind_of_ok (call_run hexports hecho), if_neg hanswer]
  have hreader : Finds program answered (textAt second.memory inst.maxStringLength answer)
      (readText answer) := .readText answer
  exact releasedOnceRead_free (fun echoed => (echoed, answer == pointer)) hreader hfree

theorem tryReceiveByteArray_releasedOnceRead
    (hexports : exportsFunction program Export.receiveByteArray .binary = true)
    (hsize : data.length < 2 ^ 31)
    (hmalloc : Allocates program inst.state data.length pointer first)
    (hreceive : program.invoke Export.receiveByteArray [pointer, length]
      (first.put pointer.toInt.toNat data) = (.ok answer, second))
    (hanswer : answer ≠ 0) (hfree : Returns program Export.free [answer] second freed) :
    ReleasedOnceRead (second.memory.readFrame answer).toOption
      (fun payload => .ok (some payload)) [⟨Export.free, [answer]⟩]
      ([⟨Export.receiveByteArray, [pointer, length]⟩,
        ⟨Export.malloc, [Int32.ofNat data.length]⟩] ++ inst.calls)
      (tryReceiveByteArray data length program inst) := by
  let answered := ((inst.called Export.malloc [Int32.ofNat data.length] first).put
    pointer.toInt.toNat data).called Export.receiveByteArray [pointer, length] second
  rw [tryReceiveByteArray, Attempt.bind_of_ok (writeBytes_run hsize hmalloc),
    Attempt.bind_of_ok (call_run hexports hreceive), if_neg hanswer]
  have hreader : Finds program answered (second.memory.readFrame answer).toOption
      (readFrame answer) := .readFrame answer
  exact releasedOnceRead_free some hreader hfree

theorem guestEcho_releasedOnceRead {echoed : GuestState γ} {message : Int32}
    (hexports : ∀ {name signature}, (Abi.findExport name).map ExportSpec.signature =
      some signature → exportsFunction program name signature = true)
    (hsize : (Utf8.encode text).length < 2 ^ 31)
    (hdata : Allocates program inst.state (Utf8.encode text).length message first)
    (hinput : Allocates program (first.put message.toInt.toNat (Utf8.encode text))
      Descriptor.size input second)
    (houtput : Allocates program (putDescriptor second (Utf8.encode text) message input)
      Descriptor.size output third)
    (hecho : Returns program Export.guestEcho [input, output] (lentState third output) echoed)
    (hreleases : Releases program echoed input output freed freedInput freedOutput) :
    ReleasedOnceRead (describedBytes echoed.memory input output) echoedText
      [⟨Export.free, [output]⟩, ⟨Export.free, [input]⟩, ⟨Export.guestStringFree, [output]⟩]
      ([⟨Export.guestEcho, [input, output]⟩, ⟨Export.malloc, [8]⟩, ⟨Export.malloc, [8]⟩,
        ⟨Export.malloc, [Int32.ofNat (Utf8.encode text).length]⟩] ++ inst.calls)
      (guestEcho text program inst) := by
  let answered := afterEcho inst (Utf8.encode text) input output echoed
  have hreturned : Releases program answered.state input output freed freedInput freedOutput :=
    hreleases
  have hread := readEcho_releasedOnceRead (hexports rfl) hreturned
  rw [guestEcho_run_of_allocates (hexports rfl) hsize hdata hinput houtput hecho]
  exact hread

end Methods

/-- A guest that allocates memory where there is some, and comes back when it is to release
a buffer, may answer what it likes.  If the buffer that it has given back can be read it is
released, exactly once; bytes behind descriptors are released with the descriptors, also
if they turn out to be no text.  If it cannot be read the method fails, and then neither the
buffer nor the descriptors are released at all. -/
theorem buffers_released_once_read
    (hchecked : checkModule program.exports program.imports = .ok ()) (inst : Instance γ) :
    (∀ (text : String) (pointer answer : Int32) (allocated echoed freed : GuestState γ),
      '\x00' ∉ text.toList → (Utf8.encode text ++ [0]).length < 2 ^ 31 →
      Allocates program inst.state (Utf8.encode text ++ [0]).length pointer allocated →
      program.invoke Export.echo [pointer]
        (allocated.put pointer.toInt.toNat (Utf8.encode text ++ [0])) = (.ok answer, echoed) →
      answer ≠ 0 → Returns program Export.free [answer] echoed freed →
      ReleasedOnceRead (textAt echoed.memory inst.maxStringLength answer)
        (fun echoed => .ok (echoed, answer == pointer)) [⟨Export.free, [answer]⟩]
        ([⟨Export.echo, [pointer]⟩,
          ⟨Export.malloc, [Int32.ofNat (Utf8.encode text ++ [0]).length]⟩] ++ inst.calls)
        (echo text program inst)) ∧
    (∀ (data : Bytes) (length pointer answer : Int32) (allocated received freed : GuestState γ),
      data.length < 2 ^ 31 → Allocates program inst.state data.length pointer allocated →
      program.invoke Export.receiveByteArray [pointer, length]
        (allocated.put pointer.toInt.toNat data) = (.ok answer, received) →
      answer ≠ 0 → Returns program Export.free [answer] received freed →
      ReleasedOnceRead (received.memory.readFrame answer).toOption
        (fun payload => .ok (some payload)) [⟨Export.free, [answer]⟩]
        ([⟨Export.receiveByteArray, [pointer, length]⟩,
          ⟨Export.malloc, [Int32.ofNat data.length]⟩] ++ inst.calls)
        (tryReceiveByteArray data length program inst)) ∧
    (∀ (text : String) (data input output : Int32)
        (first second third echoed freed freedInput freedOutput : GuestState γ),
      (Utf8.encode text).length < 2 ^ 31 →
      Allocates program inst.state (Utf8.encode text).length data first →
      Allocates program (first.put data.toInt.toNat (Utf8.encode text)) Descriptor.size input
        second →
      Allocates program (putDescriptor second (Utf8.encode text) data input) Descriptor.size
        output third →
      Returns program Export.guestEcho [input, output] (lentState third output) echoed →
      Releases program echoed input output freed freedInput freedOutput →
      ReleasedOnceRead (describedBytes echoed.memory input output) echoedText
        [⟨Export.free, [output]⟩, ⟨Export.free, [input]⟩, ⟨Export.guestStringFree, [output]⟩]
        ([⟨Export.guestEcho, [input, output]⟩, ⟨Export.malloc, [8]⟩, ⟨Export.malloc, [8]⟩,
          ⟨Export.malloc, [Int32.ofNat (Utf8.encode text).length]⟩] ++ inst.calls)
        (guestEcho text program inst)) := by
  have hexports {name : String} {signature : Signature}
      (hspec : (Abi.findExport name).map ExportSpec.signature = some signature) :
      exportsFunction program name signature = true :=
    exportsFunction_of_checkModule hchecked hspec
  refine ⟨?echo, ?receive, ?guestEcho⟩
  case echo =>
    intro text pointer answer allocated echoed freed hnul hsize hmalloc hecho hanswer hfree
    exact echo_releasedOnceRead (hexports rfl) hnul hsize hmalloc hecho hanswer hfree
  case receive =>
    intro data length pointer answer allocated received freed hsize hmalloc hreceive hanswer hfree
    exact tryReceiveByteArray_releasedOnceRead (hexports rfl) hsize hmalloc hreceive hanswer hfree
  case guestEcho =>
    intro text data input output first second third echoed freed freedInput freedOutput hsize
      hdata hinput houtput hecho hreleases
    exact guestEcho_releasedOnceRead hexports hsize hdata hinput houtput hecho hreleases

/-- The scripted guest is told to echo by a copy, which is read and released. -/
theorem echo_releases_a_copy :
    let told := (ScriptedGuest.start Settings.default 1).put 20 [2, 0, 0, 0]
    (echo "é" ScriptedGuest.program told).1 = .ok ("é", false) ∧
      (echo "é" ScriptedGuest.program told).2.calls =
        [⟨Export.free, [4120]⟩, ⟨Export.echo, [4104]⟩, ⟨Export.malloc, [3]⟩] := by
  intro told
  let allocated := (ScriptedGuest.program.invoke Export.malloc
    [Int32.ofNat (Utf8.encode "é" ++ [0]).length] told.state).2
  let echoed := (ScriptedGuest.program.invoke Export.echo [4104]
    (allocated.put (Int32.toInt 4104).toNat (Utf8.encode "é" ++ [0]))).2
  let freed := (ScriptedGuest.program.invoke Export.free [4120] echoed).2
  have hchecked : checkModule ScriptedGuest.program.exports ScriptedGuest.program.imports =
      .ok () := rfl
  have hmalloc : Allocates ScriptedGuest.program told.state (Utf8.encode "é" ++ [0]).length 4104
      allocated :=
    ⟨invoke_of_toOption (by decide +kernel), by decide, by decide +kernel⟩
  have hecho : ScriptedGuest.program.invoke Export.echo [4104]
      (allocated.put (Int32.toInt 4104).toNat (Utf8.encode "é" ++ [0])) = (.ok 4120, echoed) :=
    invoke_of_toOption (by decide +kernel)
  have hfree : Returns ScriptedGuest.program Export.free [4120] echoed freed :=
    ⟨0, invoke_of_toOption (by decide +kernel)⟩
  -- the copy can be read, so it is released
  have hcopy : textAt echoed.memory told.maxStringLength 4120 = some "é" := by decide +kernel
  obtain ⟨hany, -⟩ := buffers_released_once_read hchecked told
  have hreleased := hany "é" 4104 4120 allocated echoed freed (by decide +kernel)
    (by decide +kernel) hmalloc hecho (by decide) hfree
  obtain ⟨hends, hcalls⟩ := hreleased.read "é" hcopy
  have hlength : (Utf8.encode "é" ++ [0]).length = 3 := by decide +kernel
  have hother : ((4120 : Int32) == 4104) = false := by decide
  rw [hlength] at hcalls
  rw [hother] at hends
  exact ⟨hends, hcalls⟩

/-- A buffer with a bad header is the harness's to release, and releasing it would not trap:
the harness has been asked for a frame, fails, and has not released anything. -/
theorem bad_header_is_never_released :
    let told := (ScriptedGuest.start Settings.default 1).put 12 [2, 0, 0, 0]
    let data : Bytes := [0x61, 0x62]
    let invoke := ScriptedGuest.program.invoke
    let allocated := (invoke Export.malloc [Int32.ofNat data.length] told.state).2
    let received := (invoke Export.receiveByteArray [4104, 2] (allocated.put 4104 data)).2
    let freed := (invoke Export.free [4120] received).2
    Allocates ScriptedGuest.program told.state data.length 4104 allocated ∧
      invoke Export.receiveByteArray [4104, 2] (allocated.put 4104 data) =
        (.ok 4120, received) ∧
      Returns ScriptedGuest.program Export.free [4120] received freed ∧
      (tryReceiveByteArray data 2 ScriptedGuest.program told).1.toOption = none ∧
      ⟨Export.free, [4120]⟩ ∉ (tryReceiveByteArray data 2 ScriptedGuest.program told).2.calls := by
  intro told data invoke allocated received freed
  have hmalloc : Allocates ScriptedGuest.program told.state data.length 4104 allocated :=
    ⟨invoke_of_toOption (by decide +kernel), by decide, by decide +kernel⟩
  have hreceive : invoke Export.receiveByteArray [4104, 2] (allocated.put 4104 data) =
      (.ok 4120, received) :=
    invoke_of_toOption (by decide +kernel)
  have hfree : Returns ScriptedGuest.program Export.free [4120] received freed :=
    ⟨0, invoke_of_toOption (by decide +kernel)⟩
  exact ⟨hmalloc, hreceive, hfree, by decide +kernel, by decide +kernel⟩

end GuestHost.Harness
