import GuestHost.Proofs.Guest.Handles
import GuestHost.Proofs.Guest.Log
import GuestHost.Sample.Greeting

/-!
# What greetings do to a machine

The fixed greetings print one line (`hello_run`, `plainHelloWorld_run`, `printHelloWorld_run`).
The greeting that passes a message on prints it, asks for a scratch buffer, and prints where the
buffer stands and what it holds before it releases the buffer again (`helloWorld_run_granted`);
if there is no room for the buffer that is reported (`helloWorld_run_denied`).
-/

namespace GuestHost.Sample

variable {σ : Type} {world : World σ} {machine : Machine σ} {address : Address}

theorem hello_run : hello world machine =
    (.ok 0, machine.say world.host (Guest.headBytes "Hello from Wasm in Hyperlight \n")) := by
  rw [hello, Attempt.bind_of_ok (Guest.printText_run _)]
  rfl

theorem plainHelloWorld_run : plainHelloWorld world machine =
    (.ok 0, machine.say world.host (Guest.headBytes "Hello from Wasm in Hyperlight!\n")) := by
  rw [plainHelloWorld, Attempt.bind_of_ok (Guest.printText_run _)]
  rfl

theorem printHelloWorld_run : printHelloWorld world machine =
    (.ok (), machine.say world.host (Guest.headBytes "Hello World from Wasm!\n")) := by
  rw [printHelloWorld, Attempt.bind_of_ok (Guest.printText_run _)]
  rfl

/-! ## The greeting with a scratch buffer -/

/-- The line that passes a message on. -/
def messageLine (message : Bytes) : Bytes :=
  Guest.headBytes (Utf8.decodeLossy message ++ "\n")

/-- The line that shows where the scratch buffer stands. -/
def scratchLine (address : Address) : Bytes :=
  Guest.headBytes ("buffer address: " ++ addressText address ++ "\n")

/-- The line that shows what was written into the scratch buffer. -/
def contentsLine : Bytes :=
  Guest.headBytes ("contents of buffer after snprintf: " ++ Abi.scratchContents ++ "\n")

/-- The line that reports that there is no scratch buffer. -/
def noScratchLine : Bytes :=
  Guest.logLine .error
    ("malloc buf failed: " ++ (GuestError.allocationFailed Abi.scratchBufferSize).message)

theorem printText_run_message (message : Bytes) :
    Guest.printText (Utf8.decodeLossy message ++ "\n") world machine =
      (.ok (world.host.print (messageLine message) machine.host).1,
        machine.say world.host (messageLine message)) :=
  Guest.printText_run _

theorem helloWorld_run_denied (message : Bytes)
    (hanswer : world.answer machine Abi.scratchBufferSize = none) :
    helloWorld message world machine =
      (.ok (-1), ((machine.say world.host (messageLine message)).deny Abi.scratchBufferSize).say
        world.host noScratchLine) := by
  have hdenied : world.answer (machine.say world.host (messageLine message))
      Abi.scratchBufferSize = none := hanswer
  rw [helloWorld, Attempt.bind_of_ok (printText_run_message message),
    Attempt.bind_of_ok (OwnedBuffer.allocate_run_denied hdenied)]
  simp only
  rw [Attempt.bind_of_ok (Guest.log_run _ _)]
  rfl

theorem length_encode_scratchContents : (Utf8.encode Abi.scratchContents).length = 4 := by
  decide +kernel

/-- The scratch buffer is granted, written into, and released at the end. -/
theorem helloWorld_run_granted (message : Bytes)
    (hanswer : world.answer machine Abi.scratchBufferSize = some address) :
    ∃ zeros written : Block, written.capacity = zeros.capacity ∧
      helloWorld message world machine =
        (.ok 0, (((((machine.say world.host (messageLine message)).grant address zeros).say
          world.host (scratchLine address)).patch address written).say
          world.host contentsLine).free address written) := by
  have hgranted : world.answer (machine.say world.host (messageLine message))
      Abi.scratchBufferSize = some address := hanswer
  have hfresh := World.fresh_of_answer hgranted
  have hnull := World.answer_ne_zero hgranted
  obtain ⟨zeros, hzeros, hrun⟩ := OwnedBuffer.allocate_run_granted hgranted
  have hcapacity : zeros.capacity = Abi.scratchBufferSize := by
    rw [← zeros.length_contents, hzeros, List.length_replicate]
  have hroom : 0 + (Utf8.encode Abi.scratchContents).length ≤ Abi.scratchBufferSize := by
    rw [length_encode_scratchContents]
    decide
  let written := zeros.write 0 (Utf8.encode Abi.scratchContents) (hcapacity ▸ hroom)
  have hwritten : (written.contents.take Abi.scratchBufferSize).take
      (Utf8.encode Abi.scratchContents).length = Utf8.encode Abi.scratchContents := by
    rw [List.take_take, Nat.min_eq_left (by simpa using hroom)]
    simp [written, Block.write, Bytes.splice]
  -- the machines in between, by what has happened last
  let shown := ((machine.say world.host (messageLine message)).grant address zeros).say world.host
    (scratchLine address)
  let patched := shown.patch address written
  let scratch : OwnedBuffer := ⟨address, Abi.scratchBufferSize⟩
  have hzerosFound : shown.heap.find? address = some zeros := by
    simp only [shown, Machine.heap_say]
    exact Machine.find?_grant_self hfresh
  have hwrittenFound : patched.heap.find? address = some written :=
    Machine.find?_patch_self written hzerosFound
  have hreleasedFound :
      (patched.say world.host contentsLine).heap.find? address = some written := by
    rw [Machine.heap_say, hwrittenFound]
  have hshow : Guest.printText ("buffer address: " ++ addressText address ++ "\n") world
      ((machine.say world.host (messageLine message)).grant address zeros) = (.ok _, shown) :=
    Guest.printText_run _
  have hwrite : scratch.write 0 (Utf8.encode Abi.scratchContents) world shown = (.ok (), patched) :=
    OwnedBuffer.write_run hzerosFound hroom (Nat.le_of_eq hcapacity.symm)
  have hread : scratch.bytes world patched =
      (.ok (written.contents.take Abi.scratchBufferSize), patched) :=
    OwnedBuffer.bytes_run hwrittenFound
  have hrelease : scratch.release world (patched.say world.host contentsLine) =
      (.ok (), (patched.say world.host contentsLine).free address written) :=
    OwnedBuffer.release_run hreleasedFound hnull
  have hcontents : Guest.printText ("contents of buffer after snprintf: " ++
      Abi.scratchContents ++ "\n") world patched =
        (.ok _, patched.say world.host contentsLine) :=
    Guest.printText_run _
  refine ⟨zeros, written, rfl, ?_⟩
  rw [helloWorld, Attempt.bind_of_ok (printText_run_message message), Attempt.bind_of_ok hrun]
  simp only
  rw [Attempt.bind_of_ok hshow, Attempt.bind_of_ok hwrite, Attempt.bind_of_ok hread]
  simp only [hwritten, Utf8.decodeLossy_encode]
  rw [Attempt.bind_of_ok hcontents, Attempt.bind_of_ok hrelease]
  rfl

end GuestHost.Sample
