import GuestHost.Proofs.Abi.Outcome
import GuestHost.Proofs.Sample.Upper

/-!
# Messages that are taken over and printed

Three exported functions take a message over, print it and release it: one of them answers
with its length, one puts it in upper-case letters first.  They differ in nothing else, so they
are told together, as the functions of a `Printer` (`Printer.call_eq`).

Where the message ends is looked for within its block.  If it ends nowhere there, the block is
released before that is reported (`Printer.call_run_unterminated`).  The letters of a message are
changed in its own block, which is released afterwards: what is left is what would be left if the
letters had been changed on the way to the host (`Entry.printUpper_run_letters`).
-/

namespace GuestHost

variable {σ : Type}

/-- Both equations of a message that is printed in upper-case letters in one: an empty one has
no letters, and the block of another one is released as if it had kept its own. -/
theorem Entry.printUpper_run_letters {world : World σ} {machine : Machine σ} {address : Address}
    {block : Block} {length : Nat} (hfound : machine.heap.find? address = some block)
    (hnull : address ≠ 0) (hzero : block.contents.firstNul? = some length) :
    printUpper address world machine =
      (.ok (), (machine.say world.host ((block.contents.take length).map Bytes.upperAscii)).free
        address block) := by
  cases length with
  | zero =>
      have hempty : block.contents.untilNul = [] := (Bytes.take_firstNul? hzero).symm
      rw [printUpper_run_empty hfound hnull hzero, hempty]
      rfl
  | succ length =>
      have hfits : length + 1 ≤ block.capacity := Nat.le_of_lt (Block.firstNul?_lt hzero)
      have hcapacity : (block.upper (length + 1) hfits).capacity = block.capacity := rfl
      have hsaid : ∀ message, (machine.patch address (block.upper (length + 1) hfits)).say
          world.host message =
          (machine.say world.host message).patch address (block.upper (length + 1) hfits) :=
        fun _ => rfl
      rw [printUpper_run hfound hnull (Nat.succ_pos length) hfits hzero,
        Block.untilNul_upper hfits hzero, hsaid, Machine.free_patch _ hcapacity]

/-- The exported functions that take a message over. -/
inductive Printer
  | usingHostPrint
  | plain
  | upper
  deriving DecidableEq, Repr

namespace Printer

/-- What is answered: a length, or nothing. -/
def Answer : Printer → Type
  | usingHostPrint => Int32
  | plain => Unit
  | upper => Unit

/-- The function itself. -/
def call : (printer : Printer) → Address → Guest σ printer.Answer
  | usingHostPrint => Entry.printUsingHostPrint
  | plain => Entry.print
  | upper => Entry.printUpper

/-- The name on whose behalf errors are reported. -/
def name : Printer → String
  | usingHostPrint => Export.printUsingHostPrint
  | plain => Export.print
  | upper => Export.printUpper

/-- What is done with a message that has been taken over. -/
def use : (printer : Printer) → OwnedCString → Guest σ printer.Answer
  | usingHostPrint => Sample.printUsingHostPrint
  | plain => Sample.print
  | upper => Sample.printUpper

/-- A length as an answer. -/
def answer : (printer : Printer) → Int32 → printer.Answer
  | usingHostPrint, length => length
  | plain, _ => ()
  | upper, _ => ()

/-- The bytes of a message as they are printed. -/
def letters : Printer → Bytes → Bytes
  | usingHostPrint, message => message
  | plain, message => message
  | upper, message => message.map Bytes.upperAscii

/-- The line that reports that there is no message. -/
def nullLine (printer : Printer) : Bytes :=
  Utf8.encode
    s!"[ERROR] {printer.name}: Null pointer passed where an owned buffer was expected\n"

/-- The line that reports that the message does not end within its block. -/
def unterminatedLine (printer : Printer) (capacity : Nat) : Bytes :=
  Utf8.encode s!"[ERROR] {printer.name}: No NUL terminator within {capacity} bytes\n"

variable {printer : Printer} {world : World σ} {machine : Machine σ} {address : Address}
  {block : Block}

/-! ## The lines -/

theorem zero_notMem_name (printer : Printer) : '\x00' ∉ printer.name.toList := by
  cases printer <;> decide

theorem errorLine_nullPointer (printer : Printer) :
    Sample.errorLine printer.name .nullPointer = printer.nullLine := by
  have hend : ": Null pointer passed where an owned buffer was expected\n" =
      ": " ++ (GuestError.nullPointer.message ++ "\n") := by decide +kernel
  have hline : printer.nullLine = Utf8.encode ("[ERROR] " ++ printer.name ++
      ": Null pointer passed where an owned buffer was expected\n") := rfl
  rw [Sample.errorLine_eq printer.zero_notMem_name, hline, hend]
  simp only [String.append_assoc]

theorem errorLine_missingTerminator (printer : Printer) (capacity : Nat) :
    Sample.errorLine printer.name (.missingTerminator capacity) =
      printer.unterminatedLine capacity := by
  have hhead : ": No NUL terminator within " = ": " ++ "No NUL terminator within " := by decide
  have hend : " bytes\n" = " bytes" ++ "\n" := by decide
  have hmessage : (GuestError.missingTerminator capacity).message =
      "No NUL terminator within " ++ toString capacity ++ " bytes" := rfl
  have hline : printer.unterminatedLine capacity = Utf8.encode ("[ERROR] " ++ printer.name ++
      ": No NUL terminator within " ++ toString capacity ++ " bytes\n") := rfl
  rw [Sample.errorLine_eq printer.zero_notMem_name, hmessage, hline, hhead, hend]
  simp only [String.append_assoc]

/-! ## The machines that the calls end with -/

/-- The functions differ in what they do with a message, not in how they take it over. -/
theorem call_eq (printer : Printer) (message : Address) :
    (printer.call message : Guest σ printer.Answer) =
      Entry.adoptMessage printer.name message (printer.answer (-1)) printer.use := by
  cases printer <;> rfl

theorem call_run_null (printer : Printer) (world : World σ) (machine : Machine σ) :
    printer.call 0 world machine =
      (.ok (printer.answer (-1)), machine.say world.host printer.nullLine) := by
  rw [call_eq, Entry.adoptMessage_run_null, errorLine_nullPointer]

theorem call_run_unterminated (printer : Printer) (world : World σ)
    (hfound : machine.heap.find? address = some block) (hnull : address ≠ 0)
    (hzero : block.contents.firstNul? = none) :
    printer.call address world machine =
      (.ok (printer.answer (-1)),
        (machine.free address block).say world.host (printer.unterminatedLine block.capacity)) := by
  rw [call_eq, Entry.adoptMessage_run_unterminated hfound hnull hzero,
    errorLine_missingTerminator]

theorem call_run (printer : Printer) (world : World σ) {length : Nat}
    (hfound : machine.heap.find? address = some block) (hnull : address ≠ 0)
    (hzero : block.contents.firstNul? = some length) :
    printer.call address world machine =
      (.ok (printer.answer (Word.clamp length)),
        (machine.say world.host (printer.letters (block.contents.take length))).free
          address block) := by
  have hmessage : block.contents.take length = block.contents.untilNul :=
    Bytes.take_firstNul? hzero
  cases printer with
  | usingHostPrint =>
      rw [hmessage]
      exact Entry.printUsingHostPrint_run hfound hnull hzero
  | plain =>
      rw [hmessage]
      exact Entry.print_run hfound hnull hzero
  | upper => exact Entry.printUpper_run_letters hfound hnull hzero

/-- Nothing but the block and the state of the host makes a difference to a call. -/
theorem call_congr (printer : Printer) (world : World σ) {other : Machine σ}
    (hnull : address ≠ 0) (hfound : machine.heap.find? address = some block)
    (hother : other.heap.find? address = some block) (hhost : other.host = machine.host) :
    (printer.call address world other).1 = (printer.call address world machine).1 ∧
      (printer.call address world other).2.host = (printer.call address world machine).2.host := by
  cases hzero : block.contents.firstNul? with
  | none =>
      rw [call_run_unterminated printer world hother hnull hzero,
        call_run_unterminated printer world hfound hnull hzero]
      exact ⟨rfl, congrArg (fun state => (world.host.print _ state).2) hhost⟩
  | some length =>
      rw [call_run printer world hother hnull hzero, call_run printer world hfound hnull hzero]
      exact ⟨rfl, congrArg (fun state => (world.host.print _ state).2) hhost⟩

/-- If a block has a zero byte, the bytes in front of the first one are printed, once, and then
the block is released; the answer, if there is one, is their number, whatever the host answers.
If it has none, the block is released and one line reports that.  If there is no block, one line
reports that too.  No other block is touched, and what stands outside of the block makes no
difference. -/
theorem message_is_printed_or_reported (printer : Printer) (world : World σ)
    (machine : Machine σ) :
    (∃ after, printer.call 0 world machine = (.ok (printer.answer (-1)), after) ∧
      Outcome world.host machine after none none [printer.nullLine]) ∧
    ∀ address block, address ≠ 0 → machine.heap.find? address = some block →
      (∀ length, block.contents.firstNul? = some length →
        ∃ count after, printer.call address world machine = (.ok (printer.answer count), after) ∧
          count.toInt = min length (2 ^ 31 - 1) ∧
          Outcome world.host machine after (some address) none
            [printer.letters (block.contents.take length)] ∧
          after.journal = .released address (block.capacity + blockHeaderSize) ::
            .printed (printer.letters (block.contents.take length)) :: machine.journal) ∧
      (block.contents.firstNul? = none →
        ∃ after, printer.call address world machine = (.ok (printer.answer (-1)), after) ∧
          Outcome world.host machine after (some address) none
            [printer.unterminatedLine block.capacity]) ∧
      ∀ other : Machine σ, other.heap.find? address = some block → other.host = machine.host →
        (printer.call address world other).1 = (printer.call address world machine).1 ∧
        (printer.call address world other).2.host =
          (printer.call address world machine).2.host := by
  have hstart := Outcome.refl world.host machine
  refine ⟨⟨_, call_run_null printer world machine, hstart.say printer.nullLine⟩, ?_⟩
  intro address block hnull hfound
  refine ⟨?_, ?_, fun other hother hhost => call_congr printer world hnull hfound hother hhost⟩
  · intro length hzero
    exact ⟨Word.clamp length, _, call_run printer world hfound hnull hzero,
      Word.toInt_clamp_eq length, (hstart.say _).free hfound, rfl⟩
  · intro hzero
    exact ⟨_, call_run_unterminated printer world hfound hnull hzero,
      (hstart.free hfound).say _⟩

/-- A word with a zero byte behind it, one without, and the null pointer. -/
theorem a_word_is_printed_or_reported :
    let word : Block := ⟨4, [0x61, 0x62, 0, 0x63], 12, rfl, rfl⟩
    let endless : Block := ⟨2, [0x61, 0x62], 10, rfl, rfl⟩
    let machine : Machine Recording :=
      .start ((Heap.empty.insert 8 word rfl).insert 16 endless rfl) {}
    let world : World Recording :=
      ⟨SystemAllocator.refusing none, Recording.host 1 0, Recording.rounds 1⟩
    (∃ after, upper.call 8 world machine = (.ok (), after) ∧
      after.journal = [.released 8 12, .printed [0x41, 0x42]] ∧
      after.heap.find? 8 = none ∧ after.heap.find? 16 = some endless) ∧
    (∃ count after, usingHostPrint.call 8 world machine = (.ok count, after) ∧
      Int32.toInt count = 2) ∧
    (∃ after, usingHostPrint.call 16 world machine = (.ok (-1 : Int32), after) ∧
      Outcome world.host machine after (some 16) none [usingHostPrint.unterminatedLine 2]) ∧
    ∃ after, plain.call 0 world machine = (.ok (), after) ∧
      Outcome world.host machine after none none [plain.nullLine] := by
  intro word endless machine world
  -- each of the three functions is looked at in another of the cases
  obtain ⟨-, hupper⟩ := message_is_printed_or_reported upper world machine
  obtain ⟨-, husing⟩ := message_is_printed_or_reported usingHostPrint world machine
  obtain ⟨hplain, -⟩ := message_is_printed_or_reported plain world machine
  have hendless : machine.heap.find? 16 = some endless := rfl
  obtain ⟨hprinted, -, -⟩ := hupper 8 word (by decide) rfl
  obtain ⟨hcounted, -, -⟩ := husing 8 word (by decide) rfl
  obtain ⟨-, hreported, -⟩ := husing 16 endless (by decide) rfl
  obtain ⟨_, after, hrun, -, houtcome, hjournal⟩ := hprinted 2 (by decide)
  obtain ⟨count, counted, hcount, htwo, -, -⟩ := hcounted 2 (by decide)
  exact ⟨⟨after, hrun, hjournal, houtcome.gone 8 rfl,
    houtcome.find?_of_find? hendless (by decide)⟩, ⟨count, counted, hcount, htwo⟩,
    hreported (by decide), hplain⟩

end Printer

end GuestHost
