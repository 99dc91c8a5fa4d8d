import GuestHost.Proofs.Host.Print
import GuestHost.Proofs.Memory.Frames
import GuestHost.Session.HostCalls

/-!
# What a host has recorded

A run is a list of moments: a call of the host, what the guest exports by then, and the
memory that it has then.  What a moment adds to the record depends on the moment and on the
cap alone, neither on the host's state nor on the moments before: a text, if a C string is
printed that stands in memory, a buffer, if one is sent that lies inside of it, or nothing.

So the record is made up of what the moments add, one after another.  Texts leave it only
when they are all taken out together, which is why the texts that have been taken out are
put in front of those that are still there.

* `Printable`, `Sendable`: what can be printed and sent at a moment.
* `HostMoment.Obeyed`: what one moment makes of the host's state.
* `HostMoment.runAll_recorded`: what all moments have made of it, by induction.
* `HostSession.runSteps_reports`: how the reports of a session tell it.
-/

namespace GuestHost

/-! ## What the readers of memory find -/

namespace LinearMemory

variable {memory : LinearMemory} {pointer length : Int32} {start cap : Nat}
  {bytes text : Bytes}

/-- A zero byte stands at an address or behind it. -/
def Terminated (memory : LinearMemory) (start : Nat) : Prop :=
  ∃ address, start ≤ address ∧ address < memory.size ∧ memory.byteAt address = 0

theorem zero_mem_tail_iff : 0 ∈ memory.tail start ↔ memory.Terminated start := by
  unfold tail slice Terminated
  rw [List.mem_map]
  constructor
  · rintro ⟨address, hinside, hzero⟩
    obtain ⟨hstart, hend⟩ := List.mem_range'_1.mp hinside
    exact ⟨address, hstart, by omega, hzero⟩
  · rintro ⟨address, hstart, hend, hzero⟩
    exact ⟨address, List.mem_range'_1.mpr ⟨hstart, by omega⟩, hzero⟩

instance : Decidable (memory.Terminated start) :=
  decidable_of_iff _ zero_mem_tail_iff

/-- The bytes from an address on that stand in front of the next zero byte. -/
def cString (memory : LinearMemory) (start : Nat) : Bytes :=
  (memory.tail start).untilNul

theorem holds_cString (hstart : start ≤ memory.size) (hzero : memory.Terminated start) :
    memory.Holds start (memory.cString start ++ [0]) := by
  obtain ⟨rest, hrest⟩ := Bytes.exists_untilNul_append_zero (zero_mem_tail_iff.mpr hzero)
  refine holds_iff_prefix_tail.mpr ⟨hstart, rest, ?_⟩
  rw [List.append_assoc]
  exact hrest.symm

theorem Holds.eq_cString (hnone : text.firstNul? = none)
    (hholds : memory.Holds start (text ++ [0])) :
    start ≤ memory.size ∧ memory.Terminated start ∧ text = memory.cString start := by
  obtain ⟨hstart, rest, htail⟩ := holds_iff_prefix_tail.mp hholds
  rw [List.append_assoc, List.singleton_append] at htail
  refine ⟨hstart, zero_mem_tail_iff.mp ?_, ?_⟩
  · simp [← htail]
  · rw [cString, ← htail, Bytes.untilNul_append_zero hnone]

/-- A C string is read exactly if the pointer is not outside of memory and a zero byte
follows. -/
theorem readCString_eq_ok_iff_cString : memory.readCString pointer cap = .ok bytes ↔
    0 ≤ pointer.toInt ∧ pointer.toInt ≤ memory.size ∧ memory.Terminated pointer.toInt.toNat ∧
      bytes = (memory.cString pointer.toInt.toNat).take cap := by
  rw [readCString_eq_ok_iff]
  constructor
  · rintro ⟨start, text, hpointer, hnone, hholds, rfl⟩
    have hvalue := Word.toCount?_eq_some_iff.mp hpointer
    obtain rfl : pointer.toInt.toNat = start := by omega
    obtain ⟨hstart, hzero, rfl⟩ := hholds.eq_cString hnone
    exact ⟨by omega, by omega, hzero, rfl⟩
  · rintro ⟨hnonneg, hinside, hzero, rfl⟩
    exact ⟨_, _, Word.toCount?_of_nonneg hnonneg, Bytes.firstNul?_untilNul _,
      holds_cString (by omega) hzero, rfl⟩

/-- Bytes are read exactly if all of them lie inside of memory. -/
theorem readBytes_eq_ok_iff_slice : memory.readBytes pointer length = .ok bytes ↔
    0 ≤ pointer.toInt ∧ 0 ≤ length.toInt ∧ pointer.toInt + length.toInt ≤ memory.size ∧
      bytes = memory.slice pointer.toInt.toNat length.toInt.toNat := by
  rw [readBytes_eq_ok_iff]
  constructor
  · rintro ⟨start, hpointer, hlength, hholds⟩
    have hplace := Word.toCount?_eq_some_iff.mp hpointer
    have hcount := Word.toCount?_eq_some_iff.mp hlength
    have hfits := hholds.fits
    refine ⟨by omega, by omega, by omega, ?_⟩
    rw [show pointer.toInt.toNat = start by omega, show length.toInt.toNat = bytes.length by omega]
    exact hholds.unique (holds_slice hfits) (length_slice _ _ _).symm
  · rintro ⟨hplace, hcount, hfits, rfl⟩
    refine ⟨_, Word.toCount?_of_nonneg hplace, ?_, holds_slice (by omega)⟩
    rw [length_slice]
    exact Word.toCount?_of_nonneg hcount

end LinearMemory

/-! ## Moments of a run -/

/-- A call of the host, with what the guest exports and has in memory at the time. -/
structure HostMoment where
  exports : List (String × Extern)
  memory : LinearMemory
  step : HostStep

namespace HostMoment

variable {moment : HostMoment} {pointer length : Int32}

/-- The guest exports a memory under the name `memory`. -/
def HasMemory (moment : HostMoment) : Prop :=
  moment.exports.lookup "memory" = some .memory

/-- There is a C string at a pointer. -/
def Printable (moment : HostMoment) (pointer : Int32) : Prop :=
  moment.HasMemory ∧ 0 ≤ pointer.toInt ∧ pointer.toInt ≤ moment.memory.size ∧
    moment.memory.Terminated pointer.toInt.toNat

/-- There are as many bytes at a pointer. -/
def Sendable (moment : HostMoment) (pointer length : Int32) : Prop :=
  moment.HasMemory ∧ 0 ≤ pointer.toInt ∧ 0 ≤ length.toInt ∧
    pointer.toInt + length.toInt ≤ moment.memory.size

instance : Decidable (moment.Printable pointer) :=
  inferInstanceAs (Decidable (_ = _ ∧ _))

instance : Decidable (moment.Sendable pointer length) :=
  inferInstanceAs (Decidable (_ = _ ∧ _))

/-- The bytes in front of the zero byte. -/
def stringAt (moment : HostMoment) (pointer : Int32) : Bytes :=
  moment.memory.cString pointer.toInt.toNat

/-- The texts that a moment adds to the record, one or none. -/
def printed (cap : Nat) (moment : HostMoment) : List String :=
  match moment.step with
  | .print pointer =>
    if moment.Printable pointer then [Utf8.decodeLossy ((moment.stringAt pointer).take cap)]
    else []
  | _ => []

/-- The buffers that a moment adds to the record, one or none. -/
def sent (moment : HostMoment) : List Bytes :=
  match moment.step with
  | .receiveBuffer pointer length =>
    if moment.Sendable pointer length then
      [moment.memory.slice pointer.toInt.toNat length.toInt.toNat]
    else []
  | _ => []

/-- The buffer status behind a moment. -/
def statusAfter (status : Int32) (moment : HostMoment) : Int32 :=
  match moment.step with
  | .setBufferStatus status => status
  | _ => status

/-- What a moment makes of a host. -/
def run (clock : Nat → Nat) (moment : HostMoment) (state : HostState) : HostReply × HostState :=
  moment.step.run clock (HostState.exportedMemory moment.exports moment.memory) state

/-- What moments make of a host, one after another. -/
def runAll (clock : Nat → Nat) : HostState → List HostMoment → List HostReply × HostState
  | state, [] => ([], state)
  | state, moment :: moments =>
    let (reply, after) := moment.run clock state
    let (replies, last) := runAll clock after moments
    (reply :: replies, last)

end HostMoment

/-- The texts that are taken out of a record by a reply. -/
def HostReply.taken : HostReply → List String
  | .texts found => found
  | _ => []

/-! ## One call -/

namespace HostState

variable {moment : HostMoment} {pointer length : Int32}

theorem exportedMemory_of_hasMemory (hmemory : moment.HasMemory) :
    exportedMemory moment.exports moment.memory = some moment.memory :=
  exportedMemory_eq_some_iff.mpr ⟨hmemory, rfl⟩

theorem print_of_printable (state : HostState) (hprintable : moment.Printable pointer) :
    ∃ events, state.print (exportedMemory moment.exports moment.memory) pointer =
      (Word.clamp ((moment.stringAt pointer).take state.maxLogLength).length,
        { state with
          output := state.output ++
            [Utf8.decodeLossy ((moment.stringAt pointer).take state.maxLogLength)]
          events }) := by
  obtain ⟨hmemory, hnonneg, hinside, hzero⟩ := hprintable
  rw [exportedMemory_of_hasMemory hmemory]
  exact state.print_records (Word.toCount?_of_nonneg hnonneg) (Bytes.firstNul?_untilNul _)
    (LinearMemory.holds_cString (by omega) hzero)

/-- A string that cannot be read leaves a trace, but no record. -/
theorem print_of_not_printable (state : HostState) (hrefused : ¬ moment.Printable pointer) :
    ∃ events, state.print (exportedMemory moment.exports moment.memory) pointer =
      (-1, { state with events }) := by
  unfold print
  split
  · exact ⟨_, rfl⟩
  · next memory hfound =>
      obtain ⟨hmemory, rfl⟩ := exportedMemory_eq_some_iff.mp hfound
      split
      · exact ⟨_, rfl⟩
      · next bytes hread =>
          obtain ⟨hnonneg, hinside, hzero, -⟩ :=
            LinearMemory.readCString_eq_ok_iff_cString.mp hread
          exact absurd ⟨hmemory, hnonneg, hinside, hzero⟩ hrefused

theorem receiveBuffer_of_sendable (state : HostState) (hsendable : moment.Sendable pointer length) :
    ∃ events, state.receiveBuffer (exportedMemory moment.exports moment.memory) pointer length =
      (state.bufferStatus,
        { state with
          received := state.received ++
            [moment.memory.slice pointer.toInt.toNat length.toInt.toNat]
          events }) := by
  obtain ⟨hmemory, hplace, hcount, hfits⟩ := hsendable
  have hread : moment.memory.readBytes pointer length =
      .ok (moment.memory.slice pointer.toInt.toNat length.toInt.toNat) :=
    LinearMemory.readBytes_eq_ok_iff_slice.mpr ⟨hplace, hcount, hfits, rfl⟩
  rw [exportedMemory_of_hasMemory hmemory]
  simp only [receiveBuffer, hread, trace]
  exact ⟨_, rfl⟩

theorem receiveBuffer_of_not_sendable (state : HostState)
    (hrefused : ¬ moment.Sendable pointer length) :
    ∃ events, state.receiveBuffer (exportedMemory moment.exports moment.memory) pointer length =
      (-1, { state with events }) := by
  unfold receiveBuffer
  split
  · exact ⟨_, rfl⟩
  · next memory hfound =>
      obtain ⟨hmemory, rfl⟩ := exportedMemory_eq_some_iff.mp hfound
      split
      · exact ⟨_, rfl⟩
      · next bytes hread =>
          obtain ⟨hplace, hcount, hfits, -⟩ := LinearMemory.readBytes_eq_ok_iff_slice.mp hread
          exact absurd ⟨hmemory, hplace, hcount, hfits⟩ hrefused

end HostState

/-! ## One moment -/

section Moments

variable {moment : HostMoment} {pointer length : Int32} {before after : HostState}
  {reply : HostReply}

/-- What a moment has to make of a host: it is answered by what there is in the guest's
memory, and adds to the record what it adds whatever the host has recorded before. -/
structure HostMoment.Obeyed (moment : HostMoment) (before : HostState) (reply : HostReply)
    (after : HostState) : Prop where
  printing : ∀ pointer, moment.step = .print pointer → ∃ answer, reply = .number answer ∧
    answer.toInt = if moment.Printable pointer then
      (min (min (moment.stringAt pointer).length before.maxLogLength) (2 ^ 31 - 1 : Nat) : Int)
      else -1
  sending : ∀ pointer length, moment.step = .receiveBuffer pointer length →
    reply = .number (if moment.Sendable pointer length then before.bufferStatus else -1)
  taking : moment.step = .takeOutput → reply = .texts before.output ∧ after.output = []
  keeping : moment.step ≠ .takeOutput →
    reply.taken = [] ∧ after.output = before.output ++ moment.printed before.maxLogLength
  received : after.received = before.received ++ moment.sent
  cap : after.maxLogLength = before.maxLogLength
  status : after.bufferStatus = moment.statusAfter before.bufferStatus

namespace HostMoment

theorem run_print (clock : Nat → Nat) (hstep : moment.step = .print pointer) (state : HostState) :
    ∃ answer events, moment.run clock state = (.number answer,
      { state with output := state.output ++ moment.printed state.maxLogLength, events }) ∧
      answer.toInt = if moment.Printable pointer then
        (min (min (moment.stringAt pointer).length state.maxLogLength) (2 ^ 31 - 1 : Nat) : Int)
        else -1 := by
  unfold run printed
  rw [hstep]
  by_cases hprintable : moment.Printable pointer
  · obtain ⟨events, hprint⟩ := state.print_of_printable hprintable
    refine ⟨_, events, by simp only [HostStep.run, hprint, if_pos hprintable]; rfl, ?_⟩
    rw [if_pos hprintable, Word.toInt_clamp_eq, List.length_take]
    omega
  · obtain ⟨events, hprint⟩ := state.print_of_not_printable hprintable
    refine ⟨-1, events, ?_, by rw [if_neg hprintable]; rfl⟩
    simp only [HostStep.run, hprint, if_neg hprintable, List.append_nil]

theorem run_receiveBuffer (clock : Nat → Nat) (hstep : moment.step = .receiveBuffer pointer length)
    (state : HostState) :
    ∃ events, moment.run clock state =
      (.number (if moment.Sendable pointer length then state.bufferStatus else -1),
        { state with received := state.received ++ moment.sent, events }) := by
  unfold run sent
  rw [hstep]
  by_cases hsendable : moment.Sendable pointer length
  · obtain ⟨events, hreceive⟩ := state.receiveBuffer_of_sendable hsendable
    exact ⟨events, by simp only [HostStep.run, hreceive, if_pos hsendable]⟩
  · obtain ⟨events, hreceive⟩ := state.receiveBuffer_of_not_sendable hsendable
    exact ⟨events, by simp only [HostStep.run, hreceive, if_neg hsendable, List.append_nil]⟩

/-- A host does what a moment asks of it, whatever state it is in. -/
theorem run_obeyed (clock : Nat → Nat) (moment : HostMoment) (state : HostState) :
    moment.Obeyed state (moment.run clock state).1 (moment.run clock state).2 := by
  obtain ⟨exports, memory, step⟩ := moment
  cases step with
  | print pointer =>
      have hstep : (HostMoment.mk exports memory (.print pointer)).step = .print pointer := rfl
      obtain ⟨answer, events, hrun, hanswer⟩ := run_print clock hstep state
      rw [hrun]
      constructor
      case printing =>
        rintro _ ⟨⟩
        exact ⟨answer, rfl, hanswer⟩
      case keeping => exact fun _ => ⟨rfl, rfl⟩
      case received => exact (List.append_nil _).symm
      case cap => rfl
      case status => rfl
      all_goals nofun
  | receiveBuffer pointer length =>
      have hstep : (HostMoment.mk exports memory (.receiveBuffer pointer length)).step =
          .receiveBuffer pointer length := rfl
      obtain ⟨events, hrun⟩ := run_receiveBuffer clock hstep state
      rw [hrun]
      constructor
      case sending =>
        rintro _ _ ⟨⟩
        rfl
      case keeping => exact fun _ => ⟨rfl, (List.append_nil _).symm⟩
      case received => rfl
      case cap => rfl
      case status => rfl
      all_goals nofun
  | takeOutput =>
      constructor
      case taking => exact fun _ => ⟨rfl, rfl⟩
      case keeping => exact fun htake => absurd rfl htake
      case received => exact (List.append_nil _).symm
      case cap => rfl
      case status => rfl
      all_goals nofun
  | _ =>
      -- these calls neither print nor send
      constructor
      case keeping => exact fun _ => ⟨rfl, (List.append_nil _).symm⟩
      case received => exact (List.append_nil _).symm
      case cap => rfl
      case status => rfl
      all_goals nofun

end HostMoment

theorem HostMoment.printed_eq_nil {moment : HostMoment} (htake : moment.step = .takeOutput)
    (cap : Nat) : moment.printed cap = [] := by
  rw [printed, htake]

/-- No text is lost, added or moved to another place by a moment, if it is counted whether it
is still there or has been taken out. -/
theorem HostMoment.Obeyed.taken_append_output (hobeyed : moment.Obeyed before reply after) :
    reply.taken ++ after.output = before.output ++ moment.printed before.maxLogLength := by
  by_cases htake : moment.step = .takeOutput
  · obtain ⟨hreply, hempty⟩ := hobeyed.taking htake
    rw [hreply, hempty, HostMoment.printed_eq_nil htake]
    rfl
  · obtain ⟨hreply, houtput⟩ := hobeyed.keeping htake
    rw [hreply, houtput]
    rfl

/-- What is new in the record is what the moment has added. -/
theorem HostMoment.Obeyed.drop_output (hobeyed : moment.Obeyed before reply after) :
    after.output.drop before.output.length = moment.printed before.maxLogLength := by
  by_cases htake : moment.step = .takeOutput
  · obtain ⟨-, hempty⟩ := hobeyed.taking htake
    rw [hempty, HostMoment.printed_eq_nil htake, List.drop_nil]
  · obtain ⟨-, houtput⟩ := hobeyed.keeping htake
    rw [houtput, List.drop_left]

end Moments

/-! ## Whole runs -/

namespace HostMoment

theorem runAll_cons (clock : Nat → Nat) (state : HostState) (moment : HostMoment)
    (moments : List HostMoment) :
    runAll clock state (moment :: moments) =
      ((moment.run clock state).1 :: (runAll clock (moment.run clock state).2 moments).1,
        (runAll clock (moment.run clock state).2 moments).2) := rfl

/-- What a run leaves of a host is told by its moments. -/
structure Recorded (moments : List HostMoment) (before : HostState) (replies : List HostReply)
    (after : HostState) : Prop where
  output : replies.flatMap HostReply.taken ++ after.output =
    before.output ++ moments.flatMap (printed before.maxLogLength)
  received : after.received = before.received ++ moments.flatMap sent
  cap : after.maxLogLength = before.maxLogLength
  status : after.bufferStatus = moments.foldl statusAfter before.bufferStatus

/-- The first moment adds what it adds, and the others add to that. -/
theorem runAll_recorded (clock : Nat → Nat) (moments : List HostMoment) (state : HostState) :
    Recorded moments state (runAll clock state moments).1 (runAll clock state moments).2 := by
  induction moments generalizing state with
  | nil =>
      constructor
      case output => exact (List.append_nil _).symm
      case received => exact (List.append_nil _).symm
      case cap => rfl
      case status => rfl
  | cons moment moments ih =>
      have hfirst := run_obeyed clock moment state
      have hrest := ih (moment.run clock state).2
      rw [runAll_cons]
      constructor
      case output =>
        let reply := (moment.run clock state).1
        let after := (moment.run clock state).2
        let more := moments.flatMap (printed state.maxLogLength)
        -- the cap is that of the state in the beginning, also for the moments to come
        have hmore : (runAll clock after moments).1.flatMap HostReply.taken ++
            (runAll clock after moments).2.output = after.output ++ more := by
          rw [hrest.output, hfirst.cap]
        calc
          (reply :: (runAll clock after moments).1).flatMap HostReply.taken ++
              (runAll clock after moments).2.output
            = reply.taken ++ (after.output ++ more) := by
              rw [List.flatMap_cons, List.append_assoc, hmore]
          _ = state.output ++ moment.printed state.maxLogLength ++ more := by
              rw [← List.append_assoc, hfirst.taken_append_output]
          _ = state.output ++ (moment :: moments).flatMap (printed state.maxLogLength) := by
              rw [List.flatMap_cons, List.append_assoc]
      case received =>
        rw [hrest.received, hfirst.received, List.append_assoc, List.flatMap_cons]
      case cap => rw [hrest.cap, hfirst.cap]
      case status => rw [hrest.status, hfirst.status, List.foldl_cons]

end HostMoment

/-- A session is a run in which the guest's exports and memory stay the same, and a report of
it tells what the moment has added to the record. -/
theorem HostSession.runSteps_reports (clock : Nat → Nat) (exports : List (String × Extern))
    (memory : LinearMemory) (steps : List HostStep) (state : HostState) :
    let moments := steps.map (HostMoment.mk exports memory)
    let reports := runSteps clock (HostState.exportedMemory exports memory) state steps
    reports.map (·.reply) = (HostMoment.runAll clock state moments).1 ∧
      reports.map (·.output) = moments.map (HostMoment.printed state.maxLogLength) ∧
      reports.map (·.received) = moments.map HostMoment.sent := by
  induction steps generalizing state with
  | nil => exact ⟨rfl, rfl, rfl⟩
  | cons step steps ih =>
      have hobeyed := HostMoment.run_obeyed clock ⟨exports, memory, step⟩ state
      obtain ⟨hreplies, houtput, hreceived⟩ :=
        ih (HostMoment.run clock ⟨exports, memory, step⟩ state).2
      rw [hobeyed.cap] at houtput
      refine ⟨?_, ?_, ?_⟩
      · exact congrArg (_ :: ·) hreplies
      · exact List.cons_eq_cons.mpr ⟨hobeyed.drop_output, houtput⟩
      · refine List.cons_eq_cons.mpr ⟨?_, hreceived⟩
        exact (congrArg _ hobeyed.received).trans List.drop_left

/-! ## The clock -/

variable {clock : Nat → Nat}

/-- A clock that does not go back is not read as an earlier time than just before. -/
theorem HostState.readClock_le (hclock : ∀ reading, clock reading ≤ clock (reading + 1))
    (state : HostState) :
    (state.readClock clock).1 ≤ (state.countReading.readClock clock).1 := by
  have hmax : Int64.maxValue.toInt = 2 ^ 63 - 1 := rfl
  have hword : ∀ time : Nat, (Int64.ofInt (min Int64.maxValue.toInt time)).toInt =
      min Int64.maxValue.toInt time := by
    intro time
    have hnonneg := Int.natCast_nonneg time
    exact Int64.toInt_ofInt_of_le (by omega) (by omega)
  have hnext := hclock state.clockReads
  have hreads : state.countReading.clockReads = state.clockReads + 1 := rfl
  rw [Int64.le_iff_toInt_le, readClock, readClock, hword, hword, hreads]
  omega

/-- A session cannot tell a clock that does not go back from the one it is run under. -/
theorem HostStep.run_of_steady (hclock : ∀ reading, clock reading ≤ clock (reading + 1))
    (memory : Option LinearMemory) (state : HostState) (step : HostStep) :
    step.run clock memory state = step.run id memory state := by
  have hmonotone : ∀ {clock : Nat → Nat}, (∀ reading, clock reading ≤ clock (reading + 1)) →
      HostStep.clock.run clock memory state =
        (.monotone true, state.countReading.countReading) := by
    intro clock hclock
    have hanswer := decide_eq_true (state.readClock_le hclock)
    exact congrArg (fun answer => (HostReply.monotone answer, _)) hanswer
  cases step with
  | clock =>
      have hsteady : ∀ reading, id reading ≤ id (reading + 1) := Nat.le_succ
      rw [hmonotone hclock, hmonotone hsteady]
  | _ => rfl

theorem HostSession.runSteps_of_steady (hclock : ∀ reading, clock reading ≤ clock (reading + 1))
    (memory : Option LinearMemory) (state : HostState) (steps : List HostStep) :
    runSteps clock memory state steps = runSteps id memory state steps := by
  induction steps generalizing state with
  | nil => rfl
  | cons step steps ih =>
      rw [runSteps, runSteps, HostStep.run_of_steady hclock]
      exact congrArg _ (ih _)

/-! ## What is recorded -/

/-- Whatever calls a guest makes of a new host, at whatever contents of its memory, and whatever
the host's clock shows: the next call is answered by what it finds in memory, by the settings' cap
and by the last status that was set.  The texts that were taken out and those still there are what
the calls have printed, one after another, and the buffers are those that the calls have sent. -/
theorem record_of_run (clock : Nat → Nat) (settings : Settings) (moments : List HostMoment) :
    let host := HostState.new settings
    let (replies, state) := HostMoment.runAll clock host moments
    state.maxLogLength = settings.maxLogLength ∧
      state.bufferStatus = moments.foldl HostMoment.statusAfter settings.bufferStatus ∧
      (∀ next : HostMoment, next.Obeyed state (next.run clock state).1 (next.run clock state).2) ∧
      replies.flatMap HostReply.taken ++ state.output =
        moments.flatMap (HostMoment.printed settings.maxLogLength) ∧
      state.received = moments.flatMap HostMoment.sent := by
  intro host
  have hrecorded := HostMoment.runAll_recorded clock moments host
  refine ⟨hrecorded.cap, hrecorded.status, fun next => next.run_obeyed clock _, ?_, ?_⟩
  · exact hrecorded.output
  · exact hrecorded.received

/-- A pointer at the end of memory is none to a string, but it is one to no bytes at all. -/
example :
    let memory := (LinearMemory.zeros 1).overwrite 65533 [0x68, 0x69, 0]
    let host : HostState := { maxLogLength := 4096, bufferStatus := 7 }
    let moments := [HostStep.print 65533, .print 65536, .takeOutput, .receiveBuffer 65536 0,
      .receiveBuffer 65536 1, .setBufferStatus 9, .receiveBuffer 65533 2].map
        (HostMoment.mk [("memory", .memory)] memory)
    let (replies, state) := HostMoment.runAll id host moments
    replies = [.number 2, .number (-1), .texts ["hi"], .number 7, .number (-1), .nothing,
      .number 9] ∧ state.output = [] ∧ state.received = [[], [0x68, 0x69]] := by
  decide +kernel

end GuestHost
