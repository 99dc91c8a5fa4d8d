import GuestHost.Host.State
import GuestHost.Proofs.Guest.Log
import GuestHost.Proofs.Level
import GuestHost.Proofs.Memory.Access
import GuestHost.Session.Run

/-!
# A log line on its way from the guest to the host

The guest puts a tag in front of a message and a newline behind it, cuts the line at
its first U+0000 and hands it over as a C string.  The host finds the C string in the
guest's memory, cuts it at a cap, reads it as text, takes the newlines off its end and
then the tag off its front.

None of the cuts reaches into the tag.  It has no U+0000; the newlines are taken off
behind it, since it ends with a blank; and a cap that leaves the tag whole leaves a text
that starts with it, whatever has become of a character at the cut.

* `trimNewlines_eq_iff`: what is taken off the end of a line.
* `eventOf_tag_append`: what is taken off its front.
* `print_line_whole`, `print_line_cut`: the line at the host, by what the cap leaves of it.
* `log_reaches_host`: the whole way.
-/

namespace GuestHost

/-! ## Newlines at the end -/

namespace HostState

/-- Newlines, and nothing else, are taken off the end of a text, until none is left there. -/
theorem trimNewlines_eq_iff {text trimmed : String} :
    trimNewlines text = trimmed ↔
      (∃ count, text = trimmed ++ String.ofList (List.replicate count '\n')) ∧
        trimmed.toList.getLast? ≠ some '\n' := by
  constructor
  · rintro rfl
    have hsplit := List.takeWhile_append_dropWhile (p := (· == '\n')) (l := text.toList.reverse)
    have hnewlines : text.toList.reverse.takeWhile (· == '\n') =
        List.replicate (text.toList.reverse.takeWhile (· == '\n')).length '\n' :=
      List.eq_replicate_of_mem fun c hc =>
        beq_iff_eq.mp (List.all_eq_true.mp List.all_takeWhile c hc)
    constructor
    · refine ⟨(text.toList.reverse.takeWhile (· == '\n')).length, String.toList_inj.mp ?_⟩
      rw [String.toList_append, trimNewlines, String.toList_ofList, String.toList_ofList,
        ← List.reverse_replicate, ← hnewlines, ← List.reverse_append, hsplit, List.reverse_reverse]
    · rw [trimNewlines, String.toList_ofList, List.getLast?_reverse]
      intro hhead
      have hfirst := List.head?_dropWhile_not (· == '\n') text.toList.reverse
      rw [hhead] at hfirst
      exact absurd hfirst (by simp)
  · rintro ⟨⟨count, rfl⟩, hlast⟩
    -- read from the end, the newlines are dropped, and what comes next is none
    have hhead : trimmed.toList.reverse.dropWhile (· == '\n') = trimmed.toList.reverse := by
      rw [← List.head?_reverse] at hlast
      cases hreverse : trimmed.toList.reverse with
      | nil => rfl
      | cons c rest =>
          rw [hreverse] at hlast
          exact List.dropWhile_cons_of_neg (by simpa using hlast)
    have hnewlines : ∀ c ∈ List.replicate count '\n', (c == '\n') = true :=
      fun c hc => beq_iff_eq.mpr (List.eq_of_mem_replicate hc)
    rw [trimNewlines, String.toList_append, String.toList_ofList, List.reverse_append,
      List.reverse_replicate, List.dropWhile_append_of_pos hnewlines, hhead,
      List.reverse_reverse, String.ofList_toList]

/-- Where the newlines at the end stop, what stands in front does not matter. -/
theorem trimNewlines_append {head : String} (hhead : trimNewlines head = head) (rest : String) :
    trimNewlines (head ++ rest) = head ++ trimNewlines rest := by
  have hkept : head.toList.reverse.dropWhile (· == '\n') = head.toList.reverse := by
    have hlist := congrArg (fun text => text.toList.reverse) hhead
    simpa [trimNewlines] using hlist
  unfold trimNewlines
  rw [String.toList_append, List.reverse_append, List.dropWhile_append, hkept]
  split
  · next hempty =>
      rw [List.isEmpty_iff.mp hempty]
      simp
  · simp [String.ofList_append]

theorem trimNewlines_tag (level : Level) : trimNewlines level.tag = level.tag := by
  cases level <;> decide

theorem trimNewlines_newline (text : String) :
    trimNewlines (text ++ "\n") = trimNewlines text := by
  simp [trimNewlines]

/-- The newline behind a message is cut away with all the rest if there is a U+0000, and
is taken off by the host if there is none. -/
theorem trimNewlines_headOf_newline (message : String) :
    trimNewlines (Guest.headOf (message ++ "\n")) = trimNewlines (Guest.headOf message) := by
  by_cases hzero : '\x00' ∈ message.toList
  · rw [Guest.headOf_append_of_mem hzero]
  · have hwhole : Guest.headOf message = message := by
      have happend := Guest.headOf_append hzero ""
      simpa [Guest.headOf] using happend
    rw [Guest.headOf_append hzero, hwhole]
    exact trimNewlines_newline message

/-- A text that starts with a tag is traced at the tag's level. -/
theorem eventOf_tag_append (level : Level) (rest : String) :
    eventOf (level.tag ++ rest) = (level, trimNewlines rest) := by
  rw [eventOf, trimNewlines_append (trimNewlines_tag level), Level.parseLine_tag_append]
  rfl

end HostState

/-! ## The host's answer -/

/-- Only a memory is found, and only under its name. -/
theorem HostState.exportedMemory_eq_some_iff {exports : List (String × Extern)}
    {memory found : LinearMemory} : exportedMemory exports memory = some found ↔
      exports.lookup "memory" = some .memory ∧ found = memory := by
  unfold exportedMemory
  split
  · next hlookup => simp [hlookup, eq_comm]
  · next hother =>
      constructor
      · nofun
      · rintro ⟨hlookup, -⟩
        exact absurd hlookup hother

section Answers

variable {memory : LinearMemory} {pointer : Int32} {start : Nat} {bytes : Bytes}
  {state : HostState} {level : Level} {text message : String}

/-- A C string is recorded as far as the cap reaches, and traced once. -/
theorem HostState.print_of_holds (hpointer : Word.toCount? pointer = some start)
    (hzero : bytes.firstNul? = none) (hholds : memory.Holds start (bytes ++ [0]))
    (htext : Utf8.decodeLossy (bytes.take state.maxLogLength) = text)
    (hevent : eventOf text = (level, message)) :
    state.print (some memory) pointer = (Word.clamp (bytes.take state.maxLogLength).length,
      { state with
        output := state.output ++ [text]
        events := state.events ++ [⟨level, guestTarget, message⟩] }) := by
  have hread : memory.readCString pointer state.maxLogLength =
      .ok (bytes.take state.maxLogLength) :=
    LinearMemory.readCString_eq_ok_iff.mpr ⟨start, bytes, hpointer, hzero, hholds, rfl⟩
  simp only [print, hread, htext, hevent, trace]

/-- Whatever a C string is traced as, it is recorded and counted as far as the cap reaches,
and nothing else is recorded. -/
theorem HostState.print_records (state : HostState) (hpointer : Word.toCount? pointer = some start)
    (hzero : bytes.firstNul? = none) (hholds : memory.Holds start (bytes ++ [0])) :
    ∃ events, state.print (some memory) pointer =
      (Word.clamp (bytes.take state.maxLogLength).length,
        { state with
          output := state.output ++ [Utf8.decodeLossy (bytes.take state.maxLogLength)]
          events }) :=
  ⟨_, print_of_holds hpointer hzero hholds rfl (Prod.eta _).symm⟩

/-- A line that is not cut is recorded as it is, and traced without its newlines. -/
theorem HostState.print_line_whole (hpointer : Word.toCount? pointer = some start)
    (hholds : memory.Holds start (Guest.logLine level message ++ [0]))
    (hcap : (Guest.logLine level message).length ≤ state.maxLogLength) :
    state.print (some memory) pointer = (Word.clamp (Guest.logLine level message).length,
      { state with
        output := state.output ++ [Guest.headOf (level.tag ++ message ++ "\n")]
        events := state.events ++
          [⟨level, guestTarget, trimNewlines (Guest.headOf message)⟩] }) := by
  have hwhole : (Guest.logLine level message).take state.maxLogLength =
      Guest.logLine level message := List.take_of_length_le hcap
  have htext : Utf8.decodeLossy ((Guest.logLine level message).take state.maxLogLength) =
      Guest.headOf (level.tag ++ message ++ "\n") := by
    rw [hwhole]
    exact Utf8.decodeLossy_encode _
  have hevent : eventOf (Guest.headOf (level.tag ++ message ++ "\n")) =
      (level, trimNewlines (Guest.headOf message)) := by
    rw [Guest.headOf_line, eventOf_tag_append, trimNewlines_headOf_newline]
  have hprint := print_of_holds hpointer (Guest.firstNul?_logLine level message) hholds htext
    hevent
  rwa [hwhole] at hprint

/-- A line that is cut behind its tag is traced at its level too. -/
theorem HostState.print_line_cut (hpointer : Word.toCount? pointer = some start)
    (hholds : memory.Holds start (Guest.logLine level message ++ [0]))
    (hcap : (Utf8.encode level.tag).length ≤ state.maxLogLength) :
    ∃ cut, (state.print (some memory) pointer).2.events =
      state.events ++ [⟨level, guestTarget, cut⟩] := by
  have hline : Guest.logLine level message =
      Utf8.encode level.tag ++ Utf8.encode (Guest.headOf (message ++ "\n")) := by
    rw [Guest.logLine, Guest.headBytes, Guest.headOf_line, Utf8.encode_append]
  -- the cap may leave half of a character behind the tag, which is read as if it stood alone
  have htext : Utf8.decodeLossy ((Guest.logLine level message).take state.maxLogLength) =
      level.tag ++ Utf8.decodeLossy ((Utf8.encode (Guest.headOf (message ++ "\n"))).take
        (state.maxLogLength - (Utf8.encode level.tag).length)) := by
    rw [hline, List.take_append, List.take_of_length_le hcap, Utf8.decodeLossy_encode_append]
  have hprint := print_of_holds hpointer (Guest.firstNul?_logLine level message) hholds htext
    (eventOf_tag_append level _)
  exact ⟨_, by rw [hprint]⟩

end Answers

/-! ## The whole way -/

/-- A log line is printed by one call of the host.  Wherever it stands in a guest's memory
as a C string, the host that is given its pointer records that very line and traces the
message at its level, without the newlines at its end; and if the line is cut short behind
the tag, the level is still the same. -/
theorem log_reaches_host {σ : Type} {memory : LinearMemory} {pointer : Int32} {start : Nat}
    (level : Level) (message : String) (world : World σ) (machine : Machine σ)
    (state : HostState) (hpointer : Word.toCount? pointer = some start)
    (hholds : memory.Holds start (Guest.logLine level message ++ [0])) :
    Guest.log level message world machine =
      (.ok (world.host.print (Guest.logLine level message) machine.host).1,
        machine.say world.host (Guest.logLine level message)) ∧
    ((Guest.logLine level message).length ≤ state.maxLogLength →
      (Guest.logLine level message).length < 2 ^ 31 →
      ∃ (answer : Int32) (line trimmed : String) (count : Nat),
        answer.toInt = (Guest.logLine level message).length ∧
        Utf8.encode line = Guest.logLine level message ∧
        Guest.headOf message = trimmed ++ String.ofList (List.replicate count '\n') ∧
        trimmed.toList.getLast? ≠ some '\n' ∧
        state.print (some memory) pointer = (answer,
          { state with
            output := state.output ++ [line]
            events := state.events ++ [⟨level, HostState.guestTarget, trimmed⟩] })) ∧
    ((Utf8.encode level.tag).length ≤ state.maxLogLength →
      ∃ cut, (state.print (some memory) pointer).2.events =
        state.events ++ [⟨level, HostState.guestTarget, cut⟩]) := by
  refine ⟨Guest.log_run level message, fun hcap hsmall => ?_,
    HostState.print_line_cut hpointer hholds⟩
  obtain ⟨⟨count, hhead⟩, hlast⟩ := HostState.trimNewlines_eq_iff.mp rfl
  exact ⟨_, _, _, count, Word.toInt_clamp hsmall, rfl, hhead, hlast,
    HostState.print_line_whole hpointer hholds hcap⟩

/-- A warning with a bracket in it, once as a whole and once cut within its `é`. -/
theorem warning_reaches_host :
    let line := Guest.logLine .warn "é] x\n\n"
    let memory := (LinearMemory.zeros 1).overwrite 8 (line ++ [0])
    let whole : HostState := { maxLogLength := 15, bufferStatus := 0 }
    let short : HostState := { maxLogLength := 8, bufferStatus := 0 }
    line.length = 15 ∧ memory.Holds 8 (line ++ [0]) ∧
      (whole.print (some memory) 8).2.output = ["[WARN] é] x\n\n\n"] ∧
      (whole.print (some memory) 8).2.events = [⟨.warn, "wasm_guest", "é] x"⟩] ∧
      ∃ cut, (short.print (some memory) 8).2.events = [⟨.warn, "wasm_guest", cut⟩] := by
  intro line memory whole short
  let world : World Recording :=
    ⟨SystemAllocator.refusing none, Recording.host 1 0, Recording.rounds 1⟩
  let machine : Machine Recording := .start Heap.empty {}
  have hlength : line.length = 15 := by decide +kernel
  have hholds : memory.Holds 8 (line ++ [0]) := by decide +kernel
  have hpointer : Word.toCount? 8 = some 8 := by decide
  obtain ⟨-, hwhole, -⟩ :=
    log_reaches_host .warn "é] x\n\n" world machine whole hpointer hholds
  obtain ⟨-, -, hshort⟩ :=
    log_reaches_host .warn "é] x\n\n" world machine short hpointer hholds
  obtain ⟨answer, text, trimmed, count, -, htext, hhead, hlast, hprint⟩ :=
    hwhole (by decide +kernel) (by decide +kernel)
  obtain ⟨cut, hcut⟩ := hshort (by decide +kernel)
  -- the line and the message are the only ones of which the statement can hold
  have hline : text = "[WARN] é] x\n\n\n" := by
    rw [← Utf8.decodeLossy_encode text, htext]
    decide +kernel
  have hmessage : trimmed = "é] x" := by
    rw [← HostState.trimNewlines_eq_iff.mpr ⟨⟨count, hhead⟩, hlast⟩]
    decide +kernel
  rw [hmessage] at hprint
  exact ⟨hlength, hholds, by rw [hprint, hline]; rfl, by rw [hprint]; rfl, cut, hcut⟩

end GuestHost
