import GuestHost.Proofs.Guest.Machine
import GuestHost.Proofs.Text.Utf8
import GuestHost.Sample.Message

/-!
# What printing does to a machine

A text is cut at its first U+0000, and the rest of it has no zero byte.  So a text
is always printed, by one call of the host (`Guest.printText_run`); the branch that answers -1
is never taken.  This holds of log lines (`Guest.log_run`) and of reports (`Sample.report_run`)
too, which are texts.

A text without U+0000 is printed as it is.  Numbers are such texts, and so are the texts of
all errors (`GuestError.zero_notMem_message`), so a report is printed in full
(`Sample.errorLine_eq`).
-/

namespace GuestHost

variable {σ : Type} {world : World σ} {machine : Machine σ}

namespace Guest

theorem zero_notMem_headOf (text : String) : '\x00' ∉ (headOf text).toList := by
  intro hmem
  rw [headOf, String.toList_ofList] at hmem
  have hkept := List.all_takeWhile (p := (· != '\x00')) (l := text.toList)
  rw [List.all_eq_true] at hkept
  exact absurd (hkept _ hmem) (by decide)

theorem ne_zero_of_notMem {chars : List Char} (hchars : '\x00' ∉ chars) :
    ∀ c ∈ chars, (c != '\x00') = true := by
  intro c hc
  rw [bne_iff_ne]
  rintro rfl
  exact hchars hc

theorem headOf_append {head : String} (hhead : '\x00' ∉ head.toList) (rest : String) :
    headOf (head ++ rest) = head ++ headOf rest := by
  unfold headOf
  rw [String.toList_append, List.takeWhile_append_of_pos (ne_zero_of_notMem hhead),
    String.ofList_append, String.ofList_toList]

/-- There is nothing to be cut off. -/
theorem headOf_of_notMem {text : String} (htext : '\x00' ∉ text.toList) : headOf text = text :=
  calc headOf text
      = headOf (text ++ "") := by rw [String.append_empty]
    _ = text ++ headOf "" := headOf_append htext ""
    _ = text ++ "" := rfl
    _ = text := String.append_empty

/-- Behind a U+0000 nothing matters any more. -/
theorem headOf_append_of_mem {head : String} (hzero : '\x00' ∈ head.toList) (rest : String) :
    headOf (head ++ rest) = headOf head := by
  obtain ⟨front, behind, hhead, hfront⟩ := List.eq_append_cons_of_mem hzero
  have hstops : ∀ tail : List Char,
      (front ++ '\x00' :: tail).takeWhile (· != '\x00') = front := by
    intro tail
    rw [List.takeWhile_append_of_pos (ne_zero_of_notMem hfront),
      List.takeWhile_cons_of_neg (by decide), List.append_nil]
  unfold headOf
  rw [String.toList_append, hhead, List.append_assoc, List.cons_append, hstops, hstops]

/-- The bytes of a text as they are printed. -/
def headBytes (text : String) : Bytes :=
  Utf8.encode (headOf text)

theorem printText_run (text : String) :
    printText text world machine =
      (.ok (world.host.print (headBytes text) machine.host).1,
        machine.say world.host (headBytes text)) := by
  have hzero := Utf8.firstNul?_encode (zero_notMem_headOf text)
  simp only [printText, hzero]
  exact print_run _

/-- The bytes of a log line, as they are printed. -/
def logLine (level : Level) (message : String) : Bytes :=
  headBytes (level.tag ++ message ++ "\n")

theorem firstNul?_logLine (level : Level) (message : String) :
    (logLine level message).firstNul? = none :=
  Utf8.firstNul?_encode (zero_notMem_headOf _)

theorem zero_notMem_tag (level : Level) : '\x00' ∉ level.tag.toList := by
  cases level <;> decide

/-- The line that is handed over: the tag, and the message up to its first U+0000. -/
theorem headOf_line (level : Level) (message : String) :
    headOf (level.tag ++ message ++ "\n") = level.tag ++ headOf (message ++ "\n") := by
  rw [String.append_assoc, headOf_append (zero_notMem_tag level)]

/-- A message without U+0000 is logged in full. -/
theorem logLine_of_notMem (level : Level) {message : String} (hmessage : '\x00' ∉ message.toList) :
    logLine level message = Utf8.encode (level.tag ++ message ++ "\n") := by
  rw [logLine, headBytes, headOf_line, headOf_append hmessage, headOf_of_notMem (by decide),
    String.append_assoc]

theorem log_run (level : Level) (message : String) :
    log level message world machine =
      (.ok (world.host.print (logLine level message) machine.host).1,
        machine.say world.host (logLine level message)) :=
  printText_run _

end Guest

/-! ## Texts without U+0000 -/

theorem zero_notMem_append {first second : String} (hfirst : '\x00' ∉ first.toList)
    (hsecond : '\x00' ∉ second.toList) : '\x00' ∉ (first ++ second).toList := by
  rw [String.toList_append, List.mem_append, not_or]
  exact ⟨hfirst, hsecond⟩

theorem zero_notMem_natText (n : Nat) : '\x00' ∉ (toString n).toList := by
  have htext : (toString n).toList = Nat.toDigits 10 n := Nat.toList_repr
  intro hmem
  rw [htext] at hmem
  exact absurd (Nat.isDigit_of_mem_toDigits (by decide) (by decide) hmem) (by decide)

theorem zero_notMem_intText (n : Int) : '\x00' ∉ (toString n).toList := by
  cases n with
  | ofNat n => exact zero_notMem_natText n
  | negSucc n =>
      have hsign : '\x00' ∉ "-".toList := by decide
      exact zero_notMem_append hsign (zero_notMem_natText (n + 1))

theorem FrameError.zero_notMem_message (error : FrameError) : '\x00' ∉ error.message.toList := by
  cases error with
  | payloadTooLarge size =>
      refine zero_notMem_append (zero_notMem_append ?_ (zero_notMem_natText size)) ?_ <;>
        decide +kernel
  | negativeLength length =>
      refine zero_notMem_append ?_ (zero_notMem_intText length.toInt)
      decide +kernel
  | truncated needed actual =>
      refine zero_notMem_append (zero_notMem_append (zero_notMem_append ?_
        (zero_notMem_natText needed)) ?_) (zero_notMem_natText actual) <;>
        decide +kernel

/-- The texts of errors are put together from fixed words and from numbers. -/
theorem GuestError.zero_notMem_message (error : GuestError) : '\x00' ∉ error.message.toList := by
  cases error with
  | allocationFailed size =>
      refine zero_notMem_append (zero_notMem_append ?_ (zero_notMem_natText size)) ?_ <;>
        decide +kernel
  | invalidLength length capacity =>
      refine zero_notMem_append (zero_notMem_append (zero_notMem_append ?_
        (zero_notMem_intText length.toInt)) ?_) (zero_notMem_natText capacity) <;>
        decide +kernel
  | missingTerminator capacity =>
      refine zero_notMem_append (zero_notMem_append ?_ (zero_notMem_natText capacity)) ?_ <;>
        decide +kernel
  | interiorNul position =>
      refine zero_notMem_append ?_ (zero_notMem_natText position)
      decide +kernel
  | nullPointer => decide +kernel
  | frame error => exact error.zero_notMem_message

/-- The line that reports an error on behalf of an export. -/
def Sample.errorLine (name : String) (error : GuestError) : Bytes :=
  Guest.logLine .error (name ++ ": " ++ error.message)

/-- A report is printed in full. -/
theorem Sample.errorLine_eq {name : String} (hname : '\x00' ∉ name.toList) (error : GuestError) :
    errorLine name error =
      Utf8.encode ("[ERROR] " ++ (name ++ ": " ++ error.message) ++ "\n") :=
  Guest.logLine_of_notMem .error
    (zero_notMem_append (zero_notMem_append hname (by decide)) error.zero_notMem_message)

theorem Sample.report_run (name : String) (error : GuestError) :
    report name error world machine =
      (.ok (), machine.say world.host (errorLine name error)) := by
  rw [report, Attempt.bind_of_ok (Guest.log_run _ _)]
  rfl

end GuestHost
