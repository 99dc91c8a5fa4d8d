import GuestHost.Proofs.Bytes
import GuestHost.Proofs.Host.Recording

/-!
# The head of a text

A C string ends at its first zero byte, so of a text no more is printed than its head: what
stands in front of the first U+0000, or all of it.  The head is cut off among characters, while
a C string ends among bytes.  Both ends are the same (`untilNul_encode`), since U+0000 is the
only character that is written with a zero byte.  Hence a text can always be printed, and a host
that records what it is given has nothing to replace in it (`Recording.host_print_encode`).
-/

namespace GuestHost

namespace Guest

/-- A text is its head, or its head with a U+0000 and something else behind it. -/
theorem eq_headOf_or_append (text : String) :
    text = headOf text ∨ ∃ rest, text = headOf text ++ "\x00" ++ rest := by
  by_cases hzero : '\x00' ∈ text.toList
  · right
    obtain ⟨front, behind, htext, hfront⟩ := List.eq_append_cons_of_mem hzero
    have hhead : headOf text = String.ofList front := by
      rw [headOf, htext, List.takeWhile_append_of_pos (ne_zero_of_notMem hfront),
        List.takeWhile_cons_of_neg (by decide), List.append_nil]
    refine ⟨String.ofList behind, ?_⟩
    apply String.toList_inj.mp
    rw [hhead, htext]
    simp
  · exact .inl (headOf_of_notMem hzero).symm

/-- The bytes of the head are those in front of the first zero byte. -/
theorem untilNul_encode (text : String) :
    (Utf8.encode text).untilNul = Utf8.encode (headOf text) := by
  have hnone := Utf8.firstNul?_encode (zero_notMem_headOf text)
  rcases eq_headOf_or_append text with hwhole | ⟨rest, htext⟩
  · have hkept := Bytes.untilNul_append hnone []
    rw [List.append_nil, ← hwhole] at hkept
    rw [hkept, ← hwhole]
    exact List.append_nil _
  · have hbytes : Utf8.encode text = Utf8.encode (headOf text) ++ 0 :: Utf8.encode rest :=
      calc Utf8.encode text
          = Utf8.encode (headOf text ++ "\x00" ++ rest) := congrArg Utf8.encode htext
        _ = Utf8.encode (headOf text) ++ (Utf8.encode "\x00" ++ Utf8.encode rest) := by
            rw [Utf8.encode_append, Utf8.encode_append, List.append_assoc]
        _ = Utf8.encode (headOf text) ++ 0 :: Utf8.encode rest := rfl
    rw [hbytes, Bytes.untilNul_append_zero hnone]

end Guest

/-- A recording host records a text that it is given as it is, and counts its bytes. -/
theorem Recording.host_print_encode (clockStep : Int64) (bufferStatus : Int32) (text : String)
    (recording : Recording) :
    (host clockStep bufferStatus).print (Utf8.encode text) recording =
      (Word.clamp (Utf8.encode text).length,
        { recording with prints := recording.prints ++ [text] }) := by
  rw [host_print, Utf8.decodeLossy_encode]

/-- Whatever the text and the host are, the host is called once, with the bytes of the text in
front of its first U+0000, and what it answers is the answer: those bytes have no zero byte
among them, for which there would be another.  A host that records writes down just this head
and answers the number of its bytes, as far as a word can. -/
theorem head_of_a_text_is_printed {σ : Type} (text : String) (world : World σ)
    (machine : Machine σ) (clockStep : Int64) (bufferStatus : Int32) (desk : World Recording)
    (recorder : Machine Recording) :
    ∃ head, '\x00' ∉ head.toList ∧ (text = head ∨ ∃ rest, text = head ++ "\x00" ++ rest) ∧
      Utf8.encode head = (Utf8.encode text).untilNul ∧ (Utf8.encode head).firstNul? = none ∧
      Guest.printText text world machine =
        (.ok (world.host.print (Utf8.encode head) machine.host).1,
          { machine with
            host := (world.host.print (Utf8.encode head) machine.host).2
            journal := .printed (Utf8.encode head) :: machine.journal }) ∧
      ∃ answer : Int32, answer.toInt = min (Utf8.encode head).length (2 ^ 31 - 1) ∧
        Guest.printText text { desk with host := Recording.host clockStep bufferStatus } recorder =
          (.ok answer,
            { recorder with
              host := { recorder.host with prints := recorder.host.prints ++ [head] }
              journal := .printed (Utf8.encode head) :: recorder.journal }) := by
  have hhead := Guest.zero_notMem_headOf text
  refine ⟨Guest.headOf text, hhead, Guest.eq_headOf_or_append text,
    (Guest.untilNul_encode text).symm, Utf8.firstNul?_encode hhead, Guest.printText_run text,
    _, Word.toInt_clamp_eq _, ?_⟩
  rw [Guest.printText_run, Machine.say, Guest.headBytes, Recording.host_print_encode]

end GuestHost
