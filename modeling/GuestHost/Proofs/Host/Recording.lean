import GuestHost.Guest.Recording
import GuestHost.Proofs.Host.Print
import GuestHost.Proofs.Text.Pieces

/-!
# Two hosts that print

Guest code is tried out against a host that only records.  Of a C string that is not cut, it
records the same text as the host of an instance does.  The numbers that the two answer need not
be the same, though: the instance's host counts the bytes that it was given, the recording one
those of the text that it has made of them.

* `Recording.host_print`: what the recording host does with a C string.
* `Recording.count_eq_iff`: its number is that of the bytes exactly if every ill-formed part of
  them is as long as the replacement character that stands for it, or if there are as many bytes
  as can be counted.
* `hosts_record_alike`: the two hosts side by side, for any bytes.
* `hosts_count_otherwise`: a byte for which the numbers differ.
-/

namespace GuestHost

variable {bytes : Bytes} {memory : LinearMemory} {pointer : Int32} {start : Nat}

theorem Utf8.utf8ByteSize_eq_length_encode (text : String) :
    text.utf8ByteSize = (encode text).length := by
  have hbytes : text.toByteArray = (encode text).toByteArray := by
    have hchars := String.toByteArray_ofList (l := text.toList)
    rwa [String.ofList_toList] at hchars
  rw [← String.size_toByteArray, hbytes, List.size_toByteArray]

theorem Recording.host_print (clockStep : Int64) (bufferStatus : Int32) (bytes : Bytes)
    (recording : Recording) :
    (host clockStep bufferStatus).print bytes recording =
      (Word.clamp (Utf8.encode (Utf8.decodeLossy bytes)).length,
        { recording with prints := recording.prints ++ [Utf8.decodeLossy bytes] }) := by
  rw [← Utf8.utf8ByteSize_eq_length_encode]
  rfl

/-- The text that is made of some bytes counts as many as they are exactly if nothing that was
replaced has another length than the replacement, or if the count is at its limit anyway. -/
theorem Recording.count_eq_iff {parts : List (Utf8.Piece × Bytes)}
    (hparts : Utf8.Parts bytes parts) (hsmall : bytes.length < 2 ^ 31) :
    Word.clamp (Utf8.encode (Utf8.decodeLossy bytes)).length = Word.clamp bytes.length ↔
      (∀ part ∈ parts, part.1 = none → part.2.length = 3) ∨ bytes.length = 2 ^ 31 - 1 := by
  have hgap := Utf8.length_encode_decodeLossy hparts
  rw [← Utf8.length_encode_decodeLossy_eq_iff hparts, ← Int32.toInt_inj, Word.toInt_clamp hsmall,
    Word.toInt_clamp_eq]
  omega

/-- Both hosts record the same text of a C string, and the instance's host answers the number of
its bytes.  So does the recording one for every text; for other bytes it answers no less, and the
same exactly if every ill-formed part of them has three bytes, or if there are as many bytes as
can be counted. -/
theorem hosts_record_alike (clockStep : Int64) (bufferStatus : Int32) (recording : Recording)
    (state : HostState) (hpointer : Word.toCount? pointer = some start)
    (hzero : bytes.firstNul? = none) (hholds : memory.Holds start (bytes ++ [0]))
    (hsmall : bytes.length < 2 ^ 31) (hcap : bytes.length ≤ state.maxLogLength) :
    let recorded := (Recording.host clockStep bufferStatus).print bytes recording
    let printed := state.print (some memory) pointer
    ∃ text, recorded.2 = { recording with prints := recording.prints ++ [text] } ∧
      printed.2.output = state.output ++ [text] ∧ printed.1.toInt = bytes.length ∧
      bytes.length ≤ recorded.1.toInt ∧
      ((Utf8.decode? bytes).isSome → recorded.1 = printed.1) ∧
      ∃ parts, Utf8.Parts bytes parts ∧
        (recorded.1 = printed.1 ↔ (∀ part ∈ parts, part.1 = none → part.2.length = 3) ∨
          bytes.length = 2 ^ 31 - 1) := by
  intro recorded printed
  have hrecorded : recorded = _ :=
    Recording.host_print clockStep bufferStatus bytes recording
  obtain ⟨events, hprint⟩ := state.print_records hpointer hzero hholds
  have hprinted : printed = _ := hprint
  rw [List.take_of_length_le hcap] at hprinted
  obtain ⟨parts, hparts⟩ := Utf8.exists_parts bytes
  have hsame : recorded.1 = printed.1 ↔
      (∀ part ∈ parts, part.1 = none → part.2.length = 3) ∨ bytes.length = 2 ^ 31 - 1 := by
    simp only [hrecorded, hprinted]
    exact Recording.count_eq_iff hparts hsmall
  refine ⟨Utf8.decodeLossy bytes, by rw [hrecorded], by rw [hprinted], ?_, ?_, ?_, parts, hparts,
    hsame⟩
  · rw [hprinted, Word.toInt_clamp hsmall]
  · have hgap := Utf8.length_encode_decodeLossy hparts
    rw [hrecorded, Word.toInt_clamp_eq]
    omega
  · intro hdecoded
    obtain ⟨whole, hwhole⟩ := Option.isSome_iff_exists.mp hdecoded
    obtain rfl := Utf8.decode?_eq_some_iff.mp hwhole
    -- what is decoded here is what has been encoded, so nothing has been replaced
    refine hsame.mpr (.inl ((Utf8.length_encode_decodeLossy_eq_iff hparts).mp ?_))
    rw [Utf8.decodeLossy_encode]

/-- A text of two characters is three bytes for both hosts. -/
theorem hosts_count_a_text_alike :
    let bytes := Utf8.encode "hé"
    let memory := (LinearMemory.zeros 1).overwrite 16 (bytes ++ [0])
    let state : HostState := { maxLogLength := 4096, bufferStatus := 0 }
    let printed := state.print (some memory) 16
    ((Recording.host 1 0).print bytes {}).1 = printed.1 ∧ printed.1 = 3 := by
  intro bytes memory state printed
  have hzero : bytes.firstNul? = none := by decide +kernel
  have hholds : memory.Holds 16 (bytes ++ [0]) := by decide +kernel
  have hpointer : Word.toCount? 16 = some 16 := by decide
  obtain ⟨text, -, -, hanswer, -, hsame, -⟩ := hosts_record_alike 1 0 {} state hpointer hzero
    hholds (by decide +kernel) (by decide +kernel)
  refine ⟨hsame (by decide +kernel), Int32.toInt_inj.mp ?_⟩
  rw [hanswer]
  decide +kernel

/-- A byte that is no text is recorded as U+FFFD by both hosts; but it is one byte for the one and
three for the other. -/
theorem hosts_count_otherwise :
    let memory := (LinearMemory.zeros 1).overwrite 16 [0xFF, 0]
    let state : HostState := { maxLogLength := 4096, bufferStatus := 0 }
    let recorded := (Recording.host 1 0).print [0xFF] {}
    let printed := state.print (some memory) 16
    memory.Holds 16 ([0xFF] ++ [0]) ∧
      recorded.2.prints = ["\uFFFD"] ∧ printed.2.output = ["\uFFFD"] ∧
      recorded.1 = 3 ∧ printed.1 = 1 := by
  decide +kernel

end GuestHost
