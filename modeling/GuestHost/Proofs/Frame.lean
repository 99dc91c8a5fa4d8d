import GuestHost.Proofs.Word

/-!
# Frames and their headers

A header is written for a count and read as that count again, so the two functions are
inverse to each other (`decodeHeader_eq_ok_iff`), and the payload of a buffer is what stands
behind a header for its length (`payload_eq_ok_iff`).  Whatever follows the payload does not
matter.

Every buffer that is not too short for a header starts with a word, and that word alone
decides what becomes of the buffer (`payload_of_word`).  So there are three ways to fail,
which `Unreadable` lists with their errors, and no buffer is in two of them
(`payload_eq_error_iff`).
-/

namespace GuestHost.Frame

variable {head buffer payload : Bytes} {count : Nat}

theorem header_eq_ok_iff : header count = .ok head ↔
    ∃ word, Word.toCount? word = some count ∧ head = Word.toBytes word.toUInt32 := by
  constructor
  · intro hheader
    unfold header at hheader
    split at hheader
    · next word hword =>
        exact ⟨word, Word.toCount?_of_ofCount? hword, (Except.ok.inj hheader).symm⟩
    · cases hheader
  · rintro ⟨word, hcount, rfl⟩
    exact header_of_toCount? hcount

theorem length_header (hheader : header count = .ok head) : head.length = headerSize := by
  obtain ⟨word, -, rfl⟩ := header_eq_ok_iff.mp hheader
  rfl

/-- A header is read as the count that it is written for, and as no other. -/
theorem decodeHeader_eq_ok_iff : decodeHeader head = .ok count ↔ header count = .ok head := by
  rw [header_eq_ok_iff]
  constructor
  · intro hdecode
    unfold decodeHeader at hdecode
    split at hdecode
    · next b₀ b₁ b₂ b₃ =>
        dsimp only at hdecode
        split at hdecode
        · next length hlength =>
          obtain rfl := Except.ok.inj hdecode
          -- the four bytes are those of the word that they stand for
          refine ⟨_, hlength, ?_⟩
          rw [UInt32.toUInt32_toInt32, Word.toBytes_ofBytes]
        · cases hdecode
    · cases hdecode
  · rintro ⟨word, hcount, rfl⟩
    have hword : Word.ofBytes _ _ _ _ = word.toUInt32 :=
      Option.some.inj (Word.first?_toBytes word.toUInt32 [])
    simp only [Word.toBytes, decodeHeader, hword, Int32.toInt32_toUInt32, hcount]

/-- The payload is taken out of every buffer that starts with its frame, and out of no
other buffer. -/
theorem payload_eq_ok_iff : Frame.payload buffer = .ok payload ↔
    ∃ head, header payload.length = .ok head ∧ head ++ payload <+: buffer := by
  constructor
  · intro hpayload
    unfold Frame.payload at hpayload
    split at hpayload
    · cases hpayload
    · next hlong =>
        cases hdecode : decodeHeader (buffer.take headerSize) with
        | error error => simp [hdecode] at hpayload
        | ok length =>
            simp only [hdecode] at hpayload
            split at hpayload
            · cases hpayload
            · next hwhole =>
                obtain rfl := Except.ok.inj hpayload
                -- there are as many bytes behind the header as it announces
                have hlength : ((buffer.drop headerSize).take length).length = length := by
                  rw [List.length_take, List.length_drop]
                  omega
                refine ⟨buffer.take headerSize, ?_, ?_⟩
                · rw [hlength]
                  exact decodeHeader_eq_ok_iff.mp hdecode
                · rw [← List.take_add]
                  exact List.take_prefix _ _
  · rintro ⟨head, hheader, rest, rfl⟩
    have hlength := length_header hheader
    have hdecode := decodeHeader_eq_ok_iff.mpr hheader
    have hfirst : (head ++ payload ++ rest).take headerSize = head := by
      rw [List.append_assoc, List.take_left' hlength]
    have hbehind : ((head ++ payload ++ rest).drop headerSize).take payload.length = payload := by
      rw [List.append_assoc, List.drop_left' hlength, List.take_left' rfl]
    have htotal : (head ++ payload ++ rest).length = headerSize + payload.length + rest.length := by
      rw [List.length_append, List.length_append, hlength]
    unfold Frame.payload
    rw [if_neg (by omega), hfirst, hdecode]
    dsimp only
    rw [if_neg (by omega), hbehind]

/-! ## What cannot be written and what cannot be read -/

variable {error : FrameError} {word : Int32}

/-- There is a header for every count up to the largest word, and for no other. -/
theorem header_eq_error_iff : header count = .error error ↔
    Int32.maxValue.toInt < count ∧ error = .payloadTooLarge count := by
  have hmax : Int32.maxValue.toInt = 2 ^ 31 - 1 := rfl
  unfold header Word.ofCount?
  by_cases hsmall : count < 2 ^ 31
  · rw [if_pos hsmall]
    constructor
    · nofun
    · rintro ⟨hlarge, -⟩
      omega
  · rw [if_neg hsmall]
    constructor
    · rintro ⟨⟩
      exact ⟨by omega, rfl⟩
    · rintro ⟨-, rfl⟩
      rfl

theorem decodeHeader_toBytes (word : Int32) : decodeHeader (Word.toBytes word.toUInt32) =
    match Word.toCount? word with
    | some count => .ok count
    | none => .error (.negativeLength word) := by
  have hword : Word.ofBytes _ _ _ _ = word.toUInt32 :=
    Option.some.inj (Word.first?_toBytes word.toUInt32 [])
  cases hcount : Word.toCount? word <;>
    simp only [Word.toBytes, decodeHeader, hword, Int32.toInt32_toUInt32, hcount]

/-- A sum with the size of a header stays far within the words that memory is counted with. -/
theorem headerSize_add_lt (hdecode : decodeHeader head = .ok count) :
    headerSize + count < 2 ^ 32 := by
  obtain ⟨word, hcount, -⟩ := header_eq_ok_iff.mp (decodeHeader_eq_ok_iff.mp hdecode)
  have hvalue := Word.toCount?_eq_some_iff.mp hcount
  have hlt := word.toInt_lt
  have hsize : headerSize = 4 := rfl
  omega

theorem exists_word (hlong : headerSize ≤ buffer.length) :
    ∃ word : Int32, Word.toBytes word.toUInt32 <+: buffer := by
  have hlength : (buffer.take headerSize).length = 4 := by
    rw [List.length_take]
    exact Nat.min_eq_left hlong
  obtain ⟨word, hword⟩ := Word.exists_of_length hlength
  refine ⟨word.toInt32, ?_⟩
  rw [UInt32.toUInt32_toInt32, ← hword]
  exact List.take_prefix _ _

/-- What becomes of a buffer is decided by the word that it starts with, and by its length. -/
theorem payload_of_word (hhead : Word.toBytes word.toUInt32 <+: buffer) :
    Frame.payload buffer =
      match Word.toCount? word with
      | none => .error (.negativeLength word)
      | some count =>
        if buffer.length < headerSize + count then
          .error (.truncated (headerSize + count) buffer.length)
        else .ok ((buffer.drop headerSize).take count) := by
  have hsize : (Word.toBytes word.toUInt32).length = headerSize := Word.length_toBytes _
  have hlong := hhead.length_le
  have hfirst : buffer.take headerSize = Word.toBytes word.toUInt32 := by
    rw [← hsize]
    exact (List.prefix_iff_eq_take.mp hhead).symm
  unfold Frame.payload
  rw [if_neg (by omega), hfirst, decodeHeader_toBytes]
  cases Word.toCount? word <;> rfl

/-- Why a buffer has no payload: it ends before a header does, it starts with a negative
length, or it ends before the payload does that its header announces. -/
inductive Unreadable (buffer : Bytes) : FrameError → Prop
  | short (hshort : buffer.length < headerSize) :
      Unreadable buffer (.truncated headerSize buffer.length)
  | negative {word : Int32} (hhead : Word.toBytes word.toUInt32 <+: buffer)
      (hnegative : word.toInt < 0) : Unreadable buffer (.negativeLength word)
  | cut {count : Nat} {head : Bytes} (hheader : header count = .ok head)
      (hhead : head <+: buffer) (hcut : buffer.length < headerSize + count) :
      Unreadable buffer (.truncated (headerSize + count) buffer.length)

/-- There are three ways to fail, and each has its own error. -/
theorem payload_eq_error_iff : Frame.payload buffer = .error error ↔ Unreadable buffer error := by
  constructor
  · intro hpayload
    by_cases hshort : buffer.length < headerSize
    · rw [Frame.payload, if_pos hshort] at hpayload
      rw [← Except.error.inj hpayload]
      exact .short hshort
    · -- the buffer starts with a word, which decides the other two ways
      obtain ⟨word, hhead⟩ := exists_word (Nat.le_of_not_lt hshort)
      rw [payload_of_word hhead] at hpayload
      split at hpayload
      · next hnone =>
          rw [← Except.error.inj hpayload]
          exact .negative hhead (Word.toCount?_eq_none_iff.mp hnone)
      · next count hcount =>
          split at hpayload
          · next hcut =>
              rw [← Except.error.inj hpayload]
              exact .cut (header_of_toCount? hcount) hhead hcut
          · cases hpayload
  · intro hunreadable
    cases hunreadable with
    | short hshort => rw [Frame.payload, if_pos hshort]
    | negative hhead hnegative =>
        rw [payload_of_word hhead, Word.toCount?_eq_none_iff.mpr hnegative]
    | cut hheader hhead hcut =>
        obtain ⟨word, hcount, rfl⟩ := header_eq_ok_iff.mp hheader
        rw [payload_of_word hhead, hcount]
        exact if_pos hcut

/-! ## The format -/

/-- A buffer has a payload exactly if it starts with the payload's frame, and otherwise one of
three errors.  Headers are written for the counts of signed words, and read as these. -/
theorem frames_are_the_format :
    (∀ buffer payload : Bytes, Frame.payload buffer = .ok payload ↔
      payload.length ≤ Int32.maxValue.toInt ∧
        ∃ head rest, header payload.length = .ok head ∧ buffer = head ++ payload ++ rest) ∧
    (∀ buffer error, Frame.payload buffer = .error error ↔ Unreadable buffer error) ∧
    (∀ head count, decodeHeader head = .ok count → headerSize + count < 2 ^ 32) ∧
    (∀ count error, header count = .error error ↔
      Int32.maxValue.toInt < count ∧ error = .payloadTooLarge count) ∧
    ∀ head count, decodeHeader head = .ok count ↔ header count = .ok head := by
  refine ⟨fun buffer payload => ?_, fun _ _ => payload_eq_error_iff,
    fun _ _ => headerSize_add_lt, fun _ _ => header_eq_error_iff,
    fun _ _ => decodeHeader_eq_ok_iff⟩
  rw [payload_eq_ok_iff]
  constructor
  · rintro ⟨head, hheader, rest, hbuffer⟩
    obtain ⟨word, hcount, -⟩ := header_eq_ok_iff.mp hheader
    have hlength : word.toInt = payload.length := Word.toCount?_eq_some_iff.mp hcount
    have hle : word.toInt ≤ Int32.maxValue.toInt := Int32.toInt_le word
    exact ⟨hlength ▸ hle, head, rest, hheader, hbuffer.symm⟩
  · rintro ⟨-, head, rest, hheader, hbuffer⟩
    exact ⟨head, hheader, rest, hbuffer.symm⟩

/-- A frame with a byte too many, one with five bytes too few, and a negative length. -/
theorem frames_of_three_buffers :
    Frame.payload [3, 0, 0, 0, 1, 2, 3, 0xff] = .ok [1, 2, 3] ∧
      Frame.payload [8, 0, 0, 0, 0x61, 0x62, 0x63] = .error (.truncated 12 7) ∧
      Frame.payload [0xff, 0xff, 0xff, 0xff] = .error (.negativeLength (-1)) ∧
      headerSize + 8 < 2 ^ 32 := by
  obtain ⟨hreads, hfails, hsum, -, -⟩ := frames_are_the_format
  refine ⟨(hreads _ _).mpr ⟨by decide, [3, 0, 0, 0], [0xff], rfl, rfl⟩, ?_, ?_,
    hsum [8, 0, 0, 0] 8 rfl⟩
  · apply (hfails _ _).mpr
    exact .cut (show header 8 = .ok [8, 0, 0, 0] from rfl) ⟨_, rfl⟩ (by decide)
  · apply (hfails _ _).mpr
    exact @Unreadable.negative _ (-1) List.prefix_rfl (by decide)

end GuestHost.Frame
