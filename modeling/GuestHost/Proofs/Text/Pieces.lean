import GuestHost.Proofs.Text.Utf8

/-!
# Where the pieces come from

The reader takes any byte string apart without losing a byte: there are stretches side by
side, one for each piece, such that a character stands for the bytes it is written in and an
ill-formed part for one to three bytes (`exists_parts`).  Two things follow.

* Bytes are a text's if and only if they are the ones that the text is written in
  (`decode?_eq_some_iff`).
* A replacement character is never shorter than what it stands for, so a text that was read
  with replacements has at least as many bytes as it was read from
  (`length_encode_decodeLossy`), and just as many only if every ill-formed part was three
  bytes long (`length_encode_decodeLossy_eq_iff`).

The invariant is `Awaits`: what a reader inside of a character has been fed so far can be
completed, and whatever completes it, the character it makes is written in just these bytes.
It says of the cut-off beginning of a character too that it is a single ill-formed part
(`pieces_take_utf8EncodeChar`), so that a text which is cut after some bytes keeps the
characters that fit, and one at most is replaced (`CutAt.decodeLossy_take`).
-/

namespace GuestHost.Utf8

/-! ## How characters are written -/

theorem val_ofNat {v : Nat} (hvalid : v.isValidChar) : (Char.ofNat v).val.toNat = v := by
  rw [Char.ofNat, dif_pos hvalid]
  rfl

theorem utf8EncodeChar_one {v : Nat} (hhigh : v < 0x80) :
    String.utf8EncodeChar (Char.ofNat v) = [UInt8.ofNat v] := by
  have hval : (Char.ofNat v).val.toNat = v := val_ofNat (.inl (by omega))
  simp only [String.utf8EncodeChar, hval]
  rw [if_pos (by omega)]

theorem utf8EncodeChar_two {v : Nat} (hlow : 0x80 ≤ v) (hhigh : v < 0x800) :
    String.utf8EncodeChar (Char.ofNat v) =
      [UInt8.ofNat (v / 64 % 0x20 + 0xC0), UInt8.ofNat (v % 0x40 + 0x80)] := by
  have hval : (Char.ofNat v).val.toNat = v := val_ofNat (.inl (by omega))
  simp only [String.utf8EncodeChar, hval]
  rw [if_neg (by omega), if_pos (by omega)]

theorem utf8EncodeChar_three {v : Nat} (hlow : 0x800 ≤ v) (hhigh : v < 0x10000)
    (hvalid : v.isValidChar) :
    String.utf8EncodeChar (Char.ofNat v) =
      [UInt8.ofNat (v / 4096 % 0x10 + 0xE0), UInt8.ofNat (v / 64 % 0x40 + 0x80),
        UInt8.ofNat (v % 0x40 + 0x80)] := by
  simp only [String.utf8EncodeChar, val_ofNat hvalid]
  rw [if_neg (by omega), if_neg (by omega), if_pos (by omega)]

theorem utf8EncodeChar_four {v : Nat} (hlow : 0x10000 ≤ v) (hhigh : v < 0x110000) :
    String.utf8EncodeChar (Char.ofNat v) =
      [UInt8.ofNat (v / 262144 % 0x08 + 0xF0), UInt8.ofNat (v / 4096 % 0x40 + 0x80),
        UInt8.ofNat (v / 64 % 0x40 + 0x80), UInt8.ofNat (v % 0x40 + 0x80)] := by
  have hval : (Char.ofNat v).val.toNat = v := val_ofNat (.inr ⟨by omega, by omega⟩)
  simp only [String.utf8EncodeChar, hval]
  rw [if_neg (by omega), if_neg (by omega), if_neg (by omega)]

/-! ## What the reader waits for -/

/-- Continuation bytes, as many as given, the first of them in a range of its own. -/
def Completes : Nat → UInt8 → UInt8 → Bytes → Prop
  | 0, _, _, tail => tail = []
  | count + 1, low, high, tail => ∃ byte rest, tail = byte :: rest ∧
      (low.toNat ≤ byte.toNat ∧ byte.toNat ≤ high.toNat) ∧ Completes count 0x80 0xBF rest

/-- What the reader has been fed since the last piece.  Inside of a character it can only be
completed to the bytes of the very character that the reader will find. -/
def Awaits : State → Bytes → Prop
  | .idle, fed => fed = []
  | .within bits remaining low high, fed =>
      0 < fed.length ∧ 0 < remaining ∧ fed.length + remaining ≤ 4 ∧
        ∀ tail, Completes remaining low high tail →
          String.utf8EncodeChar
            (Char.ofNat (tail.foldl (fun bits byte => bits * 64 + byte.toNat % 64) bits)) =
              fed ++ tail

theorem ofNat_eq {n : Nat} (byte : UInt8) (hn : n = byte.toNat) : UInt8.ofNat n = byte := by
  rw [hn, UInt8.ofNat_toNat]

theorem awaits_two {byte : UInt8} (hlow : 0xC2 ≤ byte.toNat) (hhigh : byte.toNat < 0xE0) :
    Awaits (.within (byte.toNat % 32) 1 0x80 0xBF) [byte] := by
  refine ⟨Nat.one_pos, Nat.one_pos, by simp, ?_⟩
  rintro _ ⟨second, _, rfl, ⟨hsecondLow, hsecondHigh⟩, rfl⟩
  simp only [UInt8.reduceToNat] at hsecondLow hsecondHigh
  simp only [List.foldl_cons, List.foldl_nil, List.cons_append, List.nil_append]
  rw [utf8EncodeChar_two (by omega) (by omega), ofNat_eq byte (by omega),
    ofNat_eq second (by omega)]

theorem awaits_three {byte : UInt8} (hlow : 0xE0 ≤ byte.toNat) (hhigh : byte.toNat < 0xF0) :
    Awaits (.within (byte.toNat % 16) 2 (secondOfThree byte.toNat).1
      (secondOfThree byte.toNat).2) [byte] := by
  refine ⟨Nat.one_pos, Nat.two_pos, by simp, ?_⟩
  rintro _ ⟨second, _, rfl, hsecond, third, _, rfl, ⟨hthirdLow, hthirdHigh⟩, rfl⟩
  -- the range of the second byte rules out overlong forms and surrogates
  have hrange : 0x80 ≤ second.toNat ∧ second.toNat ≤ 0xBF ∧
      (byte.toNat = 0xE0 → 0xA0 ≤ second.toNat) ∧ (byte.toNat = 0xED → second.toNat ≤ 0x9F) := by
    unfold secondOfThree at hsecond
    split at hsecond
    · simp only [UInt8.reduceToNat] at hsecond
      omega
    · split at hsecond <;> simp only [UInt8.reduceToNat] at hsecond <;> omega
  simp only [UInt8.reduceToNat] at hthirdLow hthirdHigh
  simp only [List.foldl_cons, List.foldl_nil, List.cons_append, List.nil_append]
  rw [utf8EncodeChar_three (by omega) (by omega), ofNat_eq byte (by omega),
    ofNat_eq second (by omega), ofNat_eq third (by omega)]
  simp only [Nat.isValidChar]
  omega

theorem awaits_four {byte : UInt8} (hlow : 0xF0 ≤ byte.toNat) (hhigh : byte.toNat < 0xF5) :
    Awaits (.within (byte.toNat % 8) 3 (secondOfFour byte.toNat).1
      (secondOfFour byte.toNat).2) [byte] := by
  refine ⟨Nat.one_pos, Nat.succ_pos 2, by simp, ?_⟩
  rintro _ ⟨second, _, rfl, hsecond, third, _, rfl, ⟨hthirdLow, hthirdHigh⟩, fourth, _, rfl,
    ⟨hfourthLow, hfourthHigh⟩, rfl⟩
  -- the range of the second byte rules out overlong forms and values that are too large
  have hrange : 0x80 ≤ second.toNat ∧ second.toNat ≤ 0xBF ∧
      (byte.toNat = 0xF0 → 0x90 ≤ second.toNat) ∧ (byte.toNat = 0xF4 → second.toNat ≤ 0x8F) := by
    unfold secondOfFour at hsecond
    split at hsecond
    · simp only [UInt8.reduceToNat] at hsecond
      omega
    · split at hsecond <;> simp only [UInt8.reduceToNat] at hsecond <;> omega
  simp only [UInt8.reduceToNat] at hthirdLow hthirdHigh hfourthLow hfourthHigh
  simp only [List.foldl_cons, List.foldl_nil, List.cons_append, List.nil_append]
  rw [utf8EncodeChar_four (by omega) (by omega), ofNat_eq byte (by omega),
    ofNat_eq second (by omega), ofNat_eq third (by omega),
    ofNat_eq fourth (by omega)]

/-! ## The parts of a byte string -/

/-- What a piece is read from: the bytes of a character, or one to three others. -/
def Spells : Piece × Bytes → Prop
  | (some c, bytes) => bytes = String.utf8EncodeChar c
  | (none, bytes) => 0 < bytes.length ∧ bytes.length ≤ 3

/-- Pieces that have been found in bytes, each in a part of its own.  Behind the parts stands
what the reader has been fed since. -/
def Reads (found : List Piece) (state : State) (bytes : Bytes) : Prop :=
  ∃ (parts : List (Piece × Bytes)) (fed : Bytes), found = parts.map Prod.fst ∧
    bytes = parts.flatMap Prod.snd ++ fed ∧ (∀ part ∈ parts, Spells part) ∧ Awaits state fed

theorem Reads.of_awaits {state : State} {fed : Bytes} (hawaits : Awaits state fed) :
    Reads [] state fed :=
  ⟨[], fed, rfl, rfl, by simp, hawaits⟩

theorem Reads.of_spells {piece : Piece} {bytes : Bytes} (hspells : Spells (piece, bytes)) :
    Reads [piece] .idle bytes :=
  ⟨[(piece, bytes)], [], rfl, by simp, by simpa using hspells, rfl⟩

/-- Reading on: what was waited for stands in front of the bytes that are fed now. -/
theorem Reads.append {found more : List Piece} {state next : State} {bytes others : Bytes}
    (hreads : Reads found state bytes)
    (hmore : ∀ fed, Awaits state fed → Reads more next (fed ++ others)) :
    Reads (found ++ more) next (bytes ++ others) := by
  obtain ⟨parts, fed, rfl, rfl, hparts, hawaits⟩ := hreads
  obtain ⟨moreParts, rest, rfl, hfed, hmoreParts, hrest⟩ := hmore fed hawaits
  refine ⟨parts ++ moreParts, rest, by simp, ?_, ?_, hrest⟩
  · rw [List.append_assoc, hfed, List.flatMap_append, List.append_assoc]
  · intro part hpart
    rcases List.mem_append.mp hpart with hpart | hpart
    · exact hparts part hpart
    · exact hmoreParts part hpart

/-- A byte between two characters is a character, begins one, or is ill-formed. -/
theorem start_reads (byte : UInt8) : Reads (start byte).1 (start byte).2 [byte] := by
  change Reads (step .idle byte).1 (step .idle byte).2 [byte]
  have hbyte : UInt8.ofNat byte.toNat = byte := UInt8.ofNat_toNat
  by_cases hone : byte.toNat < 0x80
  · have hstep := step_ascii hone
    rw [hbyte] at hstep
    rw [hstep]
    exact .of_spells (by rw [Spells, utf8EncodeChar_one hone, hbyte])
  -- the bytes up to C1 begin no character
  by_cases htwo : byte.toNat < 0xC2
  · have hstep : step .idle byte = ([none], .idle) := by
      simp only [step, start, UInt8.lt_iff_toNat_lt, UInt8.reduceToNat]
      rw [if_neg hone, if_pos htwo]
    rw [hstep]
    exact .of_spells ⟨Nat.one_pos, by simp⟩
  by_cases hthree : byte.toNat < 0xE0
  · have hstep := step_two (n := byte.toNat) (by omega) hthree
    rw [hbyte] at hstep
    rw [hstep]
    exact .of_awaits (awaits_two (by omega) hthree)
  by_cases hfour : byte.toNat < 0xF0
  · have hstep := step_three (n := byte.toNat) (by omega) hfour
    rw [hbyte] at hstep
    rw [hstep]
    exact .of_awaits (awaits_three (by omega) hfour)
  by_cases hlarge : byte.toNat < 0xF5
  · have hstep := step_four (n := byte.toNat) (by omega) hlarge
    rw [hbyte] at hstep
    rw [hstep]
    exact .of_awaits (awaits_four (by omega) hlarge)
  · have hstep : step .idle byte = ([none], .idle) := by
      simp only [step, start, UInt8.lt_iff_toNat_lt, ← UInt8.toNat_inj, UInt8.reduceToNat]
      iterate 9 rw [if_neg (by omega)]
    rw [hstep]
    exact .of_spells ⟨Nat.one_pos, by simp⟩

theorem step_reads {state : State} {fed : Bytes} (hawaits : Awaits state fed) (byte : UInt8) :
    Reads (step state byte).1 (step state byte).2 (fed ++ [byte]) := by
  cases state with
  | idle =>
      obtain rfl : fed = [] := hawaits
      exact start_reads byte
  | within bits remaining low high =>
      obtain ⟨hfed, hremaining, hsum, hcompletes⟩ := hawaits
      by_cases hrange : low ≤ byte ∧ byte ≤ high
      · have hbounds : low.toNat ≤ byte.toNat ∧ byte.toNat ≤ high.toNat := by
          simpa only [UInt8.le_iff_toNat_le] using hrange
        by_cases hlast : remaining ≤ 1
        -- the last byte completes the character, any other one leaves fewer to wait for
        · obtain rfl : remaining = 1 := by omega
          have hchar := hcompletes [byte] ⟨byte, [], rfl, hbounds, rfl⟩
          simp only [step, if_pos hrange, if_pos (Nat.le_refl 1)]
          exact .of_spells hchar.symm
        · obtain ⟨count, rfl⟩ : ∃ count, remaining = count + 2 := ⟨remaining - 2, by omega⟩
          simp only [step, if_pos hrange, if_neg hlast]
          refine .of_awaits ⟨by simp, by omega, by simp; omega, fun tail htail => ?_⟩
          have hchar := hcompletes (byte :: tail) ⟨byte, tail, rfl, hbounds, htail⟩
          rw [List.append_assoc]
          exact hchar
      · -- the part ends in front of the byte, which starts afresh
        simp only [step, if_neg hrange]
        have hpart : Reads [none] .idle fed := .of_spells ⟨hfed, by omega⟩
        refine hpart.append fun rest hrest => ?_
        obtain rfl : rest = [] := hrest
        exact start_reads byte

theorem feed_reads {read : List Piece × State} {front : Bytes}
    (hreads : Reads read.1.reverse read.2 front) (byte : UInt8) :
    Reads (feed read byte).1.reverse (feed read byte).2 (front ++ [byte]) := by
  simp only [feed, List.reverse_append, List.reverse_reverse]
  exact hreads.append fun fed hfed => step_reads hfed byte

theorem foldl_feed_reads (bytes : Bytes) {read : List Piece × State} {front : Bytes}
    (hreads : Reads read.1.reverse read.2 front) :
    Reads (bytes.foldl feed read).1.reverse (bytes.foldl feed read).2 (front ++ bytes) := by
  induction bytes generalizing read front with
  | nil => rwa [List.append_nil]
  | cons byte rest ih =>
      rw [List.foldl_cons, List.append_cons]
      exact ih (feed_reads hreads byte)

/-- What the reader has found so far comes from the bytes it has been fed. -/
theorem reads_of_fed (bytes : Bytes) :
    Reads (bytes.foldl feed ([], .idle)).1.reverse (bytes.foldl feed ([], .idle)).2 bytes := by
  let nothing : List Piece × State := ([], .idle)
  have hnothing : Reads nothing.1.reverse nothing.2 [] := .of_awaits rfl
  exact foldl_feed_reads bytes hnothing

theorem pieces_eq (bytes : Bytes) :
    pieces bytes = (bytes.foldl feed ([], .idle)).1.reverse ++
      (finish (bytes.foldl feed ([], .idle)).2).reverse :=
  List.reverse_append

/-- The parts of a byte string, side by side, and the piece that each is read as. -/
structure Parts (bytes : Bytes) (parts : List (Piece × Bytes)) : Prop where
  pieces : parts.map Prod.fst = Utf8.pieces bytes
  bytes : parts.flatMap Prod.snd = bytes
  spells : ∀ part ∈ parts, Spells part

/-- A byte string is made of parts, one for each piece that is read from it. -/
theorem exists_parts (bytes : Bytes) : ∃ parts, Parts bytes parts := by
  obtain ⟨parts, fed, hfound, hbytes, hparts, hawaits⟩ := reads_of_fed bytes
  -- what the reader still waits for in the end is an ill-formed part
  cases hstate : (bytes.foldl feed ([], .idle)).2 with
  | idle =>
      rw [hstate] at hawaits
      obtain rfl : fed = [] := hawaits
      refine ⟨parts, ?_, by rw [hbytes, List.append_nil], hparts⟩
      rw [pieces_eq, hfound, hstate]
      simp [finish]
  | within bits remaining low high =>
      rw [hstate] at hawaits
      obtain ⟨hfed, hremaining, hsum, -⟩ := hawaits
      refine ⟨parts ++ [(none, fed)], ?_, ?_, ?_⟩
      · rw [pieces_eq, hfound, hstate]
        simp [finish]
      · rw [List.flatMap_append]
        simpa using hbytes.symm
      · intro part hpart
        rcases List.mem_append.mp hpart with hpart | hpart
        · exact hparts part hpart
        · rw [List.mem_singleton.mp hpart]
          exact ⟨hfed, by omega⟩

/-! ## Well-formed bytes -/

theorem flatMap_of_all_isSome {parts : List (Piece × Bytes)}
    (hparts : ∀ part ∈ parts, Spells part)
    (hsome : (parts.map Prod.fst).all Option.isSome) :
    ((parts.map Prod.fst).filterMap id).flatMap String.utf8EncodeChar =
      parts.flatMap Prod.snd := by
  induction parts with
  | nil => rfl
  | cons part rest ih =>
      obtain ⟨piece, bytes⟩ := part
      simp only [List.map_cons, List.all_cons, Bool.and_eq_true] at hsome
      obtain ⟨c, rfl⟩ := Option.isSome_iff_exists.mp hsome.1
      have hbytes : bytes = String.utf8EncodeChar c := hparts (some c, bytes) List.mem_cons_self
      have hrest := ih (fun part hpart => hparts part (List.mem_cons_of_mem _ hpart)) hsome.2
      calc
        ((some c :: rest.map Prod.fst).filterMap id).flatMap String.utf8EncodeChar
            = (c :: (rest.map Prod.fst).filterMap id).flatMap String.utf8EncodeChar := rfl
        _ = String.utf8EncodeChar c ++ rest.flatMap Prod.snd := by
          rw [List.flatMap_cons, hrest]
        _ = ((some c, bytes) :: rest).flatMap Prod.snd := by
          rw [List.flatMap_cons, hbytes]

/-- Bytes are read as a text exactly if they are those that the text is written in. -/
theorem decode?_eq_some_iff {bytes : Bytes} {text : String} :
    decode? bytes = some text ↔ bytes = encode text := by
  constructor
  · intro hdecode
    simp only [decode?] at hdecode
    split at hdecode
    · next hsome =>
        obtain ⟨parts, hpieces, rfl, hparts⟩ := exists_parts bytes
        rw [← hpieces] at hsome hdecode
        rw [← Option.some.inj hdecode, encode, String.toList_ofList,
          flatMap_of_all_isSome hparts hsome]
    · cases hdecode
  · rintro rfl
    exact decode?_encode text

/-! ## Replacement characters -/

/-- By how many bytes a replacement character is longer than what it stands for. -/
def gap : Piece × Bytes → Nat
  | (some _, _) => 0
  | (none, bytes) => 3 - bytes.length

theorem length_replacement {part : Piece × Bytes} (hpart : Spells part) :
    (String.utf8EncodeChar (part.1.getD '\uFFFD')).length = part.2.length + gap part := by
  obtain ⟨piece, bytes⟩ := part
  cases piece with
  | some c =>
      obtain rfl : bytes = String.utf8EncodeChar c := hpart
      rfl
  | none =>
      obtain ⟨hpos, hle⟩ : 0 < bytes.length ∧ bytes.length ≤ 3 := hpart
      have hthree : (String.utf8EncodeChar '\uFFFD').length = 3 := by decide
      simp only [Option.getD_none, hthree, gap]
      omega

/-- By how many bytes the replacement characters of all parts are longer. -/
def gaps : List (Piece × Bytes) → Nat
  | [] => 0
  | part :: rest => gap part + gaps rest

theorem gaps_eq_zero_iff {parts : List (Piece × Bytes)} :
    gaps parts = 0 ↔ ∀ part ∈ parts, gap part = 0 := by
  induction parts with
  | nil => simp [gaps]
  | cons part rest ih => rw [gaps, Nat.add_eq_zero_iff, ih, List.forall_mem_cons]

/-- What replacements do to the number of bytes. -/
theorem length_encode_decodeLossy {bytes : Bytes} {parts : List (Piece × Bytes)}
    (hparts : Parts bytes parts) :
    (encode (decodeLossy bytes)).length = bytes.length + gaps parts := by
  obtain ⟨hpieces, rfl, hspells⟩ := hparts
  rw [encode, decodeLossy, String.toList_ofList, ← hpieces]
  clear hpieces
  induction parts with
  | nil => rfl
  | cons part rest ih =>
      have hpart := length_replacement (hspells part List.mem_cons_self)
      have hrest := ih fun part hpart => hspells part (List.mem_cons_of_mem _ hpart)
      simp only [List.map_cons, List.flatMap_cons, List.length_append, gaps] at hrest ⊢
      omega

/-- Replacing leaves the number of bytes as it was exactly if all that is replaced is as long
as a replacement character. -/
theorem length_encode_decodeLossy_eq_iff {bytes : Bytes} {parts : List (Piece × Bytes)}
    (hparts : Parts bytes parts) :
    (encode (decodeLossy bytes)).length = bytes.length ↔
      ∀ part ∈ parts, part.1 = none → part.2.length = 3 := by
  have hzero : (encode (decodeLossy bytes)).length = bytes.length ↔ gaps parts = 0 := by
    rw [length_encode_decodeLossy hparts]
    omega
  rw [hzero, gaps_eq_zero_iff]
  refine forall_congr' fun part => forall_congr' fun hpart => ?_
  obtain ⟨piece, bytes⟩ := part
  have hspells := hparts.spells _ hpart
  cases piece with
  | some c => simp [gap]
  | none =>
      obtain ⟨hpos, hle⟩ : 0 < bytes.length ∧ bytes.length ≤ 3 := hspells
      simp only [gap, forall_const]
      omega

/-! ## Texts that are cut -/

/-- A number of bytes ends within a text: behind some characters, and behind `count` bytes of
the next one. -/
structure CutAt (text : String) (cap : Nat) (front : String) (next : Char) (count : Nat) :
    Prop where
  text : ∃ rest, text = front ++ (String.singleton next ++ rest)
  count_lt : count < (String.utf8EncodeChar next).length
  cap : cap = (encode front).length + count

theorem encode_singleton (c : Char) :
    encode (String.singleton c) = String.utf8EncodeChar c := by
  simp [encode]

/-- There is such a place for every number of bytes that is less than all of them. -/
theorem exists_cutAt {text : String} {cap : Nat} (hcap : cap < (encode text).length) :
    ∃ front next count, CutAt text cap front next count := by
  obtain ⟨chars, rfl⟩ : ∃ chars, text = String.ofList chars := ⟨text.toList, by simp⟩
  induction chars generalizing cap with
  | nil => simp [encode] at hcap
  | cons c rest ih =>
      have htext : String.ofList (c :: rest) = String.singleton c ++ String.ofList rest := by
        rw [← List.singleton_append, String.ofList_append]
        rfl
      have hencode : encode (String.ofList (c :: rest)) =
          String.utf8EncodeChar c ++ encode (String.ofList rest) := by
        rw [htext, encode_append, encode_singleton]
      rw [hencode, List.length_append] at hcap
      by_cases hinside : cap < (String.utf8EncodeChar c).length
      · exact ⟨"", c, cap, ⟨_, by rw [htext, String.empty_append]⟩, hinside, by simp [encode]⟩
      · have hbehind : cap - (String.utf8EncodeChar c).length <
            (encode (String.ofList rest)).length := by omega
        obtain ⟨front, next, count, ⟨behind, hbehind⟩, hcount, hsum⟩ := ih hbehind
        refine ⟨String.singleton c ++ front, next, count, ⟨behind, ?_⟩, hcount, ?_⟩
        · rw [htext, hbehind, String.append_assoc]
        · rw [encode_append, encode_singleton, List.length_append]
          omega

/-- The beginning of a character is one ill-formed part. -/
theorem pieces_take_utf8EncodeChar {c : Char} {count : Nat} (hpos : 0 < count)
    (hcount : count < (String.utf8EncodeChar c).length) :
    pieces ((String.utf8EncodeChar c).take count) = [none] := by
  obtain ⟨parts, fed, hfound, hbytes, hparts, hawaits⟩ :=
    reads_of_fed ((String.utf8EncodeChar c).take count)
  have hlength : ((String.utf8EncodeChar c).take count).length = count := by
    rw [List.length_take]
    omega
  -- the whole character is all that is found in the end, and it is not found yet
  have hwhole := feed_utf8EncodeChar c []
  rw [← List.take_append_drop count (String.utf8EncodeChar c), List.foldl_append, foldl_feed]
    at hwhole
  rw [pieces_eq]
  rcases hread : ((String.utf8EncodeChar c).take count).foldl feed ([], .idle) with ⟨read, state⟩
  rw [hread] at hfound hawaits hwhole
  have hempty : read = [] := by
    rcases List.append_eq_cons_iff.mp (Prod.mk.inj hwhole).1 with ⟨-, rfl⟩ | ⟨_, -, hread⟩
    · exfalso
      obtain ⟨⟨piece, bytes⟩, rfl, rfl⟩ := List.map_eq_singleton_iff.mp hfound.symm
      have hspells : bytes = String.utf8EncodeChar c := hparts (some c, bytes) List.mem_cons_self
      rw [hbytes, hspells] at hlength
      simp only [List.flatMap_cons, List.flatMap_nil, List.append_nil, List.length_append]
        at hlength
      omega
    · exact (List.append_eq_nil_iff.mp hread.symm).2
  subst hempty
  obtain rfl : parts = [] := List.map_eq_nil_iff.mp hfound.symm
  cases state with
  | idle =>
      obtain rfl : fed = [] := hawaits
      rw [hbytes] at hlength
      exact absurd hlength (Nat.ne_of_lt hpos)
  | within bits remaining low high => rfl

namespace CutAt

variable {text front : String} {cap count : Nat} {next : Char}

/-- What is left of a text, in bytes. -/
theorem take_encode (hcut : CutAt text cap front next count) :
    (encode text).take cap = encode front ++ (String.utf8EncodeChar next).take count := by
  obtain ⟨⟨rest, rfl⟩, hcount, rfl⟩ := hcut
  rw [encode_append, List.take_append, List.take_of_length_le (Nat.le_add_right _ _),
    Nat.add_sub_cancel_left, encode_append, encode_singleton,
    List.take_append_of_le_length (Nat.le_of_lt hcount)]

theorem pieces_take (hcut : CutAt text cap front next count) :
    pieces ((encode text).take cap) =
      front.toList.map some ++ if count = 0 then [] else [none] := by
  rw [hcut.take_encode, pieces_encode_append]
  split
  · next hzero =>
      rw [hzero]
      rfl
  · next hpos => rw [pieces_take_utf8EncodeChar (Nat.pos_of_ne_zero hpos) hcut.count_lt]

/-- What does not fit is gone, and one character is replaced if the cut goes through it. -/
theorem decodeLossy_take (hcut : CutAt text cap front next count) :
    decodeLossy ((encode text).take cap) = if count = 0 then front else front ++ "\uFFFD" := by
  rw [decodeLossy, hcut.pieces_take]
  split
  · simp [Function.comp_def]
  · simp [Function.comp_def, String.ofList_append]

theorem decode?_take (hcut : CutAt text cap front next count) :
    decode? ((encode text).take cap) = if count = 0 then some front else none := by
  simp only [decode?, hcut.pieces_take]
  split
  · simp [List.filterMap_map]
  · simp

/-- A text is cut between two characters exactly if what is left is a text. -/
theorem count_eq_zero_iff (hcut : CutAt text cap front next count) :
    count = 0 ↔ ∃ whole, encode whole = (encode text).take cap := by
  constructor
  · intro hzero
    have hdecode := hcut.decode?_take
    rw [if_pos hzero, decode?_eq_some_iff] at hdecode
    exact ⟨front, hdecode.symm⟩
  · rintro ⟨whole, hwhole⟩
    have hdecode := hcut.decode?_take
    rw [← hwhole, decode?_encode] at hdecode
    split at hdecode
    · assumption
    · cases hdecode

end CutAt

end GuestHost.Utf8
