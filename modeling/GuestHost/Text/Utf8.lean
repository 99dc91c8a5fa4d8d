import GuestHost.Bytes

/-!
# UTF-8

Text crosses the boundary as UTF-8.  `encode` writes it; two readers undo it.
`decode?` refuses ill-formed bytes, `decodeLossy` puts one replacement character
in the place of each maximal ill-formed part.

Both readers are one machine, fed byte by byte.  Between characters it is `idle`;
inside one it is `within` it, and knows how many bytes are still to come and in
which range the next one has to lie.  The range is what rules out overlong forms,
surrogates and values above U+10FFFF already at the second byte, so that a
character is ill-formed at the first byte that cannot continue it.  What was read
up to there is one ill-formed part, and the offending byte starts afresh.
-/

namespace GuestHost.Utf8

/-- The UTF-8 bytes of a text. -/
def encode (text : String) : Bytes :=
  text.toList.flatMap String.utf8EncodeChar

/-- Where the reader stands. -/
inductive State
  /-- Between two characters. -/
  | idle
  /-- Inside a character: the bits read so far, the number of bytes to come, and
  the range in which the next one has to lie. -/
  | within (bits remaining : Nat) (low high : UInt8)
  deriving DecidableEq, Repr

/-- What is read: a character, or `none` for an ill-formed part. -/
abbrev Piece := Option Char

/-- Read a byte at the start of a character. -/
def start (byte : UInt8) : List Piece × State :=
  if byte < 0x80 then ([some (Char.ofNat byte.toNat)], .idle)
  else if byte < 0xC2 then ([none], .idle)
  else if byte < 0xE0 then ([], .within (byte.toNat % 32) 1 0x80 0xBF)
  else if byte = 0xE0 then ([], .within 0 2 0xA0 0xBF)
  else if byte = 0xED then ([], .within 13 2 0x80 0x9F)
  else if byte < 0xF0 then ([], .within (byte.toNat % 16) 2 0x80 0xBF)
  else if byte = 0xF0 then ([], .within 0 3 0x90 0xBF)
  else if byte < 0xF4 then ([], .within (byte.toNat % 8) 3 0x80 0xBF)
  else if byte = 0xF4 then ([], .within 4 3 0x80 0x8F)
  else ([none], .idle)

/-- Read one byte: the pieces it completes, and where the reader stands then. -/
def step : State → UInt8 → List Piece × State
  | .idle, byte => start byte
  | .within bits remaining low high, byte =>
    if low ≤ byte ∧ byte ≤ high then
      let bits := bits * 64 + byte.toNat % 64
      if remaining ≤ 1 then ([some (Char.ofNat bits)], .idle)
      else ([], .within bits (remaining - 1) 0x80 0xBF)
    else
      let (pieces, state) := start byte
      (none :: pieces, state)

/-- What the end of the bytes completes: a character cut short is ill-formed. -/
def finish : State → List Piece
  | .idle => []
  | .within .. => [none]

/-- One byte more behind the pieces read so far, which stand in reverse. -/
def feed (read : List Piece × State) (byte : UInt8) : List Piece × State :=
  let (pieces, state) := step read.2 byte
  (pieces.reverse ++ read.1, state)

/-- The characters and ill-formed parts of a byte string, in order. -/
def pieces (bytes : Bytes) : List Piece :=
  let (read, state) := bytes.foldl feed ([], .idle)
  (finish state ++ read).reverse

/-- The text with one replacement character for each ill-formed part. -/
def decodeLossy (bytes : Bytes) : String :=
  String.ofList ((pieces bytes).map (·.getD '\uFFFD'))

/-- The text, if every part of the bytes is well-formed. -/
def decode? (bytes : Bytes) : Option String :=
  let read := pieces bytes
  if read.all Option.isSome then some (String.ofList (read.filterMap id)) else none

end GuestHost.Utf8
