import GuestHost.Word

/-!
# Length-prefixed frames

A buffer that tells its own length is a *frame*: a header of four bytes with the
payload's length as a signed word, and then the payload.  `header` writes the
header, `decodeHeader` reads one, and `payload` takes the payload out of a buffer
that starts with a frame.  A length that a signed word cannot hold, a negative
length and a buffer that ends too early are the three ways to fail.
-/

namespace GuestHost

/-- Why a frame cannot be written or read. -/
inductive FrameError
  /-- The payload's length does not fit into a header. -/
  | payloadTooLarge (size : Nat)
  /-- The header holds a negative length. -/
  | negativeLength (length : Int32)
  /-- The buffer ends before the frame does. -/
  | truncated (needed actual : Nat)
  deriving DecidableEq, Repr

/-- The text of the error. -/
def FrameError.message : FrameError → String
  | .payloadTooLarge size => s!"Payload too large for a length prefix: {size} bytes"
  | .negativeLength length => s!"Negative length in prefix header: {length.toInt}"
  | .truncated needed actual => s!"Buffer too short: need {needed} bytes, got {actual}"

namespace Frame

/-- The size of a header in bytes. -/
def headerSize : Nat := 4

/-- The header of a payload of the given length. -/
def header (length : Nat) : Except FrameError Bytes :=
  match Word.ofCount? length with
  | some word => .ok (Word.toBytes word.toUInt32)
  | none => .error (.payloadTooLarge length)

/-- The length that a header stands for.  A header is four bytes. -/
def decodeHeader : Bytes → Except FrameError Nat
  | [b₀, b₁, b₂, b₃] =>
    let word := (Word.ofBytes b₀ b₁ b₂ b₃).toInt32
    match Word.toCount? word with
    | some length => .ok length
    | none => .error (.negativeLength word)
  | bytes => .error (.truncated headerSize bytes.length)

/-- The payload of the frame at the head of a buffer. -/
def payload (buffer : Bytes) : Except FrameError Bytes :=
  if buffer.length < headerSize then .error (.truncated headerSize buffer.length)
  else
    match decodeHeader (buffer.take headerSize) with
    | .error error => .error error
    | .ok length =>
      if buffer.length < headerSize + length then
        .error (.truncated (headerSize + length) buffer.length)
      else .ok ((buffer.drop headerSize).take length)

end Frame

end GuestHost
