import GuestHost.Instance.Basic

/-!
# Passing data to a guest and back

Whatever is passed to a guest stands in memory that the guest has allocated:
`writeBytes` asks for as many bytes as there are and writes them there.  What the
guest gives back is read from its memory, and released by `free`.
-/

namespace GuestHost.Harness

variable {γ : Type}

/-- Write bytes into memory that the guest allocates for them, and answer where they
stand. -/
def writeBytes (bytes : Bytes) : Harness γ Int32 := do
  match Word.ofCount? bytes.length with
  | none => fail .bufferTooLarge
  | some size =>
    let pointer ← invoke Export.malloc [size] .allocationTrapped
    if pointer = 0 then fail (.allocationRefused size)
    else
      write pointer bytes
      return pointer
where
  /-- Write bytes at a pointer. -/
  write (pointer : Int32) (bytes : Bytes) : Harness γ Unit := fun _ inst =>
    match inst.state.memory.writeAt pointer bytes with
    | .error error => (.error (.error (.access error)), inst)
    | .ok memory => (.ok (), { inst with state := { inst.state with memory } })

/-- Write a text as a C string into memory that the guest allocates for it. -/
def writeCString (text : String) : Harness γ Int32 :=
  if text.toList.contains '\x00' then fail .interiorNul
  else writeBytes (Utf8.encode text ++ [0])

/-- Write a descriptor at a pointer. -/
def writeDescriptor (pointer : Int32) (descriptor : Descriptor) : Harness γ Unit :=
  writeBytes.write pointer descriptor.toBytes

/-- Read the payload of a frame. -/
def readFrame (pointer : Int32) : Harness γ Bytes := fun _ inst =>
  ((inst.state.memory.readFrame pointer).mapError fun failure => failure.map .access, inst)

/-- Read a C string as text, cut at the instance's limit. -/
def readText (pointer : Int32) : Harness γ String := do
  let limit ← Attempt.look fun inst => inst.maxStringLength
  let bytes ← read fun memory => memory.readCString pointer limit
  match Utf8.decode? bytes with
  | some text => return text
  | none => fail (.notText "Guest")

/-- Release what stands at a pointer. -/
def free (pointer : Int32) : Harness γ Unit := do
  let _ ← invoke Export.free [pointer] .freeFailed

end GuestHost.Harness
