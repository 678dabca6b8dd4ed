/-
This file expands zlib streams. The stream is read bit by bit into a growing output, and reading
stops for one of four reasons: the stream is complete, the output has reached a limit, the stream
ends too early, or it is damaged. Bytes after the end of the stream are not looked at.
-/

import DocumentDriver.Compression.Adler
import DocumentDriver.Compression.Huffman
import DocumentDriver.Compression.Lengths

namespace DocumentDriver.Inflate

/-- Why reading stopped before the end of the stream. -/
inductive Halt where
  /-- The output has reached its limit. -/
  | full
  /-- The input has ended. -/
  | truncated
  /-- The input is no zlib stream. -/
  | damaged
deriving DecidableEq, Repr

/-- How far a stream has been read. -/
structure State where
  input : ByteArray
  /-- The number of bits read so far. -/
  position : Nat
  output : ByteArray
  /-- The output never grows longer than this. -/
  limit : Nat
  /-- The number of bytes at the end of the output that wait for the next symbol. -/
  held : Nat

/-- A step that reads on, or stops. The state is known in either case. -/
abbrev Step (Result : Type) := ExceptT Halt (StateM State) Result

/-! ### Bits and bytes -/

/-- The next bit, the lowest of each byte first. -/
def bit : Step Nat := do
  let state ← get
  if inside : state.position / 8 < state.input.size then
    let byte := state.input[state.position / 8].toNat
    set { state with position := state.position + 1 }
    return (byte >>> (state.position % 8)) % 2
  else throw .truncated

/-- The next bits as a number, the lowest first. -/
def bits : Nat → Step Nat
  | 0 => return 0
  | count + 1 => do
    let low ← bit
    return low + 2 * (← bits count)

/-- Moves on to the next whole byte. -/
def alignToByte : Step Unit :=
  modify fun state => { state with position := (state.position + 7) / 8 * 8 }

/-- Appends one byte to the output. -/
def emit (byte : UInt8) : Step Unit := do
  let state ← get
  if state.output.size < state.limit then
    set { state with output := state.output.push byte }
  else throw .full

/-- The byte a number of places before the end of the output. The places before the first byte
hold zero. -/
def byteBack (output : ByteArray) (distance : Nat) : UInt8 :=
  if inside : distance ≤ output.size ∧ 0 < distance then
    output[output.size - distance]
  else 0

/-- Repeats bytes of the output that stand a number of places before its end. -/
def copyBack (distance : Nat) : Nat → Step Unit
  | 0 => return ()
  | count + 1 => do
    emit (byteBack (← get).output distance)
    copyBack distance count

/-- Hands over the bytes of a symbol. Output leaves in windows. When the bytes reach into a window
after the first and no whole byte of input is left, those inside the window wait for the next
symbol. -/
def handOver (count : Nat) : Step Unit :=
  modify fun state =>
    let inside := (state.output.size - 1) % Deflate.windowSize + 1
    let waits := inside ≤ count && inside < state.output.size &&
      state.input.size ≤ (state.position + 7) / 8
    { state with held := if waits then inside else 0 }

/-! ### Codes -/

/-- Reads one symbol. `word` holds the bits so far, `first` the first word of the current length,
and `index` the place of its symbol. Bits that begin no word are damage at once. -/
def symbolFrom (symbols : Array Nat) (word first index : Nat) : List Nat → Step Nat
  | [] => throw .damaged
  | count :: rest => do
    let word := 2 * word + (← bit)
    if word < first + count then
      match symbols[index + (word - first)]? with
      | some symbol => return symbol
      | none => throw .damaged
    else if rest.all (· = 0) then throw .damaged
    else symbolFrom symbols word (2 * (first + count)) (index + count) rest

/-- Reads one symbol of a code. -/
def symbol (code : Huffman.Code) : Step Nat := symbolFrom code.symbols 0 0 0 code.counts

/-- The code with words of the given lengths. Only a code without words, or with a single word of
one bit, may leave bit sequences unused. -/
def codeOf (lengths : Array Nat) : Step Huffman.Code := do
  let code := Huffman.Code.ofLengths lengths
  let tiny := code.used ≤ 1 && code.counts.head? = some code.used
  if code.isComplete || tiny then return code else throw .damaged

/-! ### Blocks -/

/-- The rest of a match, after its length symbol. -/
def copyMatch (distances : Huffman.Code) (lengthSymbol : Nat) : Step Unit := do
  let index := lengthSymbol - (Deflate.endOfBlock + 1)
  match Deflate.lengthBases[index]?, Deflate.lengthExtras[index]? with
  | some lengthBase, some lengthExtra =>
    let length := lengthBase + (← bits lengthExtra)
    let distanceSymbol ← symbol distances
    match Deflate.distanceBases[distanceSymbol]?, Deflate.distanceExtras[distanceSymbol]? with
    | some distanceBase, some distanceExtra =>
      copyBack (distanceBase + (← bits distanceExtra)) length
      handOver length
    | _, _ => throw .damaged
  | _, _ => throw .damaged

/-- The literals and matches of a block. Each takes at least one bit, so there are no more of them
than bits. -/
def blockContents (literals distances : Huffman.Code) : Nat → Step Unit
  | 0 => throw .truncated
  | fuel + 1 => do
    let next ← symbol literals
    if next < Deflate.endOfBlock then
      emit (UInt8.ofNat next)
      handOver 1
      blockContents literals distances fuel
    else if next = Deflate.endOfBlock then return ()
    else
      copyMatch distances next
      blockContents literals distances fuel

/-- Bytes that are stored as they are. -/
def storedBytes : Nat → Step Unit
  | 0 => return ()
  | count + 1 => do
    emit (UInt8.ofNat (← bits 8))
    storedBytes count

/-- A block of stored bytes, after its type. The length is followed by its complement. -/
def storedBlock : Step Unit := do
  alignToByte
  let length ← bits 16
  let complement ← bits 16
  if length + complement = 0xFFFF then storedBytes length else throw .damaged

/-- Reads the lengths of words, each as a symbol of its own code: a length, or a number of
repetitions of the last length or of 0. -/
def wordLengths (code : Huffman.Code) (count : Nat) : Nat → Array Nat → Step (Array Nat)
  | 0, _ => throw .damaged
  | fuel + 1, lengths => do
    if lengths.size = count then return lengths
    else if count < lengths.size then throw .damaged
    else
      let next ← symbol code
      if next < 16 then wordLengths code count fuel (lengths.push next)
      else if next = 16 then
        match lengths.back? with
        | none => throw .damaged
        | some last =>
          wordLengths code count fuel (lengths ++ Array.replicate (3 + (← bits 2)) last)
      else if next = 17 then
        wordLengths code count fuel (lengths ++ Array.replicate (3 + (← bits 3)) 0)
      else wordLengths code count fuel (lengths ++ Array.replicate (11 + (← bits 7)) 0)

/-- The lengths of the code for code lengths, in the order in which they are sent. -/
def orderedLengths : List Nat → Array Nat → Step (Array Nat)
  | [], lengths => return lengths
  | place :: rest, lengths => do orderedLengths rest (lengths.set! place (← bits 3))

/-- The codes of a block that brings its own. -/
def ownCodes : Step (Huffman.Code × Huffman.Code) := do
  let literalCount := 257 + (← bits 5)
  let distanceCount := 1 + (← bits 5)
  let orderCount := 4 + (← bits 4)
  if 286 < literalCount || 30 < distanceCount then throw .damaged else
  let lengths ← orderedLengths (Deflate.lengthOrder.take orderCount) (Array.replicate 19 0)
  let code := Huffman.Code.ofLengths lengths
  if !code.isComplete then throw .damaged else
  let total := literalCount + distanceCount
  let all ← wordLengths code total (total + 1) #[]
  let literals ← codeOf (all.extract 0 literalCount)
  let distances ← codeOf (all.extract literalCount total)
  return (literals, distances)

/-- One block, and whether it is the last one. -/
def block : Step Bool := do
  let last ← bit
  let fuel := 8 * (← get).input.size + 1
  match ← bits 2 with
  | 0 => storedBlock
  | 1 =>
    blockContents (Huffman.Code.ofLengths Deflate.fixedLiterals)
      (Huffman.Code.ofLengths Deflate.fixedDistances) fuel
  | 2 =>
    let (literals, distances) ← ownCodes
    blockContents literals distances fuel
  | _ => throw .damaged
  return last = 1

/-- The blocks up to the last one. Each takes at least three bits. -/
def blocks : Nat → Step Unit
  | 0 => throw .truncated
  | fuel + 1 => do
    if ← block then return () else blocks fuel

/-! ### Streams -/

/-- The two bytes in front of the blocks: a method and a window that this reader knows, no preset
dictionary, and a number that is a multiple of 31. -/
def streamHeader : Step Unit := do
  let method ← bits 8
  let options ← bits 8
  if (256 * method + options) % 31 ≠ 0 || method % 16 ≠ 8 || 7 < method / 16 ||
      options / 32 % 2 = 1 then throw .damaged

/-- The checksum behind the blocks. -/
def streamTrailer : Step Unit := do
  alignToByte
  let first ← bits 8
  let second ← bits 8
  let third ← bits 8
  let fourth ← bits 8
  if ((first * 256 + second) * 256 + third) * 256 + fourth ≠ Adler.checksum (← get).output then
    throw .damaged

/-- A whole stream. -/
def stream : Step Unit := do
  streamHeader
  blocks (8 * (← get).input.size + 1)
  streamTrailer

/-- Expands a stream until its end, or until it has to stop. When the input ends too early, the
bytes that still wait are lost. -/
def run (input : ByteArray) (limit : Nat) : Except Halt Unit × ByteArray :=
  let (result, state) := Id.run ((ExceptT.run stream).run ⟨input, 0, ByteArray.empty, limit, 0⟩)
  match result with
  | .error .truncated => (result, state.output.extract 0 (state.output.size - state.held))
  | _ => (result, state.output)

end DocumentDriver.Inflate
