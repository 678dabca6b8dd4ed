/-
This file writes zlib streams. The bytes are cut into literals and matches, a match being a run of
bytes that occurred before within the window, and the cuts are written in one block, with the fixed
codes or with codes made for it, whichever is shorter. Level 0 stores the bytes as they are.
-/

import DocumentDriver.Compression.Adler
import DocumentDriver.Compression.Huffman
import DocumentDriver.Compression.Lengths

namespace DocumentDriver.Deflate

/-- A literal byte, or a run of bytes that stands a distance before. -/
inductive Cut where
  | literal (byte : UInt8)
  | run (length distance : Nat)
deriving Repr

/-! ### Finding runs -/

/-- The number of bytes from two places on that agree, up to a bound. -/
def agreement (input : ByteArray) (earlier later : Nat) : Nat → Nat
  | 0 => 0
  | bound + 1 =>
    if inside : later < input.size then
      if input[later] == input.get! earlier then
        1 + agreement input (earlier + 1) (later + 1) bound
      else 0
    else 0

/-- A number below 4096 for the three bytes at a place. -/
def bucket (input : ByteArray) (place : Nat) : Nat :=
  (((input.get! place).toNat * 37 + (input.get! (place + 1)).toNat) * 59 +
    (input.get! (place + 2)).toNat) % 4096

/-- Notes the places from `place` on, as many as asked for, as the last ones of their buckets. -/
def note (input : ByteArray) (table : Array Nat) (place : Nat) : Nat → Array Nat
  | 0 => table
  | count + 1 =>
    let table :=
      if place + 2 < input.size then table.set! (bucket input place) (place + 1) else table
    note input table (place + 1) count

/-- Cuts the input from `place` on. `table` holds, for each bucket, one more than the last place
that fell into it. -/
def cutFrom (input : ByteArray) : Nat → Nat → Array Nat → Array Cut → Array Cut
  | 0, _, _, cuts => cuts
  | fuel + 1, place, table, cuts =>
    if inside : place < input.size then
      let last := if place + 2 < input.size then table.getD (bucket input place) 0 else 0
      let length :=
        if 0 < last ∧ place + 1 - last ≤ windowSize then
          agreement input (last - 1) place 258
        else 0
      if 3 ≤ length then
        cutFrom input fuel (place + length) (note input table place length)
          (cuts.push (.run length (place + 1 - last)))
      else
        cutFrom input fuel (place + 1) (note input table place 1)
          (cuts.push (.literal input[place]))
    else cuts

/-- The input as literals and runs. -/
def cut (input : ByteArray) : Array Cut :=
  cutFrom input (input.size + 1) 0 (Array.replicate 4096 0) #[]

/-! ### Symbols -/

/-- A symbol with the bits that follow it: their number and their value. -/
structure Symbol where
  symbol : Nat
  extraCount : Nat
  extra : Nat

/-- The last entry of a table of shortest values that does not exceed a value. -/
def symbolOf (bases extras : Array Nat) (value : Nat) : Symbol :=
  let index := bases.foldl (fun index base => if base ≤ value then index + 1 else index) 0 - 1
  ⟨index, extras.getD index 0, value - bases.getD index 0⟩

/-- The symbols of a literal or a run: one of the first code, and for a run one of the second. -/
def Cut.symbols : Cut → Symbol × Option Symbol
  | .literal byte => (⟨byte.toNat, 0, 0⟩, none)
  | .run length distance =>
    let first := symbolOf lengthBases lengthExtras length
    ({ first with symbol := first.symbol + endOfBlock + 1 },
      some (symbolOf distanceBases distanceExtras distance))

/-- How often each symbol of either code occurs, the end of the block included. -/
def frequencies (symbols : Array (Symbol × Option Symbol)) : Array Nat × Array Nat :=
  symbols.foldl
    (fun counts pair =>
      let literals := counts.1.modify pair.1.symbol (· + 1)
      match pair.2 with
      | none => (literals, counts.2)
      | some distance => (literals, counts.2.modify distance.symbol (· + 1)))
    ((Array.replicate 286 0).set! endOfBlock 1, Array.replicate 30 0)

/-! ### Bits -/

/-- Bits that are being collected into bytes. -/
structure Writer where
  bytes : ByteArray := ByteArray.empty
  /-- The bits of the byte that is not full yet. -/
  pending : Nat := 0
  /-- How many they are. -/
  count : Nat := 0

namespace Writer

/-- Appends one bit. -/
def bit (writer : Writer) (value : Bool) : Writer :=
  let pending := if value then writer.pending + (1 <<< writer.count) else writer.pending
  if writer.count = 7 then ⟨writer.bytes.push (UInt8.ofNat pending), 0, 0⟩
  else { writer with pending := pending, count := writer.count + 1 }

/-- Appends the lowest bits of a number, the lowest first. -/
def number (writer : Writer) : Nat → Nat → Writer
  | 0, _ => writer
  | count + 1, value => number (writer.bit (value % 2 = 1)) count (value / 2)

/-- Appends the word of a symbol. -/
def word (writer : Writer) (bits : List Bool) : Writer := bits.foldl bit writer

/-- The bytes, the last one filled up with zeros. -/
def finish (writer : Writer) : ByteArray :=
  if writer.count = 0 then writer.bytes else writer.bytes.push (UInt8.ofNat writer.pending)

end Writer

/-- Appends symbols and the bits that follow them, and the end of the block. -/
def writeSymbols (literals distances : Array (List Bool))
    (symbols : Array (Symbol × Option Symbol)) (writer : Writer) : Writer :=
  let written := symbols.foldl
    (fun writer pair =>
      let writer := (writer.word (literals.getD pair.1.symbol [])).number
        pair.1.extraCount pair.1.extra
      match pair.2 with
      | none => writer
      | some distance =>
        (writer.word (distances.getD distance.symbol [])).number
          distance.extraCount distance.extra)
    writer
  written.word (literals.getD endOfBlock [])

/-! ### Blocks -/

/-- One block with the fixed codes. -/
def fixedBlock (symbols : Array (Symbol × Option Symbol)) : ByteArray :=
  let writer := ({} : Writer).number 1 1 |>.number 2 1
  (writeSymbols (Huffman.words fixedLiterals) (Huffman.words fixedDistances) symbols writer).finish

/-- Runs of equal lengths as symbols of the code for code lengths. `last` is the length before,
`count` how often it stands there that has not been written. -/
def packZeros : Nat → Nat → List Symbol
  | 0, _ => []
  | fuel + 1, count =>
    if count = 0 then []
    else if count < 3 then ⟨0, 0, 0⟩ :: packZeros fuel (count - 1)
    else if count < 11 then [⟨17, 3, count - 3⟩]
    else
      let taken := min count 138
      ⟨18, 7, taken - 11⟩ :: packZeros fuel (count - taken)

/-- Lengths as symbols of the code for code lengths, runs of zeros taken together. `zeros` counts
the zeros before. -/
def packLengths (zeros : Nat) : List Nat → List Symbol
  | [] => packZeros (zeros + 1) zeros
  | 0 :: rest => packLengths (zeros + 1) rest
  | length :: rest => packZeros (zeros + 1) zeros ++ ⟨length, 0, 0⟩ :: packLengths 0 rest

/-- One block with codes of its own. -/
def ownBlock (symbols : Array (Symbol × Option Symbol)) : ByteArray :=
  let (literalCounts, distanceCounts) := frequencies symbols
  let distanceCounts :=
    if distanceCounts.all (· == 0) then distanceCounts.set! 0 1 else distanceCounts
  let literalLengths := Huffman.lengthsFor Huffman.maxLength literalCounts
  let distanceLengths := Huffman.lengthsFor Huffman.maxLength distanceCounts
  let packed := packLengths 0 (literalLengths.toList ++ distanceLengths.toList)
  let packedCounts := packed.foldl
    (fun (counts : Array Nat) symbol => counts.modify symbol.symbol (· + 1)) (Array.replicate 19 0)
  let packedLengths := Huffman.lengthsFor 7 packedCounts
  let packedWords := Huffman.words packedLengths
  let writer := ({} : Writer).number 1 1 |>.number 2 2 |>.number 5 (286 - 257) |>.number 5 (30 - 1)
    |>.number 4 (19 - 4)
  let writer := lengthOrder.foldl
    (fun (writer : Writer) place => writer.number 3 (packedLengths.getD place 0)) writer
  let writer := packed.foldl
    (fun (writer : Writer) symbol =>
      (writer.word (packedWords.getD symbol.symbol [])).number symbol.extraCount symbol.extra)
    writer
  (writeSymbols (Huffman.words literalLengths) (Huffman.words distanceLengths) symbols
    writer).finish

/-- Blocks that store the bytes as they are, each at most 65535 of them. -/
def storedBlocks (input : ByteArray) : Nat → Nat → ByteArray → ByteArray
  | 0, _, output => output
  | fuel + 1, place, output =>
    let count := min 65535 (input.size - place)
    let isLast := place + count = input.size
    let output := output.push (if isLast then 1 else 0)
    let output := output.push (UInt8.ofNat count) |>.push (UInt8.ofNat (count / 256))
    let output :=
      output.push (UInt8.ofNat (65535 - count)) |>.push (UInt8.ofNat ((65535 - count) / 256))
    let output := output ++ input.extract place (place + count)
    if isLast then output else storedBlocks input fuel (place + count) output

/-- A number as four bytes, the most significant first. -/
def bigEndian (number : Nat) : List UInt8 :=
  [UInt8.ofNat (number / 2 ^ 24), UInt8.ofNat (number / 2 ^ 16), UInt8.ofNat (number / 2 ^ 8),
   UInt8.ofNat number]

/-- A zlib stream that expands to the input. -/
def run (level : Nat) (input : ByteArray) : ByteArray :=
  let blocks :=
    if level = 0 then storedBlocks input (input.size + 1) 0 ByteArray.empty
    else
      let symbols := (cut input).map Cut.symbols
      let fixed := fixedBlock symbols
      let own := ownBlock symbols
      if own.size < fixed.size then own else fixed
  let front : ByteArray := ⟨#[0x78, 0x9C]⟩
  front ++ blocks ++ ⟨(bigEndian (Adler.checksum input)).toArray⟩

end DocumentDriver.Deflate
