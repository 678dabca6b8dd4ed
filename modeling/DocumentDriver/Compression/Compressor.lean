/-
This file holds the compressors that a client can use. A compressor is a pair of functions with a
number, by which messages refer to it, and a name, by which client and server agree on it. Two are
known from the start: one that leaves the bytes as they are, and zlib.
-/

import DocumentDriver.Compression.Deflate
import DocumentDriver.Compression.Inflate
import DocumentDriver.Document.Encode

namespace DocumentDriver

/-- A way to make byte strings shorter and to restore them. -/
structure Compressor where
  id : UInt8
  name : String
  compress : Bytes → Written
  /-- Restores a byte string that must have the given length. -/
  decompress : Bytes → Nat → Written

namespace Compressor

/-- Leaves the bytes as they are. -/
def noop : Compressor where
  id := 0
  name := "noop"
  compress bytes := .ok bytes
  decompress bytes size :=
    if bytes.length = size then .ok bytes
    else .error (.compression s!"noop payload is {bytes.length} bytes, expected {size}")

/-- The number of bytes that a stream is expanded to before the length is looked at: whole
windows, enough of them to hold one byte more than expected. -/
def expansionLimit (size : Nat) : Nat := Deflate.windowSize * (size / Deflate.windowSize + 1)

/-- Expands a zlib stream that must have the given length. One byte more than expected is read, so
a longer stream is found out without expanding all of it. -/
def inflate (bytes : Bytes) (size : Nat) : Written :=
  let (result, output) := Inflate.run ⟨bytes.toArray⟩ (expansionLimit size)
  let failed := match result with
    | .error .damaged => true
    | .error .truncated => output.size ≤ size
    | .error .full | .ok () => false
  let length := min output.size (size + 1)
  if failed then .error (.compression "zlib decompression failed")
  else if length = size then .ok (output.data.toList.take size)
  else .error (.compression s!"zlib payload inflated to {length} bytes, expected {size}")

/-- The zlib format, at a level from 0 to 9. -/
def zlib (level : Nat) : Compressor where
  id := 2
  name := "zlib"
  compress bytes := .ok (Deflate.run level ⟨bytes.toArray⟩).data.toList
  decompress := inflate

/-- The level of zlib unless the caller chooses another. -/
def defaultLevel : Nat := 6

end Compressor

/-- Equality of names, in which ASCII letters count as equal in either case. -/
def sameName (left right : String) : Bool :=
  left.toList.map Char.toLower == right.toList.map Char.toLower

/-- The compressors that are known, each number at most once. -/
structure CompressorRegistry where
  compressors : List Compressor

namespace CompressorRegistry

/-- The compressors that are known from the start. -/
def default : CompressorRegistry := ⟨[.noop, .zlib Compressor.defaultLevel]⟩

/-- Adds a compressor, or puts it in the place of the one with its number. -/
def register (registry : CompressorRegistry) (compressor : Compressor) : CompressorRegistry :=
  if registry.compressors.any (·.id == compressor.id) then
    ⟨registry.compressors.map fun known => if known.id == compressor.id then compressor else known⟩
  else ⟨registry.compressors ++ [compressor]⟩

/-- The compressor with a number. -/
def get? (registry : CompressorRegistry) (id : UInt8) : Option Compressor :=
  registry.compressors.find? (·.id == id)

/-- The compressor with a name. -/
def byName? (registry : CompressorRegistry) (name : String) : Option Compressor :=
  registry.compressors.find? fun compressor => sameName compressor.name name

/-- The first compressor of the client's list that the server has too and that is known. -/
def negotiate (registry : CompressorRegistry) (preferred server : List String) :
    Option Compressor :=
  (preferred.filter fun name => server.any (sameName · name)).findSome? registry.byName?

end CompressorRegistry

/-- The commands whose messages are never compressed, since they shake hands or carry secrets. -/
def uncompressedCommands : List String :=
  ["hello", "ismaster", "saslstart", "saslcontinue", "getnonce", "authenticate", "createuser",
   "updateuser", "copydbsaslstart", "copydbgetnonce", "copydb"]

/-- Whether a message that carries a command may be compressed. -/
def Document.isCompressible (command : Document) : Bool :=
  match command.firstKey? with
  | none => true
  | some name => !uncompressedCommands.any (sameName · name)

end DocumentDriver
