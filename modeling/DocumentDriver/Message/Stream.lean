/-
This file reads messages off a stream of bytes, one after the other. A header is read first, and
the rest of a message only if its declared length is acceptable; a stream that ends inside a
message was closed by the peer.
-/

import DocumentDriver.Message.Compression

namespace DocumentDriver

/-- What one attempt to read a message gave, and the bytes that are left after it. -/
structure Attempt (Result : Type) where
  result : Except Error Result
  rest : Bytes

namespace Stream

/-- Reads the bytes of one message. -/
def readBytes (stream : Bytes) (max : Nat) : Attempt Bytes :=
  let front := stream.take headerLength
  if front.length < headerLength then ⟨.error .connectionClosed, []⟩
  else
    let rest := stream.drop headerLength
    match Header.parse front max with
    | .error error => ⟨.error error, rest⟩
    | .ok header =>
      let body := rest.take header.bodyLength
      if body.length < header.bodyLength then ⟨.error .connectionClosed, []⟩
      else ⟨.ok (front ++ body), rest.drop header.bodyLength⟩

/-- Reads one message, restored if it was compressed. -/
def read (stream : Bytes) (max : Nat) (registry : CompressorRegistry) : Attempt Message :=
  let attempt := readBytes stream max
  ⟨attempt.result >>= fun bytes => Message.ofBytes bytes max registry, attempt.rest⟩

/-- Writes messages one after the other. -/
def write : List Message → Written
  | [] => .ok []
  | first :: rest => do
    let bytes ← first.serialize
    return bytes ++ (← write rest)

/-- Reads until the first error. Every success takes at least one byte, so there are no more of
them than bytes. -/
def readAll {Result : Type} (attempt : Bytes → Attempt Result) :
    Nat → Bytes → List (Attempt Result)
  | 0, stream => [attempt stream]
  | fuel + 1, stream =>
    let next := attempt stream
    match next.result with
    | .error _ => [next]
    | .ok _ => next :: readAll attempt fuel next.rest

end Stream

end DocumentDriver
