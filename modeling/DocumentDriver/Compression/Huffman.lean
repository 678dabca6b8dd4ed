/-
This file holds prefix codes whose words are determined by their lengths: words of one length are
consecutive numbers, given out in the order of the symbols, and shorter words come first. A code
is read by comparing the bits so far with the first word of each length, and made for given
frequencies by joining the lightest parts a bounded number of times.
-/

namespace DocumentDriver.Huffman

/-- The longest word of any code. -/
def maxLength : Nat := 15

/-- A code: how many words each length from 1 up has, and the symbols in the order of their
words. -/
structure Code where
  counts : List Nat
  symbols : Array Nat

/-- How many symbols have a word of each length from 1 up. -/
def countLengths (lengths : Array Nat) : List Nat :=
  (List.range maxLength).map fun index =>
    lengths.foldl (fun count length => if length = index + 1 then count + 1 else count) 0

/-- The code in which each symbol has a word of the given length, or none for length 0. -/
def Code.ofLengths (lengths : Array Nat) : Code where
  counts := countLengths lengths
  symbols :=
    ((List.range maxLength).flatMap fun index =>
      (List.range lengths.size).filter fun symbol => lengths.getD symbol 0 = index + 1).toArray

/-- The number of symbols that have a word. -/
def Code.used (code : Code) : Nat := code.symbols.size

/-- Every sequence of bits begins with a word: the words fill the space of the longest ones. -/
def Code.isComplete (code : Code) : Bool :=
  code.counts.foldl (fun total count => 2 * (total + count)) 0 = 1 <<< (maxLength + 1)

/-- The word of each symbol, as its bits from first to last. -/
def words (lengths : Array Nat) : Array (List Bool) :=
  let starts := (List.range maxLength).foldl
    (fun (starts : Array Nat) index =>
      let before := (countLengths lengths).getD (index - 1) 0
      starts.push (if index = 0 then 0 else 2 * (starts.getD (index - 1) 0 + before)))
    #[]
  let assigned := (List.range lengths.size).foldl
    (fun (state : Array Nat × Array (List Bool)) symbol =>
      let length := lengths.getD symbol 0
      if length = 0 then (state.1, state.2.push [])
      else
        let word := state.1.getD (length - 1) 0
        let bits := (List.range length).map fun place => word.testBit (length - 1 - place)
        (state.1.set! (length - 1) (word + 1), state.2.push bits))
    (starts, #[])
  assigned.2

/-! ### Lengths for given frequencies -/

/-- Merges two lists that are sorted by weight. -/
def mergeByWeight : Nat → List (Nat × List Nat) → List (Nat × List Nat) → List (Nat × List Nat)
  | 0, _, _ => []
  | _ + 1, [], right => right
  | _ + 1, left, [] => left
  | fuel + 1, left :: leftRest, right :: rightRest =>
    if left.1 ≤ right.1 then left :: mergeByWeight fuel leftRest (right :: rightRest)
    else right :: mergeByWeight fuel (left :: leftRest) rightRest

/-- Joins neighbours in pairs. An odd one out is dropped. -/
def joinPairs : List (Nat × List Nat) → List (Nat × List Nat)
  | first :: second :: rest => (first.1 + second.1, first.2 ++ second.2) :: joinPairs rest
  | _ => []

/-- The lists of packages after a number of rounds. -/
def packages (leaves : List (Nat × List Nat)) : Nat → List (Nat × List Nat)
  | 0 => leaves
  | round + 1 =>
    let pairs := joinPairs (packages leaves round)
    mergeByWeight (leaves.length + pairs.length + 1) leaves pairs

/-- The lengths of the words of a code that is as short as any for the given frequencies among
those with words no longer than `limit`. A symbol that never occurs has length 0. -/
def lengthsFor (limit : Nat) (frequencies : Array Nat) : Array Nat :=
  let leaves := ((List.range frequencies.size).filterMap fun symbol =>
    let frequency := frequencies.getD symbol 0
    if frequency = 0 then none else some (frequency, [symbol])).mergeSort
      fun left right => decide (left.1 ≤ right.1)
  let none := Array.replicate frequencies.size 0
  match leaves with
  | [] => none
  | [(_, only)] => only.foldl (fun lengths symbol => lengths.set! symbol 1) none
  | _ =>
    let chosen := (packages leaves (limit - 1)).take (2 * (leaves.length - 1))
    chosen.foldl
      (fun lengths package =>
        package.2.foldl
          (fun lengths symbol => lengths.set! symbol (lengths.getD symbol 0 + 1)) lengths)
      none

end DocumentDriver.Huffman
