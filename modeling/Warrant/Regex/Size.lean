import Warrant.Regex.Node

/-! How large a pattern becomes.
A pattern is run by automata that read the bytes of a text, one forward and one backward, and it is
refused if one of them would take too much. A state takes `stateSize`, and in addition
`transitionSize` for each transition or `branchSize` for each branch that it lists. Repetitions are
written out, so what counts is how many states a set takes and how often it is repeated. -/

namespace Warrant.Regex

inductive Direction where
  | forward
  | backward
  deriving Repr, DecidableEq

def stateSize : Nat := 32

def transitionSize : Nat := 8

def branchSize : Nat := 4

/-- A choice between two ways to go on. -/
def choiceSize : Nat := stateSize + 2 * branchSize

/-! Characters as bytes. -/

/-- The ranges of bytes in one place after another. -/
abbrev ByteRanges := List (Nat × Nat)

/-- The bytes of the code points from `first` to `last`, which have `following` bytes after the
first. `mark` is added to the first byte and says how many these are. -/
def byteRanges (mark : Nat) : (following first last : Nat) → List ByteRanges
  | 0, first, last => [[(mark + first, mark + last)]]
  | n + 1, first, last =>
    let block := 64 ^ (n + 1)
    let i := first / block
    let j := last / block
    let within (i j first last : Nat) : List ByteRanges :=
      (byteRanges 0x80 n first last).map ((mark + i, mark + j) :: ·)
    if i = j then within i i (first % block) (last % block)
    else
      -- the first and the last block may be there in part, those between them are whole
      let low := if first % block = 0 then i else i + 1
      let high := if last % block = block - 1 then j else j - 1
      (if i < low then within i i (first % block) (block - 1) else []) ++
        (if low ≤ high then within low high 0 (block - 1) else []) ++
        (if high < j then within j j 0 (last % block) else [])

/-- The code points whose first byte has the same mark: the first and the last of them, how many
bytes follow, and the mark. No text has the code points that are left out. -/
def encodings : List (Nat × Nat × Nat × Nat) :=
  [(0, 0x7f, 0, 0), (0x80, 0x7ff, 1, 0xc0), (0x800, 0xd7ff, 2, 0xe0), (0xe000, 0xffff, 2, 0xe0),
   (0x10000, lastCode, 3, 0xf0)]

/-- The bytes of the characters of a set, in ascending order. -/
def CharSet.byteRanges (set : CharSet) : List ByteRanges :=
  set.ranges.flatMap fun (first, last) => encodings.flatMap fun (low, high, following, mark) =>
    let first := max first low
    let last := min last high
    if first ≤ last then Regex.byteRanges mark following first last else []

/-- What may follow the first byte, for each range that this may be in. -/
def tails (l : List ByteRanges) : List (List ByteRanges) :=
  (l.splitBy (·.head? == ·.head?)).map (·.map (·.drop 1))

/-- What is left to be read after each way through the bytes, `places` of them at most. -/
def remainders : (places : Nat) → List ByteRanges → List (List ByteRanges)
  | 0, _ => []
  | places + 1, l =>
    if l.all List.isEmpty then [] else l :: (tails l).flatMap (remainders places)

namespace CharSet

/-- The size of an automaton for a set that is no single character. Forward, states from which the
same is left to be read are one; backward, sequences share what they begin with, and a state chooses
between them. -/
def sizeOfMany (direction : Direction) (set : CharSet) : Nat :=
  if set.ranges.all (·.2 ≤ 0x7f) then 2 * stateSize + transitionSize * set.ranges.length
  else
    let ways := remainders 4 set.byteRanges
    match direction with
    | .forward =>
      ways.eraseDups.foldl (fun size l => size + stateSize + transitionSize * (tails l).length)
        stateSize
    | .backward =>
      ways.foldl (fun size l => size + stateSize * (tails l).length)
        (2 * stateSize + branchSize * set.byteRanges.length)

/-- The size of an automaton for a set. A single character is read byte by byte. -/
def size (direction : Direction) (set : CharSet) : Nat :=
  match set.ranges with
  | [(first, last)] =>
    if first = last then stateSize * (Char.ofNat first).utf8Size else set.sizeOfMany direction
  | _ => set.sizeOfMany direction

end CharSet

namespace Node

/-- The size of the automaton of a pattern. -/
def size (direction : Direction) : Node → Nat
  | .empty | .look _ => stateSize
  | .char set => set.size direction
  | .seq first second => first.size direction + second.size direction
  | .either left right =>
    -- all branches of an alternative share one choice and one end
    let more := match right with
      | .either .. => branchSize
      | _ => choiceSize + stateSize
    left.size direction + right.size direction + more
  | .loop body least most =>
    let once := body.size direction
    match least, most with
    | 0, some 1 => once + choiceSize + stateSize
    | 0, none => once + choiceSize + if body.mayBeEmpty then choiceSize + stateSize else 0
    | n, none => n * once + choiceSize
    | n, some m =>
      (if n = 0 then stateSize else n * once) +
        if n = m then 0 else (m - n) * (once + choiceSize) + stateSize
  | .group body =>
    body.size direction + match direction with
      | .forward => 2 * stateSize
      | .backward => 0

end Node

end Warrant.Regex
