import Warrant.Regex.CharSet
import Warrant.Sorted

/-! Patterns as trees, and where they match.
`ends` follows a set of positions through a pattern: from the places where a match may start to
the places where it may end. No choice is tried twice from one place, so the work stays bounded by
the sizes of text and pattern. -/

namespace Warrant.Regex

/-- Where a word is looked for around a position. -/
inductive WordEdge where
  | boundary
  | inside
  | start
  | finish
  /-- No word before. -/
  | startHalf
  /-- No word after. -/
  | finishHalf
  deriving Repr, DecidableEq

/-- A condition on a position. -/
inductive Look where
  | textStart
  | textEnd
  | lineStart
  | lineEnd
  /-- As `lineStart`, where a line ends in `\r`, in `\n` or in both. -/
  | lineStartCrlf
  | lineEndCrlf
  | word (edge : WordEdge) (unicode : Bool)
  deriving Repr, DecidableEq

inductive Node where
  | empty
  | char (set : CharSet)
  | look (condition : Look)
  | seq (first second : Node)
  | either (left right : Node)
  /-- At least `least` times the body and at most `most`. -/
  | loop (body : Node) (least : Nat) (most : Option Nat)
  /-- A part whose place in a match would be kept. -/
  | group (body : Node)

namespace WordEdge

def holds (before after : Bool) : WordEdge → Bool
  | .boundary => before != after
  | .inside => before == after
  | .start => !before && after
  | .finish => before && !after
  | .startHalf => !before
  | .finishHalf => !after

end WordEdge

namespace Look

/-- Whether the condition holds between these two characters; at an end of the text there is
none. -/
def holds (before after : Option Char) : Look → Bool
  | .textStart => before.isNone
  | .textEnd => after.isNone
  | .lineStart => before.isNone || before == some '\n'
  | .lineEnd => after.isNone || after == some '\n'
  | .lineStartCrlf =>
    before.isNone || before == some '\n' || (before == some '\r' && after != some '\n')
  | .lineEndCrlf =>
    after.isNone || after == some '\r' || (after == some '\n' && before != some '\r')
  | .word edge unicode =>
    let set := if unicode then CharSet.word else CharSet.asciiWord
    edge.holds (before.any set.contains) (after.any set.contains)

end Look

namespace Node

/-- Matches nothing but the empty text. -/
def isVoid : Node → Bool
  | .empty | .look _ => true
  | .char _ => false
  | .seq first second => first.isVoid && second.isVoid
  | .either left right => left.isVoid && right.isVoid
  | .loop body _ most => body.isVoid || most == some 0
  | .group body => body.isVoid

/-- Whether the empty text matches, wherever conditions hold. -/
def mayBeEmpty : Node → Bool
  | .empty | .look _ => true
  | .char _ => false
  | .seq first second => first.mayBeEmpty && second.mayBeEmpty
  | .either left right => left.mayBeEmpty || right.mayBeEmpty
  | .loop body least _ => least == 0 || body.mayBeEmpty
  | .group body => body.mayBeEmpty

/-- One after the other. -/
def followedBy : Node → Node → Node
  | .empty, second => second
  | first, .empty => first
  | first, second => .seq first second

/-- One or the other; of characters, a set. -/
def orElse : Node → Node → Node
  | .char left, .char right => .char (left.union right)
  | left, right => .either left right

/-- A loop; what matches only the empty text need not be taken more than once. -/
def repeated (body : Node) (least : Nat) (most : Option Nat) : Node :=
  if body.isVoid then .loop body (min least 1) (some (min (most.getD 1) 1))
  else .loop body least most

/-- Adds to `seen` what `step` reaches from it in at most `rounds` steps. Each round looks only at
the positions that the round before found. -/
def spread (step : List Nat → List Nat) : (rounds : Nat) → (seen fresh : List Nat) → List Nat
  | 0, seen, _ => seen
  | rounds + 1, seen, fresh =>
    match (step fresh).filter (!seen.contains ·) with
    | [] => seen
    | found => spread step rounds (Sorted.union found seen) found

/-- `times` steps from a set of positions, or nothing once nothing is left. -/
def steps (step : List Nat → List Nat) : (times : Nat) → List Nat → List Nat
  | 0, places => places
  | _ + 1, [] => []
  | times + 1, places => steps step times (step places)

/-- The positions at which a match that starts at one of `places` may end. -/
def ends (text : Array Char) : Node → List Nat → List Nat
  | .empty, places => places
  | .char set, places => places.filterMap fun i =>
    if (text[i]?).any set.contains then some (i + 1) else none
  | .look condition, places => places.filter fun i =>
    condition.holds (if i = 0 then none else text[i - 1]?) text[i]?
  | .seq first second, places => ends text second (ends text first places)
  | .either left right, places => Sorted.union (ends text left places) (ends text right places)
  | .loop body least most, places =>
    let start := steps (ends text body) least places
    spread (ends text body) (most.elim (text.size + 1) (· - least)) start start
  | .group body, places => ends text body places

/-- Whether the pattern matches somewhere in the text. -/
def matchesIn (node : Node) (text : String) : Bool :=
  let chars := text.toList.toArray
  !(node.ends chars (List.range (chars.size + 1))).isEmpty

end Node

end Warrant.Regex
