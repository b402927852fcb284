/-! Looking for something in a text: a part of it, or a match of a pattern.
What a pattern is and where it matches is not said here. Whoever evaluates expressions brings it
along as `Patterns`. -/

namespace Warrant

/-- Whether `part` occurs in `whole` without a gap. -/
def occursIn (part : List Char) : List Char → Bool
  | [] => part.isEmpty
  | c :: rest => part.isPrefixOf (c :: rest) || occursIn part rest

/-- How patterns are searched for. -/
class Patterns where
  /-- Whether a pattern matches somewhere in a text, or what is wrong with the pattern. -/
  search (pattern text : String) : Except String Bool

end Warrant
