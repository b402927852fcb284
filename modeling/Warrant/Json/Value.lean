import Warrant.Text.Quoted

/-! JSON values and their text over several lines.
Of numbers only integers matter here. `other` is a value with nothing to read in it: a number that
is no integer, a string that holds half of a surrogate pair, or an object with such a name. It can
be skipped and that is all. -/

namespace Warrant

inductive Json where
  | null
  | bool (b : Bool)
  | int (i : Int)
  | str (s : String)
  | arr (elements : List Json)
  | obj (fields : List (String × Json))
  | other
  deriving Inhabited

namespace Json

/-- A character between quotes. Only quotes, backslashes and control characters are escaped. -/
def escape (c : Char) : List Char :=
  match c with
  | '"' => ['\\', '"']
  | '\\' => ['\\', '\\']
  | '\n' => ['\\', 'n']
  | '\r' => ['\\', 'r']
  | '\t' => ['\\', 't']
  | '\x08' => ['\\', 'b']
  | '\x0c' => ['\\', 'f']
  | c =>
    if c < ' ' then
      ['\\', 'u', '0', '0', Text.hexDigit (c.toNat / 16), Text.hexDigit (c.toNat % 16)]
    else [c]

def quote (s : String) : List Char := '"' :: s.toList.flatMap escape ++ ['"']

/-- A new line at a depth of nesting. -/
def newLine (depth : Nat) : List Char := '\n' :: List.replicate (2 * depth) ' '

mutual

/-- The text of a value that stands at a depth of nesting. -/
def print (depth : Nat) : Json → List Char
  | .null | .other => ['n', 'u', 'l', 'l']
  | .bool true => ['t', 'r', 'u', 'e']
  | .bool false => ['f', 'a', 'l', 's', 'e']
  | .int i => (toString i).toList
  | .str s => quote s
  | .arr [] => ['[', ']']
  | .arr (first :: rest) =>
    '[' :: newLine (depth + 1) ++ print (depth + 1) first ++ printRest (depth + 1) rest ++
      newLine depth ++ [']']
  | .obj [] => ['\x7b', '\x7d']
  | .obj ((name, first) :: rest) =>
    '\x7b' :: newLine (depth + 1) ++ quote name ++ [':', ' '] ++ print (depth + 1) first ++
      printFields (depth + 1) rest ++ newLine depth ++ ['\x7d']

/-- Each element after a comma, on a line of its own. -/
def printRest (depth : Nat) : List Json → List Char
  | [] => []
  | v :: rest => ',' :: newLine depth ++ print depth v ++ printRest depth rest

def printFields (depth : Nat) : List (String × Json) → List Char
  | [] => []
  | (name, v) :: rest =>
    ',' :: newLine depth ++ quote name ++ [':', ' '] ++ print depth v ++ printFields depth rest

end

/-- The text of a value, two spaces to a level. -/
def render (v : Json) : String := .ofList (v.print 0)

end Json

end Warrant
