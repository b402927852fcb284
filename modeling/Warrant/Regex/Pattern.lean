import Warrant.Regex.Size
import Warrant.Text.Search

/-! Reading a pattern.
The reader goes through the pattern once, with the flags that are set where it stands; a group
gives them back when it closes. It answers nothing for a pattern that is malformed, nests deeper
than `depthLimit` or would grow past `sizeLimit`. Every loop is given fuel by the length of the
pattern, and takes at least one character for each two units of it. -/

namespace Warrant.Regex

structure Flags where
  ignoreCase : Bool := false
  multiLine : Bool := false
  dotAll : Bool := false
  crlf : Bool := false
  unicode : Bool := true
  /-- Blanks and comments do not count. -/
  verbose : Bool := false

structure Cursor where
  rest : List Char
  flags : Flags := {}
  /-- The names of the groups so far. -/
  names : List String := []

abbrev Scan := StateT Cursor Option

namespace Scan

def isBlank (c : Char) : Bool := Unicode.Property.whiteSpace.has c

/-- Leaves out blanks, and comments from `#` to the end of the line. -/
def afterBlanks (inComment : Bool) : List Char → List Char
  | [] => []
  | c :: rest =>
    if inComment then afterBlanks (c != '\n') rest
    else if c == '#' then afterBlanks true rest
    else if isBlank c then afterBlanks false rest
    else c :: rest

def flags : Scan Flags := return (← get).flags

def setFlags (flags : Flags) : Scan Unit := modify ({ · with flags })

def rest : Scan (List Char) := return (← get).rest

def setRest (rest : List Char) : Scan Unit := modify ({ · with rest })

def peek? : Scan (Option Char) := return (← rest).head?

def peek : Scan Char := do
  let some c ← peek? | failure
  return c

def skip : Scan Unit := do setRest ((← rest).drop 1)

def skipBlanks : Scan Unit := do
  if (← flags).verbose then setRest (afterBlanks false (← rest))

/-- Past one character and what does not count after it. -/
def advance : Scan Unit := do skip; skipBlanks

/-- The same, where the pattern may not end. -/
def advanceWithin : Scan Unit := do advance; discard peek

/-- Takes `text` if it comes next. -/
def accept (text : String) : Scan Bool := do
  let pattern := text.toList
  if pattern.isPrefixOf (← rest) then
    setRest ((← rest).drop pattern.length)
    return true
  return false

/-- The character after the next one that counts. -/
def peekSecond? : Scan (Option Char) := do
  let after := (← rest).drop 1
  return (if (← flags).verbose then afterBlanks false after else after).head?

def digitValue? (base : Nat) (c : Char) : Option Nat :=
  let value :=
    if c.isDigit then c.toNat - '0'.toNat
    else if 'a' ≤ c && c ≤ 'f' then c.toNat - 'a'.toNat + 10
    else if 'A' ≤ c && c ≤ 'F' then c.toNat - 'A'.toNat + 10
    else base
  if value < base then some value else none

def valueOf (base : Nat) (digits : List Nat) : Nat := digits.foldl (· * base + ·) 0

/-- The digits from here on, with what does not count between them. -/
def decimalDigits : (fuel : Nat) → Scan (List Nat)
  | 0 => return []
  | fuel + 1 => do
    match (← peek?).bind (digitValue? 10) with
    | none => return []
    | some d =>
      advance
      return d :: (← decimalDigits fuel)

/-- A count below `2 ^ 32`, with blanks allowed around it. -/
def count : Scan Nat := do
  setRest ((← rest).dropWhile isBlank)
  let digits ← decimalDigits (← rest).length
  setRest ((← rest).dropWhile isBlank)
  skipBlanks
  let n := valueOf 10 digits
  if digits.isEmpty || UInt32.size ≤ n then failure
  return n

/-- The character with a number, if it is one. -/
def charOf (n : Nat) : Scan Char := if n.isValidChar then return .ofNat n else failure

/-- Exactly as many digits in base sixteen as are asked for. -/
def hexDigits : (places : Nat) → Scan (List Nat)
  | 0 => return []
  | places + 1 => do
    let some d := digitValue? 16 (← peek) | failure
    advance
    return d :: (← hexDigits places)

/-- Digits in base sixteen up to the closing brace. -/
def hexBraced : (fuel : Nat) → Scan (List Nat)
  | 0 => failure
  | fuel + 1 => do
    let c ← peek
    if c == '\x7d' then
      advance
      return []
    let some d := digitValue? 16 c | failure
    advance
    return d :: (← hexBraced fuel)

/-- A character by number, after `x`, `u` or `U`. Also answers whether it was written with exactly
two digits, which outside of Unicode means a byte. -/
def charByNumber (kind : Char) : Scan (Char × Bool) := do
  advanceWithin
  if (← peek) == '\x7b' then
    advance
    let digits ← hexBraced ((← rest).length + 1)
    if digits.isEmpty then failure
    return (← charOf (valueOf 16 digits), false)
  let places := if kind == 'x' then 2 else if kind == 'u' then 4 else 8
  return (← charOf (valueOf 16 (← hexDigits places)), kind == 'x')

/-- The text up to the closing brace. -/
def braced : (fuel : Nat) → Scan (List Char)
  | 0 => failure
  | fuel + 1 => do
    let c ← peek
    if c == '\x7d' then
      skip
      return []
    advance
    return c :: (← braced fuel)

/-- Splits at the first place where `mark` stands. -/
def splitAt? (mark : List Char) : List Char → Option (List Char × List Char)
  | [] => none
  | c :: rest =>
    if mark.isPrefixOf (c :: rest) then some ([], (c :: rest).drop mark.length)
    else (splitAt? mark rest).map fun (before, after) => (c :: before, after)

/-- The set that a name between braces stands for, and whether it is named by what is not in
it. -/
def bracedSet? (name : List Char) : Option (CharSet × Bool) :=
  let setBy? (negated : Bool) (mark : List Char) : Option (Option (CharSet × Bool)) :=
    (splitAt? mark name).map fun (kind, value) =>
      (CharSet.namedBy? (.ofList kind) (.ofList value)).map (·, negated)
  ((setBy? true ['!', '='] <|> setBy? false [':'] <|> setBy? false ['=']).getD
    ((CharSet.named? (.ofList name)).map (·, false)))

/-- Folds a set if case is to be ignored. -/
def caseFolded (set : CharSet) : Scan CharSet := do
  let f ← flags
  return if f.ignoreCase then (if f.unicode then .folded set else .foldedAscii set) else set

/-- The complement, which only Unicode knows: bytes beyond ASCII are no text. -/
def negatedIf (negated : Bool) (set : CharSet) : Scan CharSet := do
  if !negated then return set
  if !(← flags).unicode then failure
  return .compl set

/-- A set by its Unicode name, after `p` or `P`. -/
def namedSet (negated : Bool) : Scan CharSet := do
  advanceWithin
  let c ← peek
  let set? ← do
    if c == '\x7b' then
      advance
      pure (bracedSet? (← braced ((← rest).length + 1)))
    else if c == '\\' then failure
    else
      advance
      pure ((CharSet.named? (.singleton c)).map (·, false))
  let some (set, flipped) := set? | failure
  if !(← flags).unicode then failure
  negatedIf (negated != flipped) (← caseFolded set)

/-- One of the sets `d`, `s` and `w`, or in capitals its complement. -/
def shorthandSet (c : Char) : Scan CharSet := do
  skip
  let unicode := (← flags).unicode
  let set := match c.toLower with
    | 'd' => if unicode then CharSet.digit else .asciiDigit
    | 's' => if unicode then CharSet.space else .asciiSpace
    | _ => if unicode then CharSet.word else .asciiWord
  negatedIf c.isUpper set

/-- What one element of a pattern can be, inside of brackets or outside. -/
inductive Element where
  /-- A character; `isByte` if it was written as a byte. -/
  | char (c : Char) (isByte : Bool)
  | set (s : CharSet)
  | look (l : Look)

/-- The name between braces after `\b`. If what follows the brace cannot be one, the brace is left
for a count. -/
def edgeName : Scan (Option WordEdge) := do
  let start ← get
  let isNamed (c : Char) : Bool := c.isAlpha || c == '-'
  advanceWithin
  if !isNamed (← peek) then
    set start
    return none
  let rec letters : (fuel : Nat) → Scan (List Char)
    | 0 => return []
    | fuel + 1 => do
      match ← peek? with
      | none => return []
      | some c =>
        if isNamed c then
          advance
          return c :: (← letters fuel)
        else return []
  let name ← letters (← rest).length
  if (← peek) != '\x7d' then failure
  skip
  match String.ofList name with
  | "start" => return some .start
  | "end" => return some .finish
  | "start-half" => return some .startHalf
  | "end-half" => return some .finishHalf
  | _ => failure

/-- Characters that a backslash takes literally. -/
def isEscapable (c : Char) : Bool := c ≤ '\x7f' && !c.isAlphanum && c != '<' && c != '>'

/-- What a backslash and the characters after it stand for. -/
def escape : Scan Element := do
  skip
  let c ← peek
  let unicode := (← flags).unicode
  if c == 'x' || c == 'u' || c == 'U' then
    let (c, isByte) ← charByNumber c
    return .char c isByte
  if c == 'p' || c == 'P' then return .set (← namedSet (c == 'P'))
  if "dswDSW".contains c then return .set (← shorthandSet c)
  skip
  if isEscapable c then return .char c false
  match c with
  | 'a' => return .char '\x07' false
  | 'f' => return .char '\x0c' false
  | 't' => return .char '\t' false
  | 'n' => return .char '\n' false
  | 'r' => return .char '\r' false
  | 'v' => return .char '\x0b' false
  | 'A' => return .look .textStart
  | 'z' => return .look .textEnd
  | 'B' => return .look (.word .inside unicode)
  | '<' => return .look (.word .start unicode)
  | '>' => return .look (.word .finish unicode)
  | 'b' =>
    let edge ← if (← peek?) == some '\x7b' then edgeName else pure none
    return .look (.word (edge.getD .boundary) unicode)
  | _ => failure

/-- A character as a set; a byte beyond ASCII is no text. -/
def literal (c : Char) (isByte : Bool) : Scan CharSet := do
  if isByte && '\x7f' < c && !(← flags).unicode then failure
  caseFolded (.one c)

/-! Sets in brackets. Each comes with its depth of nesting. -/

/-- A character between brackets, which without Unicode is one of ASCII. -/
def member (c : Char) : Scan Char := do
  if '\x7f' < c && !(← flags).unicode then failure
  return c

/-- What stands between brackets in one place: a character or an escape. -/
def bracketElement : Scan Element := do
  let c ← peek
  if c == '\\' then escape
  else
    skip
    return .char c false

/-- A character, a set or a range. -/
def bracketRange : Scan CharSet := do
  let first ← bracketElement
  skipBlanks
  let next ← peek
  let second ← peekSecond?
  if next != '-' || second == some ']' || second == some '-' then
    match first with
    | .char c _ => return .one (← member c)
    | .set s => return s
    | .look _ => failure
  advanceWithin
  let last ← bracketElement
  match first, last with
  | .char first _, .char last _ =>
    if last < first then failure
    return .range (← member first) (← member last)
  | _, _ => failure

/-- A named set of ASCII, `[:alpha:]`; if what stands there is none, nothing is taken. -/
def asciiSet : Scan (Option CharSet) := do
  let start ← get
  let giveUp : Scan (Option CharSet) := do set start; return none
  skip
  if !(← accept ":") then return ← giveUp
  let negated ← accept "^"
  let name := (← rest).takeWhile (· != ':')
  setRest ((← rest).dropWhile (· != ':'))
  if !(← accept ":]") then return ← giveUp
  match CharSet.ascii? (.ofList name) with
  | none => giveUp
  | some set => return some (← negatedIf negated (← caseFolded set))

/-- The ways to put two sets together. -/
def combiner? (first second : Option Char) : Option (CharSet → CharSet → CharSet) :=
  match first, second with
  | some '&', some '&' => some .inter
  | some '-', some '-' => some .diff
  | some '~', some '~' => some .symmDiff
  | _, _ => none

/-- What is read of a set in brackets: the sets of the part being read, and the parts before it
with how they go together with it. -/
structure Bracket where
  negated : Bool
  items : List (CharSet × Nat) := []
  before : Option ((CharSet → CharSet → CharSet) × CharSet × Nat) := none

namespace Bracket

/-- The union of the part being read. -/
def part (b : Bracket) : CharSet × Nat :=
  match b.items with
  | [] => (.none, 0)
  | [item] => item
  | items => (items.foldl (fun set item => .union item.1 set) .none,
      1 + items.foldl (fun d item => max d item.2) 0)

/-- All that was read as one set. -/
def joined (b : Bracket) : Scan (CharSet × Nat) := do
  let (set, depth) := b.part
  match b.before with
  | none => return (set, depth)
  | some (combine, left, leftDepth) =>
    return (combine (← caseFolded left) (← caseFolded set), 1 + max leftDepth depth)

def push (b : Bracket) (set : CharSet) (depth : Nat) : Bracket :=
  { b with items := (set, depth) :: b.items }

end Bracket

/-- The hyphens that open a set in brackets, which stand for themselves. -/
def leadingHyphens : (fuel : Nat) → Bracket → Scan Bracket
  | 0, b => return b
  | fuel + 1, b => do
    if (← peek) == '-' then
      advanceWithin
      leadingHyphens fuel (b.push (.one '-') 0)
    else return b

/-- The opening of a set in brackets. A bracket that would close it at once stands for itself. -/
def openBracket : Scan Bracket := do
  advanceWithin
  let negated := (← peek) == '^'
  if negated then advanceWithin
  let b ← leadingHyphens (← rest).length { negated }
  if b.items.isEmpty && (← peek) == ']' then
    advanceWithin
    return b.push (.one ']') 0
  return b

/-- The rest of a set in brackets. -/
def bracketRest : (fuel : Nat) → Bracket → Scan (CharSet × Nat)
  | 0, _ => failure
  | fuel + 1, b => do
    skipBlanks
    let c ← peek
    if c == ']' then
      skip
      let (set, depth) ← b.joined
      return (← negatedIf b.negated (← caseFolded set), depth + 1)
    if c == '[' then
      match ← asciiSet with
      | some set => bracketRest fuel (b.push set 0)
      | none =>
        let (set, depth) ← bracketRest fuel (← openBracket)
        bracketRest fuel (b.push set depth)
    else
      match combiner? (some c) ((← rest).drop 1).head? with
      | some combine =>
        skip
        skip
        let (set, depth) ← b.joined
        bracketRest fuel { negated := b.negated, before := some (combine, set, depth) }
      | none => bracketRest fuel (b.push (← bracketRange) 0)

/-! Sequences, alternatives and groups. -/

/-- An element of a sequence, with its depth of nesting. A change of flags is one that cannot be
repeated. -/
structure Item where
  node : Node
  depth : Nat := 0
  repeatable : Bool := true

/-- A sequence, given with its last element first. -/
def sequence : List Item → Node × Nat
  | [] => (.empty, 0)
  | [item] => (item.node, item.depth)
  | items => (items.foldl (fun node item => .followedBy item.node node) .empty,
      1 + items.foldl (fun d item => max d item.depth) 0)

/-- Sets flags from the letters up to `:` or `)`; after a hyphen they are turned off. -/
def flagLetters : (fuel : Nat) → (seen : List Char) → Flags → Scan (Flags × List Char)
  | 0, _, _ => failure
  | fuel + 1, seen, f => do
    let c ← peek
    if c == ':' || c == ')' then
      if seen.head? == some '-' then failure
      return (f, seen)
    if seen.contains c then failure
    let on := !seen.contains '-'
    skip
    let f ← match c with
      | '-' => pure f
      | 'i' => pure { f with ignoreCase := on }
      | 'm' => pure { f with multiLine := on }
      | 's' => pure { f with dotAll := on }
      | 'R' => pure { f with crlf := on }
      | 'u' => pure { f with unicode := on }
      | 'x' => pure { f with verbose := on }
      | 'U' => pure f
      | _ => failure
    flagLetters fuel (c :: seen) f

/-- Whether a character can stand in the name of a group. -/
def isNameChar (first : Bool) (c : Char) : Bool :=
  let letter := Unicode.Property.alphabetic.has c || c == '_'
  letter || (!first && ((Unicode.Category.of c).isNumber || c == '.' || c == '[' || c == ']'))

/-- The name of a group, up to the closing angle. No two groups have the same. -/
def groupName : Scan Unit := do
  let name := (← rest).takeWhile (· != '>')
  setRest ((← rest).dropWhile (· != '>'))
  if !(← accept ">") then failure
  let valid := match name with
    | [] => false
    | c :: more => isNameChar true c && more.all (isNameChar false)
  let name := String.ofList name
  if !valid || (← get).names.contains name then failure
  modify fun cursor => { cursor with names := name :: cursor.names }

/-- What an opening parenthesis starts: a group, or a change of flags to the end of the group it
stands in. -/
inductive Opening where
  /-- `kept` if the place of what it matches would be kept. -/
  | group (kept : Bool)
  | flags

def opening : Scan Opening := do
  skip
  skipBlanks
  for ahead in ["?=", "?!", "?<=", "?<!"] do
    if ahead.toList.isPrefixOf (← rest) then failure
  if (← accept "?P<") || (← accept "?<") then
    groupName
    return .group true
  if !(← accept "?") then return .group true
  let (f, seen) ← flagLetters ((← rest).length + 1) [] (← flags)
  let close ← peek
  skip
  setFlags f
  if close == ':' then return .group false
  if seen.isEmpty then failure
  return .flags

/-- Repeats the last element. -/
def repeatLast (items : List Item) (least : Nat) (most : Option Nat) : Scan (List Item) := do
  let item :: before := items | failure
  if !item.repeatable then failure
  return { node := .repeated item.node least most, depth := item.depth + 1 } :: before

/-- The bounds of a counted repetition, after the opening brace. -/
def bounds : Scan (Nat × Option Nat) := do
  advanceWithin
  let least ← count
  let most ← do
    if (← peek) == ',' then
      advanceWithin
      if (← peek) == '\x7d' then pure none else pure (some (← count))
    else pure (some least)
  if (← peek) != '\x7d' then failure
  advance
  if most.any (· < least) then failure
  return (least, most)

/-- One character of its own, a point, an edge of a line or an escape. -/
def primitive : Scan Node := do
  let f ← flags
  match ← peek with
  | '\\' =>
    match ← escape with
    | .char c isByte => return .char (← literal c isByte)
    | .set s => return .char s
    | .look l => return .look l
  | '.' =>
    skip
    if !f.unicode then failure
    if f.dotAll then return .char .any
    if f.crlf then return .char (.compl (.union (.one '\r') (.one '\n')))
    return .char (.compl (.one '\n'))
  | '^' =>
    skip
    return .look (if f.multiLine then (if f.crlf then .lineStartCrlf else .lineStart)
      else .textStart)
  | '$' =>
    skip
    return .look (if f.multiLine then (if f.crlf then .lineEndCrlf else .lineEnd) else .textEnd)
  | c =>
    skip
    return .char (← literal c false)

mutual

/-- A sequence up to a bar, a closing parenthesis or the end; `items` has its last element
first. -/
def branch : (fuel : Nat) → (items : List Item) → Scan (Node × Nat)
  | 0, _ => failure
  | fuel + 1, items => do
    skipBlanks
    let again (least : Nat) (most : Option Nat) : Scan (List Item) := do
      let items ← repeatLast items least most
      discard (accept "?")
      return items
    match ← peek? with
    | none | some '|' | some ')' => return sequence items
    | some '(' =>
      let outer ← flags
      match ← opening with
      | .flags => branch fuel ({ node := .empty, repeatable := false } :: items)
      | .group kept =>
        let (node, depth) ← alternatives fuel
        if !(← accept ")") then failure
        setFlags outer
        let node := if kept then .group node else node
        branch fuel ({ node, depth := depth + 1 } :: items)
    | some '[' =>
      let (set, depth) ← bracketRest ((← rest).length + 1) (← openBracket)
      branch fuel ({ node := .char set, depth } :: items)
    | some '?' => skip; branch fuel (← again 0 (some 1))
    | some '*' => skip; branch fuel (← again 0 none)
    | some '+' => skip; branch fuel (← again 1 none)
    | some '\x7b' =>
      if !(items.head?.any (·.repeatable)) then failure
      let (least, most) ← bounds
      branch fuel (← again least most)
    | some _ => branch fuel ({ node := ← primitive } :: items)

/-- Sequences with bars between them. -/
def alternatives : (fuel : Nat) → Scan (Node × Nat)
  | 0 => failure
  | fuel + 1 => do
    let (node, depth) ← branch fuel []
    if !(← accept "|") then return (node, depth)
    let (others, othersDepth) ← alternativesRest fuel
    return (.orElse node others, 1 + max depth othersDepth)

/-- What follows a bar, with the depth of its deepest sequence. -/
def alternativesRest : (fuel : Nat) → Scan (Node × Nat)
  | 0 => failure
  | fuel + 1 => do
    let (node, depth) ← branch fuel []
    if !(← accept "|") then return (node, depth)
    let (others, othersDepth) ← alternativesRest fuel
    return (.orElse node others, max depth othersDepth)

end

end Scan

/-- How deep groups, sets, repetitions and sequences may nest. -/
def depthLimit : Nat := 250

/-- The bytes that the automata of a pattern may take, each by itself. -/
def sizeLimit : Nat := 10 * 1024 * 1024

/-- The tree of a pattern, or nothing if it is not one that can be used. -/
def compile? (pattern : String) : Option Node := do
  let chars := pattern.toList
  let ((node, depth), cursor) ← (Scan.alternatives (2 * chars.length + 2)).run { rest := chars }
  let fits := node.size .forward ≤ sizeLimit && node.size .backward ≤ sizeLimit
  if cursor.rest.isEmpty && depth ≤ depthLimit && fits then some node else none

instance : Patterns where
  search pattern text :=
    match compile? pattern with
    | some node => .ok (node.matchesIn text)
    | none => .error "malformed or too large"

end Warrant.Regex
