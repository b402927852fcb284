import Warrant.Json.Value

/-! Reading JSON text. -/

namespace Warrant.Json

/-- The four characters that may stand between the parts of a text. -/
def isBlank (c : Char) : Bool := c == ' ' || c == '\n' || c == '\t' || c == '\r'

def skipBlanks (cs : List Char) : List Char := cs.dropWhile isBlank

def hexValue? (c : Char) : Option Nat :=
  if c.isDigit then some (c.toNat - '0'.toNat)
  else if 'a' ≤ c && c ≤ 'f' then some (c.toNat - 'a'.toNat + 10)
  else if 'A' ≤ c && c ≤ 'F' then some (c.toNat - 'A'.toNat + 10)
  else none

/-- What a backslash and one character after it stand for. -/
def unescape? : Char → Option Char
  | '"' => some '"'
  | '\\' => some '\\'
  | '/' => some '/'
  | 'b' => some '\x08'
  | 'f' => some '\x0c'
  | 'n' => some '\n'
  | 'r' => some '\r'
  | 't' => some '\t'
  | _ => none

/-- The numbers of the characters of a string up to its closing quote, and what follows it. An
escape by number may give half of a surrogate pair. -/
def units : List Char → Option (List Nat × List Char)
  | [] => none
  | '"' :: rest => some ([], rest)
  | '\\' :: 'u' :: a :: b :: c :: d :: rest => do
    let high := (← hexValue? a) * 16 + (← hexValue? b)
    let low := (← hexValue? c) * 16 + (← hexValue? d)
    let (more, rest) ← units rest
    some ((high * 256 + low) :: more, rest)
  | '\\' :: c :: rest => do
    let c ← unescape? c
    let (more, rest) ← units rest
    some (c.toNat :: more, rest)
  | c :: rest => do
    if c < ' ' || c == '\\' then none
    let (more, rest) ← units rest
    some (c.toNat :: more, rest)

/-- Characters of numbers, surrogate pairs put together. -/
def characters : List Nat → Option (List Char)
  | [] => some []
  | [n] => if n.isValidChar then some [.ofNat n] else none
  | n :: m :: rest =>
    if n.isValidChar then (characters (m :: rest)).map (.ofNat n :: ·)
    else if n < 0xdc00 && 0xdc00 ≤ m && m < 0xe000 then
      (characters rest).map (.ofNat (0x10000 + (n - 0xd800) * 0x400 + (m - 0xdc00)) :: ·)
    else none

/-- A string after its opening quote: its text, if it has one, and what follows. -/
def string? (cs : List Char) : Option (Option String × List Char) :=
  (units cs).map fun (numbers, rest) => ((characters numbers).map .ofList, rest)

/-- One digit or more. -/
def digits? (cs : List Char) : Option (List Char × List Char) :=
  let digits := cs.takeWhile Char.isDigit
  if digits.isEmpty then none else some (digits, cs.dropWhile Char.isDigit)

/-- The part of a number after the point, if it has one. -/
def fraction? : List Char → Option (Bool × List Char)
  | '.' :: rest => (digits? rest).map fun (_, rest) => (true, rest)
  | cs => some (false, cs)

def exponent? : List Char → Option (Bool × List Char)
  | e :: rest =>
    if e == 'e' || e == 'E' then
      let unsigned := match rest with
        | '+' :: rest | '-' :: rest => rest
        | rest => rest
      (digits? unsigned).map fun (_, rest) => (true, rest)
    else some (false, e :: rest)
  | [] => some (false, [])

/-- A number. It is an integer if it has neither point nor exponent, and minus zero is none. -/
def number? (cs : List Char) : Option (Json × List Char) := do
  let negative := cs.head? == some '-'
  let (digits, rest) ← digits? (if negative then cs.drop 1 else cs)
  if digits.head? == some '0' && 1 < digits.length then none
  let (hasFraction, rest) ← fraction? rest
  let (hasExponent, rest) ← exponent? rest
  let value := digits.foldl (fun n c => n * 10 + (c.toNat - '0'.toNat)) 0
  if hasFraction || hasExponent || (negative && value == 0) then some (.other, rest)
  else some (.int (if negative then -value else value), rest)

/-- An object, unless one of its names has no text. -/
def object (fields : List (Option String × Json)) : Json :=
  match fields.mapM fun (name, v) => name.map (·, v) with
  | some fields => .obj fields
  | none => .other

mutual

/-- A value and what follows it. The fuel goes down by at most two for a character. -/
def value? : (fuel : Nat) → List Char → Option (Json × List Char)
  | 0, _ => none
  | fuel + 1, cs =>
    match skipBlanks cs with
    | 'n' :: 'u' :: 'l' :: 'l' :: rest => some (.null, rest)
    | 't' :: 'r' :: 'u' :: 'e' :: rest => some (.bool true, rest)
    | 'f' :: 'a' :: 'l' :: 's' :: 'e' :: rest => some (.bool false, rest)
    | '"' :: rest => (string? rest).map fun (s, rest) => (s.elim .other .str, rest)
    | '[' :: rest =>
      match skipBlanks rest with
      | ']' :: rest => some (.arr [], rest)
      | rest => (elements? fuel rest).map fun (vs, rest) => (.arr vs, rest)
    | '\x7b' :: rest =>
      match skipBlanks rest with
      | '\x7d' :: rest => some (.obj [], rest)
      | rest => (fields? fuel rest).map fun (fields, rest) => (object fields, rest)
    | cs => number? cs

/-- The elements of an array up to its closing bracket. -/
def elements? : (fuel : Nat) → List Char → Option (List Json × List Char)
  | 0, _ => none
  | fuel + 1, cs => do
    let (v, rest) ← value? fuel cs
    match skipBlanks rest with
    | ',' :: rest => (elements? fuel rest).map fun (vs, rest) => (v :: vs, rest)
    | ']' :: rest => some ([v], rest)
    | _ => none

/-- The fields of an object up to its closing brace. -/
def fields? : (fuel : Nat) → List Char → Option (List (Option String × Json) × List Char)
  | 0, _ => none
  | fuel + 1, cs => do
    let '"' :: rest := skipBlanks cs | none
    let (name, rest) ← string? rest
    let ':' :: rest := skipBlanks rest | none
    let (v, rest) ← value? fuel rest
    match skipBlanks rest with
    | ',' :: rest => (fields? fuel rest).map fun (fields, rest) => ((name, v) :: fields, rest)
    | '\x7d' :: rest => some ([(name, v)], rest)
    | _ => none

end

/-- The value that a text holds, with nothing but blanks around it. -/
def read? (text : String) : Option Json := do
  let cs := text.toList
  let (v, rest) ← value? (2 * cs.length + 1) cs
  if (skipBlanks rest).isEmpty then some v else none

end Warrant.Json
