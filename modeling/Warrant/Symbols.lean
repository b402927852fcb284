import Warrant.Text.Quoted

/-! Symbol tables: strings and public keys exchanged for small numbers.
Ids below `Symbols.firstLocal` belong to names every table knows without storing them; from there
on an id is a position in the table's own list. Taking in a string that is known changes nothing,
so a table built by `intern` alone never holds a string twice (a table read from outside may).
`Scratch` is a second layer for strings made while an expression runs: the table below it is
only read. -/

namespace Warrant

inductive Algorithm where
  | ed25519
  | secp256r1
  deriving Repr, DecidableEq

def Algorithm.name : Algorithm → String
  | .ed25519 => "ed25519"
  | .secp256r1 => "secp256r1"

/-- A public key, as the layer that checks signatures names it. -/
structure PublicKey where
  algorithm : Algorithm
  bytes : List UInt8
  deriving Repr, DecidableEq

/-- A string that every table knows, given as one of a table's own: the first such string. -/
structure BuiltinRedefined where
  name : String
  deriving Repr, DecidableEq

def BuiltinRedefined.message (e : BuiltinRedefined) : String :=
  "symbol table redefines the built-in symbol " ++ Text.quote e.name

structure Symbols where
  strings : List String := []
  keys : List PublicKey := []
  deriving Repr, DecidableEq, Inhabited

namespace Symbols

/-- The names every table knows; a name's id is its place here. -/
def builtins : List String :=
  ["authority", "ambient", "read", "write", "resource", "operation", "right", "time", "role",
   "owner", "tenant", "namespace", "user", "team", "service", "admin", "email", "group", "member",
   "ip_address", "client", "client_ip", "domain", "path", "version", "cluster", "node", "hostname",
   "nonce", "query"]

/-- The id of the first string that a table holds itself. -/
def firstLocal : Nat := 1024

def empty : Symbols := {}

/-- The id of a known string. -/
def id? (t : Symbols) (s : String) : Option Nat :=
  builtins.idxOf? s <|> (t.strings.idxOf? s).map (firstLocal + ·)

/-- The string behind an id. -/
def text? (t : Symbols) (id : Nat) : Option String :=
  if id < firstLocal then builtins[id]? else t.strings[id - firstLocal]?

/-- The id of a string, which is added at the end if it is new. -/
def intern (s : String) : StateM Symbols Nat := fun t =>
  match t.id? s with
  | some id => (id, t)
  | none => (firstLocal + t.strings.length, { t with strings := t.strings ++ [s] })

/-- The position of a key, which is added at the end if it is new. -/
def internKey (key : PublicKey) : StateM Symbols Nat := fun t =>
  match t.keys.idxOf? key with
  | some id => (id, t)
  | none => (t.keys.length, { t with keys := t.keys ++ [key] })

/-- A table of exactly these strings, none of which may be one that every table knows. -/
def ofStrings (strings : List String) : Except BuiltinRedefined Symbols :=
  match strings.find? (builtins.contains ·) with
  | some name => .error { name }
  | none => .ok { strings }

theorem text?_builtin {id : Nat} (h : id < firstLocal) (t u : Symbols) :
    t.text? id = u.text? id := by simp [text?, h]

theorem text?_local (t : Symbols) (i : Nat) : t.text? (firstLocal + i) = t.strings[i]? := by
  rw [text?, if_neg (Nat.not_lt.2 (Nat.le_add_right ..)), Nat.add_sub_cancel_left]

theorem intern_known {t : Symbols} {s : String} {id : Nat} (h : t.id? s = some id) :
    intern s t = (id, t) := by simp [intern, h]

end Symbols

/-- Strings made on top of a table, with the ids that follow the table's. -/
structure Scratch where
  base : Symbols
  strings : List String := []
  deriving Repr, DecidableEq

namespace Scratch

/-- The id of the first string of this layer. -/
def offset (s : Scratch) : Nat := Symbols.firstLocal + s.base.strings.length

def text? (s : Scratch) (id : Nat) : Option String :=
  if s.offset ≤ id then s.strings[id - s.offset]? else s.base.text? id

/-- The id of a string in the table below or, failing that, in this layer. -/
def intern (text : String) : StateM Scratch Nat := fun s =>
  match s.base.id? text with
  | some id => (id, s)
  | none =>
    match s.strings.idxOf? text with
    | some i => (s.offset + i, s)
    | none => (s.offset + s.strings.length, { s with strings := s.strings ++ [text] })

end Scratch

end Warrant
