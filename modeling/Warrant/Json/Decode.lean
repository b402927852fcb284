import Warrant.Json.Read

/-! What a JSON value stands for.
A record is an object with the fields it names, in any order, or an array of them in the order in
which it names them; fields it does not name are skipped, and no field may come twice. A choice is
its name as a string, or an object of one field that has the name and holds what belongs to it.
Values nest no deeper than a decoder allows; what is skipped does not count. -/

namespace Warrant.Json

/-- Reads a value, inside of which others nest at most `depth` deep. -/
abbrev Decoder (α : Type) := (depth : Nat) → Json → Option α

namespace Decoder

variable {α β : Type}

def map (f : α → β) (d : Decoder α) : Decoder β := fun depth v => (d depth v).map f

def string : Decoder String
  | _, .str s => some s
  | _, _ => none

def bool : Decoder Bool
  | _, .bool b => some b
  | _, _ => none

/-- A number from zero up to and without `limit`. -/
def nat (limit : Nat) : Decoder Nat
  | _, .int i => if 0 ≤ i && i < limit then some i.toNat else none
  | _, _ => none

def int64 : Decoder Int64
  | _, .int i =>
    if Int64.minValue.toInt ≤ i && i ≤ Int64.maxValue.toInt then some (.ofInt i) else none
  | _, _ => none

def byte : Decoder UInt8 := (nat UInt8.size).map .ofNat

def list (d : Decoder α) : Decoder (List α)
  | depth + 1, .arr vs => vs.mapM (d depth)
  | _, _ => none

/-- Nothing is `null`. -/
def optional (d : Decoder α) : Decoder (Option α)
  | _, .null => some none
  | depth, v => (d depth v).map some

/-- The values of the named fields, as far as they are there. -/
def record (names : List String) : Decoder (List (Option Json))
  | _ + 1, .arr vs => if vs.length = names.length then some (vs.map some) else none
  | _ + 1, .obj fields =>
    names.mapM fun name =>
      match fields.filter (·.1 == name) with
      | [] => some none
      | [(_, v)] => some (some v)
      | _ => none
  | _, _ => none

/-- The value of a field that has to be there. -/
def required (d : Decoder α) (depth : Nat) (field : Option Json) : Option α :=
  field.bind (d (depth - 1))

/-- The value of a field that may be missing. -/
def missing (d : Decoder α) (depth : Nat) (field : Option Json) : Option (Option α) :=
  optional d (depth - 1) (field.getD .null)

/-- The name of a choice, and what belongs to it with the depth that is left for it. -/
def choice : Decoder (String × Option (Nat × Json))
  | _, .str name => some (name, none)
  | depth + 1, .obj [(name, v)] => some (name, some (depth, v))
  | _, _ => none

/-- One of some choices to which nothing belongs. -/
def oneOf (choices : List (String × α)) : Decoder α := fun depth v => do
  let (name, content) ← choice depth v
  match content with
  | none | some (_, .null) => choices.lookup name
  | _ => none

end Decoder

end Warrant.Json
