/-! Character tables as runs.
A table splits the code points, from zero up, into runs of one class each. It is written as text,
in lines: a letter for the class of a run, then its length in decimal, and so on; code points past
the last run are of class `0`. Letters stand for classes 0 to 51, `A` to `Z` and then `a` to `z`. -/

namespace Warrant.Unicode

/-- The runs of a table: where each starts, and its class. -/
abbrev Runs := Array (Nat × Nat)

namespace Runs

/-- The class a letter stands for. -/
def classOf (c : Char) : Nat :=
  if 'a' ≤ c then c.toNat - 'a'.toNat + 26 else c.toNat - 'A'.toNat

/-- Reads a table. `start` is where the run being read starts and `length` its length so far. -/
def read : List Char → (start length : Nat) → Runs → Runs
  | [], start, length, runs => runs.push (start + length, 0)
  | c :: rest, start, length, runs =>
    if c.isDigit then read rest start (length * 10 + (c.toNat - '0'.toNat)) runs
    else read rest (start + length) 0 (runs.push (start + length, classOf c))

def ofLines (lines : List String) : Runs := read (lines.flatMap String.toList) 0 0 #[]

/-- The last run from `low` on, and before `high`, that starts at or before `code`.
The run at `low` is taken to do so. -/
def search (runs : Runs) (code low high : Nat) : Nat :=
  if h : low + 1 < high then
    let middle := (low + high) / 2
    if (runs[middle]?.getD (0, 0)).1 ≤ code then search runs code middle high
    else search runs code low middle
  else low
termination_by high - low

/-- The class of a code point. -/
def classAt (runs : Runs) (code : Nat) : Nat :=
  (runs[runs.search code 0 runs.size]?.getD (0, 0)).2

/-- For tables of two classes, whether a character is of the second. -/
def has (runs : Runs) (c : Char) : Bool := runs.classAt c.toNat == 1

end Runs

end Warrant.Unicode
