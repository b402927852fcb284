import Std.Data.TreeSet.Lemmas
import Warrant.Origin
import Warrant.Term

/-! The store of facts.
Facts stand in the order in which they came, each with its origin; the place of an entry never
changes, so "what came after" is a range of places. A pair of origin and fact is stored once. Three
indexes stand beside the entries: the entries in order, for those who ask whether one is there, and
their places by name and arity, for those who look for matches, and by origin. What an index holds
is a matter of the entries alone, and the store carries the proof of it. -/

namespace Warrant

structure Entry where
  origin : Origin
  fact : Fact Nat
  deriving DecidableEq

/-- By fact and then by origin. -/
instance : Ord Entry := ⟨compareLex (compareOn Entry.fact) (compareOn Entry.origin)⟩

instance : Std.TransOrd Entry :=
  inferInstanceAs (Std.TransCmp (compareLex (compareOn Entry.fact) (compareOn Entry.origin)))

instance : Std.LawfulEqOrd Entry where
  eq_of_compare {a b} h := by
    change (compare a.fact b.fact).then (compare a.origin b.origin) = .eq at h
    rw [Ordering.then_eq_eq] at h
    obtain ⟨o, f⟩ := a
    obtain ⟨p, g⟩ := b
    cases (Std.LawfulEqOrd.eq_of_compare h.1 : f = g)
    cases (Std.LawfulEqOrd.eq_of_compare h.2 : o = p)
    rfl

/-- Places sorted into groups by key, keys increasing. -/
abbrev Buckets (κ : Type) := List (κ × Array Nat)

namespace Buckets

variable {κ : Type} [Ord κ]

/-- Adds a place at the end of its key's group. -/
def push (key : κ) (place : Nat) : Buckets κ → Buckets κ
  | [] => [(key, #[place])]
  | (k, places) :: rest =>
    match compare key k with
    | .lt => (key, #[place]) :: (k, places) :: rest
    | .eq => (k, places.push place) :: rest
    | .gt => (k, places) :: push key place rest

def get (key : κ) (buckets : Buckets κ) : Array Nat :=
  ((buckets.find? fun (k, _) => compare key k == .eq).map (·.2)).getD #[]

/-- The places of a list of keys, each in the group of its key. -/
def ofKeys (keys : List κ) : Buckets κ :=
  keys.zipIdx.foldl (fun buckets (key, place) => push key place buckets) []

theorem ofKeys_concat (keys : List κ) (key : κ) :
    ofKeys (keys ++ [key]) = push key keys.length (ofKeys keys) := by
  simp [ofKeys, List.zipIdx_append]

end Buckets

/-- Name and number of terms. -/
structure Shape where
  name : Nat
  arity : Nat
  deriving DecidableEq

instance : Ord Shape := ⟨compareLex (compareOn Shape.name) (compareOn Shape.arity)⟩

def Atom.shape (a : Atom Nat) : Shape := ⟨a.name, a.arity⟩

structure FactSet where
  entries : Array Entry := #[]
  known : Std.TreeSet Entry := ∅
  byShape : Buckets Shape := []
  byOrigin : Buckets Origin := []
  nodup : entries.toList.Nodup := by simp
  mem_known : ∀ entry, entry ∈ known ↔ entry ∈ entries := by simp
  byShape_eq : byShape = .ofKeys (entries.toList.map (·.fact.shape)) := by rfl
  byOrigin_eq : byOrigin = .ofKeys (entries.toList.map (·.origin)) := by rfl

namespace FactSet

def empty : FactSet := {}

instance : Inhabited FactSet := ⟨empty⟩

def size (s : FactSet) : Nat := s.entries.size

def isEmpty (s : FactSet) : Bool := s.entries.isEmpty

def get? (s : FactSet) (place : Nat) : Option Entry := s.entries[place]?

def contains (s : FactSet) (entry : Entry) : Bool := s.known.contains entry

def toList (s : FactSet) : List Entry := s.entries.toList

theorem contains_iff {s : FactSet} {entry : Entry} : s.contains entry ↔ entry ∈ s.entries :=
  Std.TreeSet.mem_iff_contains.symm.trans (s.mem_known entry)

/-- Stores an entry that is new at the end. -/
def insert (s : FactSet) (entry : Entry) : FactSet :=
  if h : s.contains entry then s
  else
    { entries := s.entries.push entry
      known := s.known.insert entry
      byShape := s.byShape.push entry.fact.shape s.size
      byOrigin := s.byOrigin.push entry.origin s.size
      nodup := by
        have : entry ∉ s.entries := fun mem => h (contains_iff.2 mem)
        simpa [List.nodup_append, s.nodup] using fun e he => ne_of_mem_of_not_mem he this
      mem_known := by
        intro e
        rw [Std.TreeSet.mem_insert, Std.compare_eq_iff_eq, s.mem_known]
        simp [or_comm, eq_comm]
      byShape_eq := by simp [s.byShape_eq, Buckets.ofKeys_concat, size]
      byOrigin_eq := by simp [s.byOrigin_eq, Buckets.ofKeys_concat, size] }

/-- Stores an entry and tells whether it was new. -/
def add (entry : Entry) : StateM FactSet Bool := fun s => (!s.contains entry, s.insert entry)

def insertAll (s : FactSet) (entries : List Entry) : FactSet := entries.foldl insert s

def ofList (entries : List Entry) : FactSet := empty.insertAll entries

/-- The origins in increasing order, each with its facts in the order in which they came. -/
def groups (s : FactSet) : List (Origin × List (Fact Nat)) :=
  s.byOrigin.map fun (origin, places) =>
    (origin, places.toList.filterMap fun i => (s.get? i).map (·.fact))

/-- The readable entries of the same name and arity as `atom`, with their places, in order. -/
def candidates (s : FactSet) (atom : Atom Nat) (trust : Trust) : List (Nat × Entry) :=
  (s.byShape.get atom.shape).toList.filterMap fun place =>
    (s.get? place).bind fun entry => if trust.reads entry.origin then some (place, entry) else none

@[simp] theorem toList_empty : empty.toList = [] := rfl

theorem toList_insert (s : FactSet) (entry : Entry) :
    (s.insert entry).toList = if s.contains entry then s.toList else s.toList ++ [entry] := by
  simp only [insert, toList]
  split <;> simp

theorem length_toList (s : FactSet) : s.toList.length = s.size := Array.length_toList

theorem size_insert (s : FactSet) (entry : Entry) :
    (s.insert entry).size = s.size + (if s.contains entry then 0 else 1) := by
  rw [← length_toList, toList_insert]
  split <;> simp [length_toList]

theorem size_le_size_insert (s : FactSet) (entry : Entry) : s.size ≤ (s.insert entry).size := by
  rw [size_insert]
  exact Nat.le_add_right ..

theorem size_le_size_insertAll (s : FactSet) (entries : List Entry) :
    s.size ≤ (s.insertAll entries).size := by
  induction entries generalizing s with
  | nil => exact Nat.le_refl _
  | cons e rest ih => exact Nat.le_trans (size_le_size_insert s e) (ih (s.insert e))

end FactSet

end Warrant
