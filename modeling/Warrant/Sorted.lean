/-! Finite sets as lists in strictly increasing order.
A list of this form is the only one with its elements, so equal sets are equal lists.
The bare operations serve element types that cannot carry a proof inside themselves;
`OrderedSet` packs the order into the type. -/

namespace Warrant.Sorted

variable {α : Type} [Ord α]

/-- Places an element; one that is already there is left alone. -/
def insert (a : α) : List α → List α
  | [] => [a]
  | b :: rest =>
    match compare a b with
    | .lt => a :: b :: rest
    | .eq => b :: rest
    | .gt => b :: insert a rest

/-- The elements of a list in increasing order, each once. -/
def ofList (elements : List α) : List α := elements.foldr insert []

def contains (elements : List α) (a : α) : Bool := elements.any (compare a · == .eq)

def union (left right : List α) : List α := left.foldr insert right

def inter (left right : List α) : List α := left.filter (contains right)

def subset (left right : List α) : Bool := left.all (contains right)

/-- Strictly increasing. -/
def Increasing (elements : List α) : Prop := elements.Pairwise (compare · · = .lt)

theorem mem_of_mem_insert {a b : α} {l : List α} (h : b ∈ insert a l) : b = a ∨ b ∈ l := by
  induction l with
  | nil => simpa [insert] using h
  | cons c rest ih =>
    simp only [insert] at h
    split at h
    · simpa using h
    · exact .inr h
    · rcases List.mem_cons.1 h with rfl | h
      · exact .inr (List.mem_cons_self ..)
      · exact (ih h).imp_right (List.mem_cons_of_mem _)

section Lawful

variable [Std.LawfulEqOrd α]

@[simp] theorem mem_insert {a b : α} {l : List α} : b ∈ insert a l ↔ b = a ∨ b ∈ l := by
  induction l with
  | nil => simp [insert]
  | cons c rest ih =>
    simp only [insert]
    split
    · simp
    · rename_i h
      cases Std.LawfulEqOrd.eq_of_compare h
      simp
    · simp [ih, or_left_comm]

@[simp] theorem mem_union {a : α} {left right : List α} :
    a ∈ union left right ↔ a ∈ left ∨ a ∈ right := by
  induction left with
  | nil => simp [union]
  | cons b rest ih => simp [union, or_assoc] at ih ⊢; rw [ih]

@[simp] theorem mem_ofList {a : α} {l : List α} : a ∈ ofList l ↔ a ∈ l := by
  rw [show ofList l = union l [] from rfl, mem_union]
  simp

@[simp] theorem contains_iff {a : α} {l : List α} : contains l a ↔ a ∈ l := by
  simp [contains]

@[simp] theorem mem_inter {a : α} {left right : List α} :
    a ∈ inter left right ↔ a ∈ left ∧ a ∈ right := by
  simp [inter]

@[simp] theorem subset_iff {left right : List α} : subset left right ↔ left ⊆ right := by
  simp [subset, List.subset_def]

end Lawful

theorem insert_increasing [Std.TransOrd α] (a : α) {l : List α} (h : Increasing l) :
    Increasing (insert a l) := by
  induction l with
  | nil => simp [insert, Increasing]
  | cons b rest ih =>
    have hb := List.pairwise_cons.1 h
    simp only [insert]
    split
    · rename_i hab
      refine List.pairwise_cons.2 ⟨fun c hc => ?_, h⟩
      rcases List.mem_cons.1 hc with rfl | hc
      · exact hab
      · exact Std.TransCmp.lt_trans hab (hb.1 c hc)
    · exact h
    · rename_i hab
      refine List.pairwise_cons.2 ⟨fun c hc => ?_, ih hb.2⟩
      rcases mem_of_mem_insert hc with rfl | hc
      · exact Std.OrientedCmp.gt_iff_lt.1 hab
      · exact hb.1 c hc

theorem union_increasing [Std.TransOrd α] (left : List α) {right : List α}
    (h : Increasing right) : Increasing (union left right) := by
  induction left with
  | nil => exact h
  | cons a rest ih => exact insert_increasing a ih

theorem ofList_increasing [Std.TransOrd α] (l : List α) : Increasing (ofList l) :=
  union_increasing l .nil

end Warrant.Sorted

namespace Warrant

/-- A finite set, held as its elements in strictly increasing order. -/
structure OrderedSet (α : Type) [Ord α] where
  toList : List α
  increasing : Sorted.Increasing toList
  deriving DecidableEq

namespace OrderedSet

variable {α : Type} [Ord α]

def empty : OrderedSet α := ⟨[], .nil⟩

def singleton (a : α) : OrderedSet α := ⟨[a], List.pairwise_singleton ..⟩

def insert [Std.TransOrd α] (s : OrderedSet α) (a : α) : OrderedSet α :=
  ⟨Sorted.insert a s.toList, Sorted.insert_increasing a s.increasing⟩

def union [Std.TransOrd α] (s t : OrderedSet α) : OrderedSet α :=
  ⟨Sorted.union s.toList t.toList, Sorted.union_increasing _ t.increasing⟩

def ofList [Std.TransOrd α] (l : List α) : OrderedSet α :=
  ⟨Sorted.ofList l, Sorted.ofList_increasing l⟩

def contains (s : OrderedSet α) (a : α) : Bool := Sorted.contains s.toList a

def subset (s t : OrderedSet α) : Bool := Sorted.subset s.toList t.toList

def isEmpty (s : OrderedSet α) : Bool := s.toList.isEmpty

instance : Membership α (OrderedSet α) := ⟨fun s a => a ∈ s.toList⟩

/-- Sets are ordered as their increasing lists are, first difference first. -/
instance : Ord (OrderedSet α) := ⟨compareOn toList⟩

instance [Std.TransOrd α] : Std.TransOrd (OrderedSet α) :=
  inferInstanceAs (Std.TransCmp (compareOn toList))

instance [Std.LawfulEqOrd α] : Std.LawfulEqOrd (OrderedSet α) where
  compare_self {s} := Std.ReflOrd.compare_self (a := s.toList)
  eq_of_compare {s t} h := by
    obtain ⟨l, _⟩ := s
    obtain ⟨r, _⟩ := t
    cases (Std.LawfulEqOrd.eq_of_compare h : l = r)
    rfl

@[simp] theorem mem_singleton {a b : α} : b ∈ singleton a ↔ b = a := List.mem_singleton

section Lawful

variable [Std.LawfulEqOrd α]

@[simp] theorem contains_iff {s : OrderedSet α} {a : α} : s.contains a ↔ a ∈ s :=
  Sorted.contains_iff

theorem subset_iff {s t : OrderedSet α} : s.subset t ↔ ∀ a ∈ s, a ∈ t := Sorted.subset_iff

variable [Std.TransOrd α]

@[simp] theorem mem_insert {s : OrderedSet α} {a b : α} : b ∈ s.insert a ↔ b = a ∨ b ∈ s :=
  Sorted.mem_insert

@[simp] theorem mem_union {s t : OrderedSet α} {a : α} : a ∈ s.union t ↔ a ∈ s ∨ a ∈ t :=
  Sorted.mem_union

@[simp] theorem mem_ofList {l : List α} {a : α} : a ∈ ofList l ↔ a ∈ l := Sorted.mem_ofList

end Lawful

end OrderedSet

end Warrant
