import Warrant.Unicode.Category
import Warrant.Unicode.Fold
import Warrant.Unicode.Property
import Warrant.Unicode.Script

/-! Sets of characters, and the sets that have names.
A set is kept as the ranges of its code points. Like the elements of `Sorted` lists these are in
order, with gaps between them, so equal sets have equal ranges and a set takes no more of them than
it needs, however it was put together. -/

namespace Warrant.Regex

namespace Ranges

/-- Ranges, each by its first and last, that begin at `low` at the earliest, ascend and have gaps
between them. -/
def Apart (low : Nat) : List (Nat × Nat) → Prop
  | [] => True
  | (first, last) :: rest => low ≤ first ∧ first ≤ last ∧ Apart (last + 2) rest

def has (ranges : List (Nat × Nat)) (n : Nat) : Bool :=
  ranges.any fun (first, last) => first ≤ n && n ≤ last

/-- Adds a range, joined with those that it meets. -/
def insert (first last : Nat) : List (Nat × Nat) → List (Nat × Nat)
  | [] => [(first, last)]
  | (a, b) :: rest =>
    if last + 1 < a then (first, last) :: (a, b) :: rest
    else if b + 1 < first then (a, b) :: insert first last rest
    else insert (min first a) (max last b) rest

/-- What is between the ranges, from `low` up to `limit`. -/
def gaps (limit low : Nat) : List (Nat × Nat) → List (Nat × Nat)
  | [] => if low ≤ limit then [(low, limit)] else []
  | (first, last) :: rest =>
    if low < first then (low, first - 1) :: gaps limit (last + 1) rest
    else gaps limit (last + 1) rest

variable {low limit first last n : Nat} {ranges : List (Nat × Nat)}

@[simp] theorem has_nil : has [] n = false := rfl

@[simp] theorem has_cons : has ((first, last) :: ranges) n =
    (decide (first ≤ n) && decide (n ≤ last) || has ranges n) := rfl

theorem Apart.mono {other : Nat} (h : Apart low ranges) (earlier : other ≤ low) :
    Apart other ranges := by
  cases ranges with
  | nil => trivial
  | cons r rest => exact ⟨Nat.le_trans earlier h.1, h.2⟩

theorem Apart.le_of_has (h : Apart low ranges) (there : has ranges n) : low ≤ n := by
  induction ranges generalizing low with
  | nil => cases there
  | cons r rest ih =>
    obtain ⟨first, last⟩ := r
    obtain ⟨lower, ordered, later⟩ := h
    rw [has_cons, Bool.or_eq_true, Bool.and_eq_true, decide_eq_true_eq, decide_eq_true_eq] at there
    rcases there with here | there
    · exact Nat.le_trans lower here.1
    · have := ih later there
      omega

theorem apart_insert (h : Apart low ranges) (lower : low ≤ first) (ordered : first ≤ last) :
    Apart low (insert first last ranges) := by
  induction ranges generalizing low first last with
  | nil => exact ⟨lower, ordered, trivial⟩
  | cons r rest ih =>
    obtain ⟨a, b⟩ := r
    obtain ⟨lower', ordered', later⟩ := h
    unfold insert
    split
    · exact ⟨lower, ordered, by omega, ordered', later⟩
    split
    · exact ⟨lower', ordered', ih later (by omega) ordered⟩
    · exact ih (later.mono (by omega)) (by omega) (by omega)

theorem has_insert (h : Apart low ranges) (ordered : first ≤ last) :
    has (insert first last ranges) n = true ↔ first ≤ n ∧ n ≤ last ∨ has ranges n = true := by
  induction ranges generalizing low first last with
  | nil => simp [insert]
  | cons r rest ih =>
    obtain ⟨a, b⟩ := r
    obtain ⟨-, ordered', later⟩ := h
    unfold insert
    split
    · simp
    split
    · simp [ih later ordered, or_left_comm]
    · -- ranges that meet cover together what lies between their ends
      have joined : min first a ≤ n ∧ n ≤ max last b ↔
          first ≤ n ∧ n ≤ last ∨ a ≤ n ∧ n ≤ b := by omega
      rw [ih later (by omega), joined]
      simp [or_assoc]

theorem apart_gaps (h : Apart low ranges) : Apart low (gaps limit low ranges) := by
  induction ranges generalizing low with
  | nil =>
    unfold gaps
    split
    · exact ⟨Nat.le_refl low, by assumption, trivial⟩
    · trivial
  | cons r rest ih =>
    obtain ⟨first, last⟩ := r
    obtain ⟨lower, ordered, later⟩ := h
    have rest := ih (later.mono (Nat.le_succ (last + 1)))
    unfold gaps
    split
    · exact ⟨Nat.le_refl low, by omega, rest.mono (by omega)⟩
    · exact rest.mono (by omega)

theorem has_gaps (h : Apart low ranges) (lower : low ≤ n) (upper : n ≤ limit) :
    has (gaps limit low ranges) n = !has ranges n := by
  induction ranges generalizing low with
  | nil => simp [gaps, lower, upper, Nat.le_trans lower upper]
  | cons r rest ih =>
    obtain ⟨first, last⟩ := r
    obtain ⟨lower', ordered, later⟩ := h
    have next := later.mono (Nat.le_succ (last + 1))
    have passed : has (gaps limit (last + 1) rest) n = true → last + 1 ≤ n :=
      (apart_gaps next).le_of_has
    have ahead : has rest n = true → last + 2 ≤ n := later.le_of_has
    have same : last + 1 ≤ n → has (gaps limit (last + 1) rest) n = !has rest n := ih next
    unfold gaps
    split <;> grind [has_cons]

end Ranges

/-- The last code point there is. -/
def lastCode : Nat := 0x10ffff

structure CharSet where
  ranges : List (Nat × Nat)
  apart : Ranges.Apart 0 ranges

namespace CharSet

def has (set : CharSet) (code : Nat) : Bool := Ranges.has set.ranges code

def contains (set : CharSet) (c : Char) : Bool := set.has c.toNat

def none : CharSet := ⟨[], trivial⟩

/-- Adds the code points from `first` to `last`. -/
def insert (set : CharSet) (first last : Nat) : CharSet :=
  if ordered : first ≤ last then
    ⟨Ranges.insert first last set.ranges, Ranges.apart_insert set.apart (Nat.zero_le _) ordered⟩
  else set

def range (first last : Char) : CharSet := none.insert first.toNat last.toNat

def compl (set : CharSet) : CharSet :=
  ⟨Ranges.gaps lastCode 0 set.ranges, Ranges.apart_gaps set.apart⟩

def any : CharSet := none.compl

def union (left right : CharSet) : CharSet :=
  left.ranges.foldr (fun (first, last) set => set.insert first last) right

def inter (left right : CharSet) : CharSet := (left.compl.union right.compl).compl

/-- The code points of some classes of a table. -/
def table (runs : Unicode.Runs) (classes : List Nat) : CharSet :=
  let lasts := (runs.toList.drop 1).map (·.1 - 1) ++ [lastCode]
  (runs.toList.zip lasts).foldr
    (fun ((first, label), last) set =>
      if classes.contains label then set.insert first last else set) none

/-- Adds every code point that stands for the same as one of the set. The pairs are code points
and what they stand for besides themselves. -/
def closure (foldings : List (Nat × Nat)) (set : CharSet) : CharSet :=
  let targets := foldings.filterMap fun (code, target) =>
    if set.has code || set.has target then some target else .none
  let sources := foldings.filterMap fun (code, target) =>
    if targets.contains target then some code else .none
  (targets ++ sources).foldr (fun code set => set.insert code code) set

/-- Adds every character that is equal to one of the set up to case. -/
def folded (set : CharSet) : CharSet := set.closure Unicode.foldings

/-- The same, for the letters of ASCII only. -/
def foldedAscii (set : CharSet) : CharSet :=
  set.closure ((List.range 26).map fun i => ('A'.toNat + i, 'a'.toNat + i))

section Members

variable {set left right : CharSet} {n : Nat}

theorem has_insert {first last : Nat} :
    (set.insert first last).has n = true ↔ first ≤ n ∧ n ≤ last ∨ set.has n = true := by
  unfold insert
  split
  · exact Ranges.has_insert set.apart (by assumption)
  · rw [or_iff_right fun inside => by omega]

theorem has_compl (bound : n ≤ lastCode) : set.compl.has n = !set.has n :=
  Ranges.has_gaps set.apart (Nat.zero_le n) bound

theorem has_union : (left.union right).has n = true ↔ left.has n = true ∨ right.has n = true := by
  have all (ranges : List (Nat × Nat)) :
      (ranges.foldr (fun (first, last) set => set.insert first last) right).has n = true ↔
        Ranges.has ranges n = true ∨ right.has n = true := by
    induction ranges with
    | nil => simp
    | cons r rest ih =>
      obtain ⟨first, last⟩ := r
      simp [has_insert, ih, or_assoc]
  exact all left.ranges

theorem toNat_le_lastCode (c : Char) : c.toNat ≤ lastCode := by
  have valid := c.valid
  simp only [UInt32.isValidChar, Nat.isValidChar] at valid
  change c.val.toNat ≤ 0x10ffff
  omega

@[simp] theorem contains_compl (c : Char) : set.compl.contains c = !set.contains c :=
  has_compl (toNat_le_lastCode c)

@[simp] theorem contains_union (c : Char) :
    (left.union right).contains c = (left.contains c || right.contains c) :=
  Bool.eq_iff_iff.2 (has_union.trans Bool.or_eq_true_iff.symm)

@[simp] theorem contains_inter (c : Char) :
    (left.inter right).contains c = (left.contains c && right.contains c) := by
  simp [inter]

end Members

def one (c : Char) : CharSet := .range c c

def ofRanges (ranges : List (Char × Char)) : CharSet :=
  ranges.foldr (fun (first, last) set => .union (.range first last) set) .none

def diff (left right : CharSet) : CharSet := .inter left (.compl right)

/-- What is in one of the two and not in the other. -/
def symmDiff (left right : CharSet) : CharSet := .union (diff left right) (diff right left)

def property (p : Unicode.Property) : CharSet := .table p.runs [1]

/-- The characters of some general categories. -/
def categories (cs : List Unicode.Category) : CharSet :=
  .table Unicode.Category.runs (cs.filterMap Unicode.Category.all.idxOf?)

def digit : CharSet := categories [.nd]

def space : CharSet := property .whiteSpace

/-- What words are made of: letters, marks, digits, connectors and joiners. -/
def word : CharSet :=
  .union (property .alphabetic)
    (.union (categories [.mn, .mc, .me, .nd, .pc]) (property .joinControl))

def asciiDigit : CharSet := .range '0' '9'

def asciiSpace : CharSet := ofRanges [('\t', '\r'), (' ', ' ')]

def asciiWord : CharSet := ofRanges [('0', '9'), ('A', 'Z'), ('_', '_'), ('a', 'z')]

/-- The sets that stand between `[:` and `:]`. -/
def ascii? : String → Option CharSet
  | "alnum" => some (ofRanges [('0', '9'), ('A', 'Z'), ('a', 'z')])
  | "alpha" => some (ofRanges [('A', 'Z'), ('a', 'z')])
  | "ascii" => some (.range '\x00' '\x7f')
  | "blank" => some (ofRanges [('\t', '\t'), (' ', ' ')])
  | "cntrl" => some (ofRanges [('\x00', '\x1f'), ('\x7f', '\x7f')])
  | "digit" => some asciiDigit
  | "graph" => some (.range '!' '~')
  | "lower" => some (.range 'a' 'z')
  | "print" => some (.range ' ' '~')
  | "punct" => some (ofRanges [('!', '/'), (':', '@'), ('[', '\x60'), ('\x7b', '~')])
  | "space" => some asciiSpace
  | "upper" => some (.range 'A' 'Z')
  | "word" => some asciiWord
  | "xdigit" => some (ofRanges [('0', '9'), ('A', 'F'), ('a', 'f')])
  | _ => .none

/-- A name in small letters without separators, what is not ASCII and a leading `is` left out. -/
def loose (name : String) : String :=
  let ascii := name.toList.filter (· ≤ '\x7f')
  let isFirst := ascii.take 2 |>.map Char.toLower
  let body := if isFirst == ['i', 's'] then ascii.drop 2 else ascii
  let kept := (body.filter fun c => !(c == ' ' || c == '_' || c == '-')).map Char.toLower
  if isFirst == ['i', 's'] && kept == ['c'] then "isc" else .ofList kept

/-- General categories and their groups by name. -/
def category? : String → Option CharSet
  | "any" => some .any
  | "assigned" => some (.compl (categories [.cn]))
  | "ascii" => some (.range '\x00' '\x7f')
  | "l" | "letter" => some (categories [.lu, .ll, .lt, .lm, .lo])
  | "lc" | "casedletter" => some (categories [.lu, .ll, .lt])
  | "lu" | "uppercaseletter" => some (categories [.lu])
  | "ll" | "lowercaseletter" => some (categories [.ll])
  | "lt" | "titlecaseletter" => some (categories [.lt])
  | "lm" | "modifierletter" => some (categories [.lm])
  | "lo" | "otherletter" => some (categories [.lo])
  | "m" | "mark" | "combiningmark" => some (categories [.mn, .mc, .me])
  | "mn" | "nonspacingmark" => some (categories [.mn])
  | "mc" | "spacingmark" => some (categories [.mc])
  | "me" | "enclosingmark" => some (categories [.me])
  | "n" | "number" => some (categories [.nd, .nl, .no])
  | "nd" | "decimalnumber" | "digit" => some (categories [.nd])
  | "nl" | "letternumber" => some (categories [.nl])
  | "no" | "othernumber" => some (categories [.no])
  | "p" | "punctuation" | "punct" => some (categories [.pc, .pd, .ps, .pe, .pi, .pf, .po])
  | "pc" | "connectorpunctuation" => some (categories [.pc])
  | "pd" | "dashpunctuation" => some (categories [.pd])
  | "ps" | "openpunctuation" => some (categories [.ps])
  | "pe" | "closepunctuation" => some (categories [.pe])
  | "pi" | "initialpunctuation" => some (categories [.pi])
  | "pf" | "finalpunctuation" => some (categories [.pf])
  | "po" | "otherpunctuation" => some (categories [.po])
  | "s" | "symbol" => some (categories [.sm, .sc, .sk, .so])
  | "sm" | "mathsymbol" => some (categories [.sm])
  | "sc" | "currencysymbol" => some (categories [.sc])
  | "sk" | "modifiersymbol" => some (categories [.sk])
  | "so" | "othersymbol" => some (categories [.so])
  | "z" | "separator" => some (categories [.zs, .zl, .zp])
  | "zs" | "spaceseparator" => some (categories [.zs])
  | "zl" | "lineseparator" => some (categories [.zl])
  | "zp" | "paragraphseparator" => some (categories [.zp])
  | "c" | "other" => some (categories [.cc, .cf, .cs, .co, .cn])
  | "cc" | "control" | "cntrl" => some (categories [.cc])
  | "cf" | "format" => some (categories [.cf])
  | "cs" | "surrogate" => some (categories [.cs])
  | "co" | "privateuse" => some (categories [.co])
  | "cn" | "unassigned" => some (categories [.cn])
  | _ => .none

/-- A set by one name: a property, a general category or a script, in that order. -/
def named? (name : String) : Option CharSet :=
  let name := loose name
  ((Unicode.Property.byName? name).map property) <|> category? name <|>
    ((Unicode.Script.byName? name).map property)

/-- A set by the kind of name and the name. -/
def namedBy? (kind value : String) : Option CharSet :=
  let value := loose value
  match loose kind with
  | "gc" | "generalcategory" => category? value
  | "sc" | "script" => (Unicode.Script.byName? value).map property
  | _ => .none

end CharSet

end Warrant.Regex
