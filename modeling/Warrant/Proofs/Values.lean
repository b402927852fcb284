import Mathlib.Data.Finset.Card
import Mathlib.Data.List.Infix
import Warrant.Proofs.Meaning
import Warrant.Proofs.Ordered

/-! Expressions on values as such.
An integer is a mathematical one that wraps around at 64 bits, a set has neither order nor
repetition, and a text is a text. What a program comes to is said here once more on these, with
nothing of the engine's arithmetic or of its sets in order; how a pattern is searched for is left
open. Written terms denote such values, and a written program comes to what its values come to. -/

namespace Warrant

/-- What may be in a set. -/
inductive Scalar where
  | int (i : Int)
  | str (text : String)
  | date (seconds : Nat)
  | bytes (data : List UInt8)
  | bool (b : Bool)
  deriving Repr, DecidableEq

inductive Value where
  | scalar (c : Scalar)
  | set (elements : Finset Scalar)
  deriving DecidableEq

namespace Value

/-- The integer in two's complement that is left of an integer in 64 bits. -/
def wrap (i : Int) : Int := i.bmod (2 ^ 64)

def int (i : Int) : Value := .scalar (.int (wrap i))

def truth (p : Prop) [Decidable p] : Value := .scalar (.bool p)

def unary : Unary → Value → Except Fault Value
  | .negate, .scalar (.bool b) => .ok (.scalar (.bool !b))
  | .parens, v => .ok v
  | .length, .scalar (.str text) => .ok (int text.utf8ByteSize)
  | .length, .scalar (.bytes data) => .ok (int data.length)
  | .length, .set elements => .ok (int elements.card)
  | _, _ => .error .invalidType

/-- Things of every kind can be told apart. -/
def equality {α : Type} [DecidableEq α] (op : Binary) (x y : α) : Except Fault Value :=
  match op with
  | .equal => .ok (truth (x = y))
  | .notEqual => .ok (truth (x ≠ y))
  | _ => .error .invalidType

def comparison {α : Type} [LinearOrder α] (op : Binary) (x y : α) : Except Fault Value :=
  match op with
  | .lessThan => .ok (truth (x < y))
  | .greaterThan => .ok (truth (y < x))
  | .lessOrEqual => .ok (truth (x ≤ y))
  | .greaterOrEqual => .ok (truth (y ≤ x))
  | _ => equality op x y

/-- Division is towards zero. -/
def integers (op : Binary) (i j : Int) : Except Fault Value :=
  match op with
  | .add => .ok (int (i + j))
  | .sub => .ok (int (i - j))
  | .mul => .ok (int (i * j))
  | .div => if j = 0 then .error .divideByZero else .ok (int (i.tdiv j))
  | .bitAnd => .ok (int (BitVec.ofInt 64 i &&& BitVec.ofInt 64 j).toInt)
  | .bitOr => .ok (int (BitVec.ofInt 64 i ||| BitVec.ofInt 64 j).toInt)
  | .bitXor => .ok (int (BitVec.ofInt 64 i ^^^ BitVec.ofInt 64 j).toInt)
  | _ => comparison op i j

def texts (search : String → String → Except String Bool) (op : Binary) (left right : String) :
    Except Fault Value :=
  match op with
  | .contains => .ok (truth (right.toList <:+: left.toList))
  | .startsWith => .ok (truth (right.toList <+: left.toList))
  | .endsWith => .ok (truth (right.toList <:+ left.toList))
  | .regex =>
    match search right left with
    | .ok found => .ok (truth found)
    | .error reason => .error (.invalidRegex reason)
  | .add => .ok (.scalar (.str (left ++ right)))
  | _ => equality op left right

def bools (op : Binary) (a b : Bool) : Except Fault Value :=
  match op with
  | .and => .ok (truth (a ∧ b))
  | .or => .ok (truth (a ∨ b))
  | _ => equality op a b

def sets (op : Binary) (s t : Finset Scalar) : Except Fault Value :=
  match op with
  | .contains => .ok (truth (t ⊆ s))
  | .intersection => .ok (.set (s ∩ t))
  | .union => .ok (.set (s ∪ t))
  | _ => equality op s t

def binary (search : String → String → Except String Bool) (op : Binary) :
    Value → Value → Except Fault Value
  | .scalar (.int i), .scalar (.int j) => integers op i j
  | .scalar (.str a), .scalar (.str b) => texts search op a b
  | .scalar (.date i), .scalar (.date j) => comparison op i j
  | .scalar (.bytes a), .scalar (.bytes b) => equality op a b
  | .scalar (.bool a), .scalar (.bool b) => bools op a b
  | .set s, .set t => sets op s t
  | .set s, .scalar c =>
    match op with
    | .contains => .ok (truth (c ∈ s))
    | _ => .error .invalidType
  | _, _ => .error .invalidType

end Value

/-- A step of a program on values. -/
inductive Instruction where
  | push (v : Value)
  | load (name : String)
  | unary (op : Unary)
  | binary (op : Binary)
  deriving DecidableEq

namespace Instruction

variable (search : String → String → Except String Bool) (values : List (String × Value))

/-- One step on the stack, whose top comes first. -/
def run : Instruction → List Value → Except Fault (List Value)
  | .push v, stack => .ok (v :: stack)
  | .load name, stack =>
    match values.lookup name with
    | some v => .ok (v :: stack)
    | none => .error (.unknownVariable name)
  | .unary op, operand :: stack => return (← Value.unary op operand) :: stack
  | .binary op, right :: left :: stack => return (← Value.binary search op left right) :: stack
  | _, _ => .error .invalidStack

/-- The value that is left when all has run, which must be the only one. -/
def evaluate (program : List Instruction) : Except Fault Value := do
  match ← program.foldlM (fun stack step => step.run search values stack) [] with
  | [result] => return result
  | _ => .error .invalidStack

end Instruction

/-! What terms denote, over any kind of name that stands for a text. -/

section Denoting

variable {σ : Type} (text : σ → Option String)

def Term.scalar? : Term σ → Option Scalar
  | .int i => some (.int i.toInt)
  | .str name => (text name).map .str
  | .date d => some (.date d.toNat)
  | .bytes b => some (.bytes b)
  | .bool b => some (.bool b)
  | .var _ | .set _ => none

/-- The value of a term, unless it holds a variable, a set in a set or a name without a text. -/
def Term.value? : Term σ → Option Value
  | .set elements =>
    if elements.all fun t => (t.scalar? text).isSome then
      some (.set (elements.filterMap (Term.scalar? text)).toFinset)
    else none
  | t => (t.scalar? text).map .scalar

def Op.instruction? : Op σ → Option Instruction
  | .value (.var name) => (text name).map .load
  | .value t => (t.value? text).map .push
  | .unary op => some (.unary op)
  | .binary op => some (.binary op)

def Expression.program? (e : Expression σ) : Option (List Instruction) :=
  e.ops.mapM (Op.instruction? text)

def Binding.values? (text : Nat → Option String) (b : Binding) : Option (List (String × Value)) :=
  b.entries.mapM fun (v, t) => return (← text v, ← t.value? text)

end Denoting

section Denoted

variable {σ : Type} {text : σ → Option String} {t : Term σ} {l : List (Term σ)} {v : Value}
  {S : Finset Scalar}

theorem Term.isPlain_of_scalar? (h : ∃ c, t.scalar? text = some c) : t.isPlain := by
  obtain ⟨c, h⟩ := h
  cases t <;> first | rfl | cases h

theorem Term.exists_of_value?_set (h : (Term.set l).value? text = some v) : ∃ S, v = .set S := by
  simp only [value?] at h
  split at h
  · exact ⟨_, (Option.some.inj h).symm⟩
  · cases h

theorem Term.value?_set_iff : (Term.set l).value? text = some (.set S) ↔
    (∀ t ∈ l, ∃ c, t.scalar? text = some c) ∧ ∀ c, c ∈ S ↔ ∃ t ∈ l, t.scalar? text = some c := by
  have elements : (l.all fun t => (t.scalar? text).isSome) ↔
      ∀ t ∈ l, ∃ c, t.scalar? text = some c := by
    simp only [List.all_eq_true, Option.isSome_iff_exists]
  simp only [value?, Option.ite_none_right_eq_some, elements, Option.some.injEq, Value.set.injEq]
  refine and_congr_right fun _ => ?_
  rw [eq_comm, Finset.ext_iff]
  simp only [List.mem_toFinset, List.mem_filterMap]

/-! With more texts nothing changes that had a value. -/

section Mono

variable {more : σ → Option String} (mono : ∀ name s, text name = some s → more name = some s)

include mono

theorem Term.scalar?_mono {c : Scalar} (h : t.scalar? text = some c) :
    t.scalar? more = some c := by
  cases t with
  | str name =>
    obtain ⟨s, found, same⟩ := Option.map_eq_some_iff.1 h
    exact Option.map_eq_some_iff.2 ⟨s, mono name s found, same⟩
  | _ => exact h

theorem Term.value?_mono (h : t.value? text = some v) : t.value? more = some v := by
  cases t with
  | set l =>
    obtain ⟨S, rfl⟩ := exists_of_value?_set h
    obtain ⟨all, members⟩ := value?_set_iff.1 h
    refine value?_set_iff.2 ⟨fun t ht => (all t ht).imp fun _ => scalar?_mono mono, fun c => ?_⟩
    rw [members]
    refine exists_congr fun t => and_congr_right fun ht => ⟨scalar?_mono mono, fun later => ?_⟩
    obtain ⟨d, before⟩ := all t ht
    rw [before, ← scalar?_mono mono before, later]
  | _ =>
    simp only [value?, Option.map_eq_some_iff] at h ⊢
    exact h.imp fun _ both => both.imp_left (scalar?_mono mono)

theorem Op.instruction?_mono {op : Op σ} {step : Instruction}
    (h : op.instruction? text = some step) : op.instruction? more = some step := by
  cases op with
  | value t =>
    cases t with
    | var name =>
      obtain ⟨s, found, same⟩ := Option.map_eq_some_iff.1 h
      exact Option.map_eq_some_iff.2 ⟨s, mono name s found, same⟩
    | _ =>
      simp only [instruction?, Option.map_eq_some_iff] at h ⊢
      exact h.imp fun _ both => both.imp_left (Term.value?_mono mono)
  | _ => exact h

theorem Expression.program?_mono {e : Expression σ} {program : List Instruction}
    (h : e.program? text = some program) : e.program? more = some program :=
  mapM_eq_some_iff.2 ((mapM_eq_some_iff.1 h).imp fun _ _ => Op.instruction?_mono mono)

end Mono

end Denoted

section Bound

variable {text more : Nat → Option String} {b : Binding} {env : List (String × Value)}

theorem Binding.values?_eq_some_iff : b.values? text = some env ↔
    List.Forall₂ (fun p q => text p.1 = some q.1 ∧ p.2.value? text = some q.2) b.entries env := by
  have entry (p : Nat × Term Nat) (q : String × Value) :
      ((do return (← text p.1, ← p.2.value? text) : Option (String × Value)) = some q) =
        (text p.1 = some q.1 ∧ p.2.value? text = some q.2) := by
    obtain ⟨name, v⟩ := q
    simp [Option.bind_eq_some_iff]
  simp only [values?, mapM_eq_some_iff, entry]

theorem Binding.values?_mono (mono : ∀ name s, text name = some s → more name = some s)
    (h : b.values? text = some env) : b.values? more = some env :=
  values?_eq_some_iff.2 ((values?_eq_some_iff.1 h).imp fun _ _ both =>
    ⟨mono _ _ both.1, Term.value?_mono mono both.2⟩)

end Bound

/-- A set that holds plain values, in order; every other term is valid. -/
def Term.Valid {σ : Type} [Ord σ] : Term σ → Prop
  | .set elements => Sorted.Increasing elements ∧ ∀ t ∈ elements, t.isPlain
  | _ => True

instance {σ : Type} [Ord σ] : (t : Term σ) → Decidable t.Valid
  | .set elements => inferInstanceAs (Decidable (List.Pairwise _ elements ∧ ∀ t ∈ elements, _))
  | .var _ | .int _ | .str _ | .date _ | .bytes _ | .bool _ => .isTrue trivial

/-! Answers that say the same. -/

/-- Related results, or one fault. -/
inductive Answers {α β : Type} (R : α → β → Prop) : Except Fault α → Except Fault β → Prop
  | ok {a : α} {b : β} (related : R a b) : Answers R (.ok a) (.ok b)
  | error (f : Fault) : Answers R (.error f) (.error f)

theorem Answers.bind {α β γ δ : Type} {R : α → β → Prop} {S : γ → δ → Prop} {x : Except Fault α}
    {y : Except Fault β} {f : α → Except Fault γ} {g : β → Except Fault δ} (h : Answers R x y)
    (next : ∀ a b, R a b → Answers S (f a) (g b)) : Answers S (x >>= f) (y >>= g) := by
  cases h with
  | ok related => exact next _ _ related
  | error f => exact .error f

/-! Written terms. -/

namespace Term

variable {t r : Term String} {c d : Scalar} {v w : Value} {l r : List (Term String)}
  {S R : Finset Scalar}

/-- A written term and its value. -/
def Denotes (t : Term String) (v : Value) : Prop := t.Valid ∧ t.value? some = some v

theorem denotes_truth {b : Bool} {p : Prop} [Decidable p] (h : b = true ↔ p) :
    Denotes (.bool b) (.truth p) := by
  refine ⟨trivial, ?_⟩
  rw [Value.truth, ← Bool.decide_congr h, Bool.decide_eq_true]
  rfl

theorem denotes_int {i : Int64} {k : Int} (h : i.toInt = Value.wrap k) :
    Denotes (.int i) (.int k) := by
  refine ⟨trivial, ?_⟩
  rw [Value.int, ← h]
  rfl

theorem denotes_length (n : Nat) : Denotes (.int (.ofNat n)) (.int n) :=
  denotes_int Int64.toInt_ofNat'

end Term

/-- The term of a scalar. -/
def Scalar.term : Scalar → Term String
  | .int i => .int (.ofInt i)
  | .str text => .str text
  | .date seconds => .date (.ofNat seconds)
  | .bytes data => .bytes data
  | .bool b => .bool b

namespace Term

variable {t : Term String} {c : Scalar} {v : Value} {l r : List (Term String)}
  {S R : Finset Scalar}

theorem eq_term_of_scalar? (h : t.scalar? some = some c) : t = c.term := by
  cases t with
  | int i =>
    cases h
    exact congrArg _ (Int64.ofInt_toInt i).symm
  | date d =>
    cases h
    exact congrArg _ UInt64.ofNat_toNat.symm
  | _ => cases h <;> rfl

/-- The scalar of a term tells it from every other one. -/
theorem scalar?_inj {a b : Term String} (ha : a.scalar? some = some c)
    (hb : b.scalar? some = some c) : a = b :=
  (eq_term_of_scalar? ha).trans (eq_term_of_scalar? hb).symm

theorem denotes_set_iff : Denotes (.set l) (.set S) ↔ Sorted.Increasing l ∧
    (∀ t ∈ l, ∃ c, t.scalar? some = some c) ∧
      ∀ c, c ∈ S ↔ ∃ t ∈ l, t.scalar? some = some c := by
  rw [Denotes, value?_set_iff]
  constructor
  · exact fun ⟨⟨increasing, _⟩, all, members⟩ => ⟨increasing, all, members⟩
  · exact fun ⟨increasing, all, members⟩ =>
      ⟨⟨increasing, fun t ht => isPlain_of_scalar? (all t ht)⟩, all, members⟩

/-- A term is in a set when its scalar is in the value of the set. -/
theorem mem_iff_of_denotes (set : Denotes (.set l) (.set S)) (h : t.scalar? some = some c) :
    t ∈ l ↔ c ∈ S := by
  obtain ⟨-, -, members⟩ := denotes_set_iff.1 set
  rw [members]
  constructor
  · exact fun mem => ⟨t, mem, h⟩
  · rintro ⟨a, mem, same⟩
    rwa [← scalar?_inj same h]

theorem length_of_denotes (set : Denotes (.set l) (.set S)) : l.length = S.card := by
  obtain ⟨increasing, all, members⟩ := denotes_set_iff.1 set
  have nodup : (l.filterMap (scalar? some)).Nodup :=
    (Sorted.increasing_nodup increasing).filterMap fun a b c ha hb =>
      scalar?_inj (Option.mem_def.1 ha) (Option.mem_def.1 hb)
  have same : S = (l.filterMap (scalar? some)).toFinset := by
    ext c
    rw [members, List.mem_toFinset, List.mem_filterMap]
  rw [same, List.toFinset_card_of_nodup nodup, eq_comm, List.filterMap_length_eq_length]
  exact fun t ht => Option.isSome_iff_exists.2 (all t ht)

section Pair

variable (left : Denotes (.set l) (.set S)) (right : Denotes (.set r) (.set R))

include left right

theorem subset_iff_of_denotes : l ⊆ r ↔ S ⊆ R := by
  obtain ⟨-, all, members⟩ := denotes_set_iff.1 left
  constructor
  · intro sub c hc
    obtain ⟨t, ht, same⟩ := (members c).1 hc
    exact (mem_iff_of_denotes right same).1 (sub ht)
  · intro sub t ht
    obtain ⟨c, same⟩ := all t ht
    exact (mem_iff_of_denotes right same).2 (sub ((mem_iff_of_denotes left same).1 ht))

theorem eq_iff_of_denotes : l = r ↔ S = R := by
  constructor
  · rintro rfl
    exact Value.set.inj (Option.some.inj (left.2.symm.trans right.2))
  · rintro rfl
    refine Sorted.increasing_ext left.1.1 right.1.1 fun t => ⟨fun ht => ?_, fun ht => ?_⟩
    · exact (subset_iff_of_denotes left right).2 subset_rfl ht
    · exact (subset_iff_of_denotes right left).2 subset_rfl ht

theorem denotes_union : Denotes (.set (Sorted.union l r)) (.set (S ∪ R)) := by
  obtain ⟨increasing, all, members⟩ := denotes_set_iff.1 left
  obtain ⟨increasing', all', members'⟩ := denotes_set_iff.1 right
  refine denotes_set_iff.2 ⟨Sorted.union_increasing l increasing', fun t ht => ?_, fun c => ?_⟩
  · exact (Sorted.mem_union.1 ht).elim (all t) (all' t)
  · rw [Finset.mem_union, members, members']
    simp only [Sorted.mem_union, or_and_right, exists_or]

theorem denotes_inter : Denotes (.set (Sorted.inter l r)) (.set (S ∩ R)) := by
  obtain ⟨increasing, all, members⟩ := denotes_set_iff.1 left
  refine denotes_set_iff.2 ⟨increasing.filter _, fun t ht => ?_, fun c => ?_⟩
  · exact all t (Sorted.mem_inter.1 ht).1
  · rw [Finset.mem_inter, members]
    constructor
    · rintro ⟨⟨t, ht, same⟩, hc⟩
      exact ⟨t, Sorted.mem_inter.2 ⟨ht, (mem_iff_of_denotes right same).2 hc⟩, same⟩
    · rintro ⟨t, ht, same⟩
      obtain ⟨ht, there⟩ := Sorted.mem_inter.1 ht
      exact ⟨⟨t, ht, same⟩, (mem_iff_of_denotes right same).1 there⟩

end Pair

end Term

/-! Operators. -/

open Term (Denotes denotes_truth denotes_int denotes_length)

section Operators

variable {t r : Term String} {v w : Value}

theorem Unary.answers (op : Unary) (h : t.Denotes v) :
    Answers Denotes (op.value t) (Value.unary op v) := by
  cases op with
  | parens => exact .ok h
  | negate =>
    cases t with
    | bool b =>
      obtain ⟨-, same⟩ := h
      cases same
      exact .ok ⟨trivial, rfl⟩
    | set l =>
      obtain ⟨S, rfl⟩ := Term.exists_of_value?_set h.2
      exact .error _
    | _ =>
      obtain ⟨-, same⟩ := h
      cases same <;> exact .error _
  | length =>
    cases t with
    | set l =>
      obtain ⟨S, rfl⟩ := Term.exists_of_value?_set h.2
      have count : Denotes (.int (.ofNat l.length)) (.int S.card) := by
        rw [Term.length_of_denotes h]
        exact denotes_length _
      exact .ok count
    | _ =>
      obtain ⟨-, same⟩ := h
      cases same <;> first | exact .ok (denotes_length _) | exact .error _

theorem toInt_eq_wrap_toBitVec {i : Int64} {b : BitVec 64} (h : i.toBitVec = b) :
    i.toInt = Value.wrap b.toInt := by
  rw [Value.wrap, ← h, Int64.toInt_toBitVec]
  exact (Int64.toInt_bmod i).symm

theorem Binary.answers_integers (op : Binary) (i j : Int64) :
    Answers Denotes ((onIntegers op i j).mapError .ofOperator)
      (Value.integers op i.toInt j.toInt) := by
  have bits (k : Int64) : BitVec.ofInt 64 k.toInt = k.toBitVec := by
    rw [← Int64.toInt_toBitVec, BitVec.ofInt_toInt]
  cases op
  case lessThan => exact .ok (denotes_truth (decide_eq_true_iff.trans Int64.lt_iff_toInt_lt))
  case greaterThan => exact .ok (denotes_truth (decide_eq_true_iff.trans Int64.lt_iff_toInt_lt))
  case lessOrEqual => exact .ok (denotes_truth (decide_eq_true_iff.trans Int64.le_iff_toInt_le))
  case greaterOrEqual => exact .ok (denotes_truth (decide_eq_true_iff.trans Int64.le_iff_toInt_le))
  case equal => exact .ok (denotes_truth (beq_iff_eq.trans Int64.toInt_inj.symm))
  case notEqual => exact .ok (denotes_truth (bne_iff_ne.trans Int64.toInt_inj.not.symm))
  case add => exact .ok (denotes_int (Int64.toInt_add i j))
  case sub => exact .ok (denotes_int (Int64.toInt_sub i j))
  case mul => exact .ok (denotes_int (Int64.toInt_mul i j))
  case div =>
    unfold onIntegers Value.integers
    by_cases zero : j = 0
    · subst zero
      exact .error _
    · have nonzero : ¬j.toInt = 0 := by rwa [← Int64.toInt_zero, Int64.toInt_inj]
      rw [if_neg zero, if_neg nonzero]
      exact .ok (denotes_int (Int64.toInt_div i j))
  case bitAnd =>
    exact .ok (denotes_int (toInt_eq_wrap_toBitVec (by rw [Int64.toBitVec_and, bits, bits])))
  case bitOr =>
    exact .ok (denotes_int (toInt_eq_wrap_toBitVec (by rw [Int64.toBitVec_or, bits, bits])))
  case bitXor =>
    exact .ok (denotes_int (toInt_eq_wrap_toBitVec (by rw [Int64.toBitVec_xor, bits, bits])))
  all_goals exact .error _

theorem Binary.answers_dates (op : Binary) (i j : UInt64) :
    Answers Denotes ((onDates op i j).mapError .ofOperator)
      (Value.comparison op i.toNat j.toNat) := by
  cases op
  case lessThan => exact .ok (denotes_truth (decide_eq_true_iff.trans UInt64.lt_iff_toNat_lt))
  case greaterThan => exact .ok (denotes_truth (decide_eq_true_iff.trans UInt64.lt_iff_toNat_lt))
  case lessOrEqual => exact .ok (denotes_truth (decide_eq_true_iff.trans UInt64.le_iff_toNat_le))
  case greaterOrEqual => exact .ok (denotes_truth (decide_eq_true_iff.trans UInt64.le_iff_toNat_le))
  case equal => exact .ok (denotes_truth (beq_iff_eq.trans UInt64.toNat_inj.symm))
  case notEqual => exact .ok (denotes_truth (bne_iff_ne.trans UInt64.toNat_inj.not.symm))
  all_goals exact .error _

theorem Binary.answers_bytes (op : Binary) (a b : List UInt8) :
    Answers Denotes ((onBytes op a b).mapError .ofOperator) (Value.equality op a b) := by
  cases op
  case equal => exact .ok (denotes_truth beq_iff_eq)
  case notEqual => exact .ok (denotes_truth bne_iff_ne)
  all_goals exact .error _

theorem Binary.answers_bools (op : Binary) (a b : Bool) :
    Answers Denotes ((onBools op a b).mapError .ofOperator) (Value.bools op a b) := by
  cases op
  case equal => exact .ok (denotes_truth beq_iff_eq)
  case notEqual => exact .ok (denotes_truth bne_iff_ne)
  case and => exact .ok (denotes_truth (Bool.and_eq_true_iff))
  case or => exact .ok (denotes_truth (Bool.or_eq_true_iff))
  all_goals exact .error _

theorem occursIn_iff {part whole : List Char} : occursIn part whole ↔ part <:+: whole := by
  induction whole with
  | nil => rw [occursIn, List.isEmpty_iff, List.infix_nil]
  | cons c rest ih =>
    rw [occursIn, Bool.or_eq_true, ih, List.isPrefixOf_iff_prefix, List.infix_cons_iff]

theorem Binary.answers_texts [Patterns] (op : Binary) (left right : String) :
    Answers Denotes (ofTexts op left right) (Value.texts Patterns.search op left right) := by
  cases op
  case equal => exact .ok (denotes_truth beq_iff_eq)
  case notEqual => exact .ok (denotes_truth bne_iff_ne)
  case startsWith => exact .ok (denotes_truth List.isPrefixOf_iff_prefix)
  case endsWith => exact .ok (denotes_truth List.isSuffixOf_iff_suffix)
  case contains => exact .ok (denotes_truth occursIn_iff)
  case regex =>
    unfold ofTexts Value.texts
    cases Patterns.search right left with
    | ok found => exact .ok (denotes_truth Iff.rfl)
    | error reason => exact .error _
  case add => exact .ok ⟨trivial, rfl⟩
  all_goals exact .error _

theorem Binary.answers_sets (op : Binary) {l r : List (Term String)} {S R : Finset Scalar}
    (left : Denotes (.set l) (.set S)) (right : Denotes (.set r) (.set R)) :
    Answers Denotes ((onSets op l r).mapError .ofOperator) (Value.sets op S R) := by
  have same := Term.eq_iff_of_denotes left right
  cases op
  case equal => exact .ok (denotes_truth (beq_iff_eq.trans same))
  case notEqual => exact .ok (denotes_truth (bne_iff_ne.trans same.not))
  case intersection => exact .ok (Term.denotes_inter left right)
  case union => exact .ok (Term.denotes_union left right)
  case contains =>
    have part := Term.subset_iff_of_denotes right left
    exact .ok (denotes_truth (Sorted.subset_iff.trans part))
  all_goals exact .error _

theorem Binary.answers_contains [Patterns] (op : Binary) {l : List (Term String)}
    {S : Finset Scalar}
    (set : Denotes (.set l) (.set S)) {c : Scalar} (h : t.scalar? some = some c) :
    Answers Denotes (op.value (.set l) t)
      (Value.binary Patterns.search op (.set S) (.scalar c)) := by
  have member := Term.mem_iff_of_denotes set h
  cases t with
  | var | set => cases h
  | _ =>
    cases op
    case contains => exact .ok (denotes_truth (Sorted.contains_iff.trans member))
    all_goals exact .error _

theorem Binary.answers [Patterns] (op : Binary) (left : t.Denotes v) (right : r.Denotes w) :
    Answers Denotes (op.value t r) (Value.binary Patterns.search op v w) := by
  cases t with
  | set l =>
    obtain ⟨S, rfl⟩ := Term.exists_of_value?_set left.2
    cases r with
    | set r =>
      obtain ⟨R, rfl⟩ := Term.exists_of_value?_set right.2
      exact op.answers_sets left right
    | _ =>
      obtain ⟨-, same⟩ := right
      cases same <;> exact op.answers_contains left rfl
  | var => cases left.2
  | _ =>
    obtain ⟨-, same⟩ := left
    cases same
    cases r with
    | set =>
      obtain ⟨R, rfl⟩ := Term.exists_of_value?_set right.2
      exact .error _
    | _ =>
      obtain ⟨-, same⟩ := right
      cases same <;> first
        | exact op.answers_integers _ _
        | exact op.answers_texts _ _
        | exact op.answers_dates _ _
        | exact op.answers_bytes _ _
        | exact op.answers_bools _ _
        | exact .error _

end Operators

/-! Programs. -/

variable [Patterns]

/-- A written step and what it is on values. -/
def Op.Denotes (op : Op String) (step : Instruction) : Prop :=
  (∀ t, op = .value t → t.Valid) ∧ op.instruction? some = some step

section Programs

variable {values : String → Option (Term String)} {env : List (String × Value)}
  {stack : List (Term String)} {results : List Value}

/-- Pushing a literal, or what a variable stands for. -/
theorem Op.answers_value (reads : ∀ name, Option.Rel Term.Denotes (values name) (env.lookup name))
    {t : Term String} {step : Instruction} (denotes : (Op.value t).Denotes step)
    (related : List.Forall₂ Term.Denotes stack results) :
    Answers (List.Forall₂ Term.Denotes) ((Op.value t).value? values stack)
      (step.run Patterns.search env results) := by
  obtain ⟨valid, same⟩ := denotes
  cases t with
  | var name =>
    cases same
    have both := reads name
    simp only [Op.value?, Instruction.run]
    cases found : values name <;> cases found' : env.lookup name <;> rw [found, found'] at both
    · exact .error _
    · cases both
    · cases both
    · cases both with
      | some denotes => exact .ok (.cons denotes related)
  | _ =>
    simp only [instruction?, Option.map_eq_some_iff] at same
    obtain ⟨v, value, rfl⟩ := same
    exact .ok (.cons ⟨valid _ rfl, value⟩ related)

theorem Op.answers (reads : ∀ name, Option.Rel Term.Denotes (values name) (env.lookup name))
    {op : Op String} {step : Instruction} (denotes : op.Denotes step)
    (related : List.Forall₂ Term.Denotes stack results) :
    Answers (List.Forall₂ Term.Denotes) (op.value? values stack)
      (step.run Patterns.search env results) := by
  cases op with
  | value t => exact answers_value reads denotes related
  | unary op =>
    cases denotes.2
    cases related with
    | nil => exact .error _
    | cons operand rest =>
      exact (op.answers operand).bind fun _ _ result => .ok (.cons result rest)
  | binary op =>
    cases denotes.2
    rcases related with _ | ⟨right, _ | ⟨left, rest⟩⟩
    · exact .error _
    · exact .error _
    · exact (op.answers left right).bind fun _ _ result => .ok (.cons result rest)

theorem foldlM_answers (reads : ∀ name, Option.Rel Term.Denotes (values name) (env.lookup name))
    {ops : List (Op String)} {program : List Instruction}
    (denotes : List.Forall₂ Op.Denotes ops program)
    (related : List.Forall₂ Term.Denotes stack results) :
    Answers (List.Forall₂ Term.Denotes)
      (ops.foldlM (fun stack op => op.value? values stack) stack)
      (program.foldlM (fun stack step => step.run Patterns.search env stack) results) := by
  induction denotes generalizing stack results with
  | nil => exact .ok related
  | cons first _ ih =>
    rw [List.foldlM_cons, List.foldlM_cons]
    exact (Op.answers reads first related).bind fun _ _ next => ih next

/-- A written program comes to what it comes to on values. -/
theorem Expression.answers
    (reads : ∀ name, Option.Rel Term.Denotes (values name) (env.lookup name))
    {e : Expression String} {program : List Instruction}
    (denotes : List.Forall₂ Op.Denotes e.ops program) :
    Answers Term.Denotes (e.value values) (Instruction.evaluate Patterns.search env program) := by
  refine (foldlM_answers reads denotes .nil).bind fun out results last => ?_
  rcases last with _ | ⟨result, _ | ⟨_, _⟩⟩
  · exact .error _
  · exact .ok result
  · exact .error _

end Programs

end Warrant
