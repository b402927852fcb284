import Warrant.Expression

/-! Programs that leave exactly one value on the stack.
Whether they do is a matter of the kinds of operations alone. A program that ends with a value is
balanced, and one that fails for a fault of its own is not (`balanced_of_evaluate`,
`not_balanced_of_evaluate`); so a list of expressions that some binding passes has no fault under
any binding. -/

namespace Warrant

namespace Op

variable {σ : Type}

/-- The height of the stack after an operation, if there are operands enough. -/
def height? : Op σ → Nat → Option Nat
  | .value _, n => some (n + 1)
  | .unary _, n + 1 => some (n + 1)
  | .binary _, n + 2 => some (n + 1)
  | _, _ => none

end Op

/-- Whether a program has its operands at every step and leaves one value. -/
def Expression.IsBalanced {σ : Type} (e : Expression σ) : Prop :=
  e.ops.foldlM (fun n op => op.height? n) 0 = some 1

instance {σ : Type} (e : Expression σ) : Decidable e.IsBalanced :=
  inferInstanceAs (Decidable (_ = _))

/-! No operator blames the program: it sees only the values. -/

/-- Never fails for a fault of the program. -/
def Eval.Blameless {α : Type} (m : Eval α) : Prop := ∀ s, m s ≠ .error .invalidStack

namespace Eval

variable {α β : Type}

theorem blameless_pure (a : α) : Blameless (pure a) := fun _ => nofun

theorem blameless_throw {e : ExpressionError} (h : e ≠ .invalidStack) :
    Blameless (throw e : Eval α) := fun _ same => h (Except.error.inj same)

theorem blameless_lift {x : Except ExpressionError α} (h : x ≠ .error .invalidStack) :
    Blameless (x : Eval α) := by
  intro s same
  cases x with
  | ok a => cases same
  | error e => exact h (congrArg _ (Except.error.inj same))

theorem blameless_bind {m : Eval α} {f : α → Eval β} (hm : Blameless m)
    (hf : ∀ a, Blameless (f a)) : Blameless (m >>= f) := by
  intro s same
  change (m s).bind (fun p => f p.1 p.2) = _ at same
  cases first : m s with
  | error e =>
    rw [first] at same
    exact hm s (first.trans (congrArg _ (Except.error.inj same)))
  | ok p =>
    rw [first] at same
    exact hf p.1 p.2 same

theorem blameless_text (id : Nat) : Blameless (text id) := by
  intro s
  unfold text
  split <;> simp

theorem blameless_intern (text : String) : Blameless (intern text) := fun _ => nofun

end Eval

theorem Unary.apply_ne_invalidStack (op : Unary) (s : Scratch) (t : Term Nat) :
    op.apply s t ≠ .error .invalidStack := by
  unfold Unary.apply
  split
  case h_3 => split <;> simp
  all_goals simp

namespace Binary

open Eval

theorem onIntegers_ne_invalidStack (op : Binary) (i j : Int64) :
    (onIntegers op i j : Except _ (Term Nat)) ≠ .error .invalidStack := by
  unfold onIntegers
  split
  case h_10 => split <;> simp
  all_goals simp

theorem onDates_ne_invalidStack (op : Binary) (i j : UInt64) :
    (onDates op i j : Except _ (Term Nat)) ≠ .error .invalidStack := by
  unfold onDates
  split <;> simp

theorem onBytes_ne_invalidStack (op : Binary) (i j : List UInt8) :
    (onBytes op i j : Except _ (Term Nat)) ≠ .error .invalidStack := by
  unfold onBytes
  split <;> simp

theorem onBools_ne_invalidStack (op : Binary) (i j : Bool) :
    (onBools op i j : Except _ (Term Nat)) ≠ .error .invalidStack := by
  unfold onBools
  split <;> simp

theorem onSets_ne_invalidStack (op : Binary) (s t : List (Term Nat)) :
    onSets op s t ≠ .error .invalidStack := by
  unfold onSets
  split <;> simp

variable [Patterns]

theorem onTexts_blameless (op : Binary) (left right : String) :
    Blameless (onTexts op left right) := by
  unfold onTexts
  split
  · exact blameless_pure _
  · exact blameless_pure _
  · exact blameless_pure _
  · split
    · exact blameless_pure _
    · exact blameless_throw (by simp)
  · exact blameless_bind (blameless_intern _) fun _ => blameless_pure _
  · exact blameless_throw (by simp)

theorem onStrings_blameless (op : Binary) (i j : Nat) : Blameless (onStrings op i j) := by
  have texts : Blameless (do
      let left ← Eval.text i
      let right ← Eval.text j
      onTexts op left right) :=
    blameless_bind (blameless_text i) fun left =>
      blameless_bind (blameless_text j) fun right => onTexts_blameless op left right
  unfold onStrings
  split
  · exact blameless_pure _
  · exact blameless_pure _
  · exact texts
  · exact texts
  · exact texts
  · exact texts
  · exact texts
  · exact blameless_throw (by simp)

theorem apply_blameless (op : Binary) (left right : Term Nat) :
    Blameless (op.apply left right) := by
  unfold apply
  split
  · exact blameless_lift (onIntegers_ne_invalidStack op _ _)
  · exact onStrings_blameless op _ _
  · exact blameless_lift (onDates_ne_invalidStack op _ _)
  · exact blameless_lift (onBytes_ne_invalidStack op _ _)
  · exact blameless_lift (onBools_ne_invalidStack op _ _)
  · exact blameless_lift (onSets_ne_invalidStack op _ _)
  · exact blameless_throw (by simp)
  · split
    · exact blameless_pure _
    · exact blameless_throw (by simp)
  · exact blameless_throw (by simp)

end Binary

theorem Eval.bind_eq_ok {α β : Type} {m : Eval α} {f : α → Eval β} {s : Scratch} {r : β × Scratch} :
    (m >>= f) s = .ok r ↔ ∃ a t, m s = .ok (a, t) ∧ f a t = .ok r := by
  change (m s).bind (fun p => f p.1 p.2) = _ ↔ _
  cases m s with
  | error e => simp [Except.bind]
  | ok p =>
    refine ⟨fun h => ⟨p.1, p.2, rfl, h⟩, ?_⟩
    rintro ⟨a, t, same, h⟩
    cases same
    exact h

theorem Eval.bind_eq_error {α β : Type} {m : Eval α} {f : α → Eval β} {s : Scratch}
    {e : ExpressionError} :
    (m >>= f) s = .error e ↔ m s = .error e ∨ ∃ a t, m s = .ok (a, t) ∧ f a t = .error e := by
  change (m s).bind (fun p => f p.1 p.2) = _ ↔ _
  cases m s with
  | error e => simp [Except.bind]
  | ok p =>
    refine ⟨fun h => .inr ⟨p.1, p.2, rfl, h⟩, ?_⟩
    rintro (h | ⟨a, t, same, h⟩)
    · cases h
    · cases same
      exact h

variable [Patterns]

section Run

variable {values : Binding} {stack rest : List (Term Nat)} {s t : Scratch}

theorem Op.height?_of_run {op : Op Nat} (h : op.run values stack s = .ok (rest, t)) :
    op.height? stack.length = some rest.length := by
  cases op with
  | value v =>
    have pushed : rest.length = stack.length + 1 := by
      cases v with
      | var v =>
        simp only [Op.run] at h
        cases found : values.get? v <;> rw [found] at h <;> cases h
        rfl
      | _ =>
        cases h
        rfl
    rw [pushed]
    rfl
  | unary op =>
    cases stack with
    | nil => cases h
    | cons operand stack =>
      obtain ⟨_, _, _, h⟩ := Eval.bind_eq_ok.1 h
      obtain ⟨_, _, _, h⟩ := Eval.bind_eq_ok.1 h
      cases h
      rfl
  | binary op =>
    rcases stack with _ | ⟨right, _ | ⟨left, stack⟩⟩
    · cases h
    · cases h
    · obtain ⟨_, _, _, h⟩ := Eval.bind_eq_ok.1 h
      cases h
      rfl

theorem Op.height?_of_fault {op : Op Nat} (h : op.run values stack s = .error .invalidStack) :
    op.height? stack.length = none := by
  cases op with
  | value v =>
    cases v with
    | var v =>
      simp only [Op.run] at h
      cases found : values.get? v <;> rw [found] at h <;> cases h
    | _ => cases h
  | unary op =>
    cases stack with
    | nil => rfl
    | cons operand stack =>
      obtain fault | ⟨scratch, _, _, h⟩ := Eval.bind_eq_error.1 h
      · cases fault
      · refine absurd h (Eval.blameless_bind ?_ (fun _ => Eval.blameless_pure _) _)
        exact Eval.blameless_lift (op.apply_ne_invalidStack scratch operand)
  | binary op =>
    rcases stack with _ | ⟨right, _ | ⟨left, stack⟩⟩
    · rfl
    · rfl
    · refine absurd h (Eval.blameless_bind ?_ (fun _ => Eval.blameless_pure _) _)
      exact op.apply_blameless left right

theorem foldlM_height?_of_run {ops : List (Op Nat)}
    (h : ops.foldlM (fun stack op => op.run values stack) stack s = .ok (rest, t)) :
    ops.foldlM (fun n op => op.height? n) stack.length = some rest.length := by
  induction ops generalizing stack s with
  | nil =>
    cases h
    rfl
  | cons op ops ih =>
    rw [List.foldlM_cons] at h ⊢
    obtain ⟨next, u, step, h⟩ := Eval.bind_eq_ok.1 h
    rw [Op.height?_of_run step]
    exact ih h

theorem foldlM_height?_of_fault {ops : List (Op Nat)}
    (h : ops.foldlM (fun stack op => op.run values stack) stack s = .error .invalidStack) :
    ops.foldlM (fun n op => op.height? n) stack.length = none := by
  induction ops generalizing stack s with
  | nil => cases h
  | cons op ops ih =>
    rw [List.foldlM_cons] at h ⊢
    rcases Eval.bind_eq_error.1 h with fault | ⟨next, u, step, h⟩
    · rw [Op.height?_of_fault fault]
      rfl
    · rw [Op.height?_of_run step]
      exact ih h

theorem Expression.balanced_of_evaluate {e : Expression Nat} {value : Term Nat}
    (h : e.evaluate values s = .ok (value, t)) : e.IsBalanced := by
  obtain ⟨stack, u, run, h⟩ := Eval.bind_eq_ok.1 h
  split at h
  · exact foldlM_height?_of_run run
  · cases h

theorem Expression.not_balanced_of_evaluate {e : Expression Nat}
    (h : e.evaluate values s = .error .invalidStack) : ¬ e.IsBalanced := by
  intro balanced
  rcases Eval.bind_eq_error.1 h with fault | ⟨stack, u, run, h⟩
  · exact nomatch (foldlM_height?_of_fault fault).symm.trans balanced
  · have one := (foldlM_height?_of_run run).symm.trans balanced
    split at h
    · cases h
    · rename_i other
      obtain ⟨value, rfl⟩ := List.length_eq_one_iff.1 (Option.some.inj one)
      exact other value rfl

end Run

section Holds

variable {values : Binding} {expressions : List (Expression Nat)} {symbols : Symbols}

theorem balanced_of_holdsAll {s : Scratch} (h : holdsAll values expressions s = .ok true) :
    ∀ e ∈ expressions, e.IsBalanced := by
  induction expressions generalizing s with
  | nil => simp
  | cons e rest ih =>
    simp only [holdsAll] at h
    split at h
    · rename_i run
      exact List.forall_mem_cons.2 ⟨Expression.balanced_of_evaluate run, ih h⟩
    · cases h
    · split at h <;> cases h

theorem fault_of_holdsAll {s : Scratch} {error : ExpressionError}
    (h : holdsAll values expressions s = .error error) :
    error = .invalidStack ∧ ∃ e ∈ expressions, ¬ e.IsBalanced := by
  induction expressions generalizing s with
  | nil => cases h
  | cons e rest ih =>
    simp only [holdsAll] at h
    split at h
    · obtain ⟨fault, f, hf, unbalanced⟩ := ih h
      exact ⟨fault, f, List.mem_cons_of_mem _ hf, unbalanced⟩
    · cases h
    · rename_i err run
      split at h
      · rename_i fatal
        cases h
        cases error <;> simp [ExpressionError.isFatal] at fatal
        exact ⟨rfl, e, List.mem_cons_self .., Expression.not_balanced_of_evaluate run⟩
      · cases h

/-- Where some binding passes, no other is a fault. -/
theorem keeps_ne_error {other : Binding} {error : ExpressionError}
    (h : keeps symbols expressions values = .ok true) :
    keeps symbols expressions other ≠ .error error := by
  intro fault
  obtain ⟨_, e, he, unbalanced⟩ := fault_of_holdsAll fault
  exact unbalanced (balanced_of_holdsAll h e he)

end Holds

end Warrant
