import Warrant.Proofs.Meaning

/-! Evaluation over ids keeps to what is written.
`Eval.Refines` compares a computation with its counterpart over strings, at a point where the table
and the scratch layer together make one sound table: both fail alike, or both give a result that is
related in the table as it is then. It holds of every operator, hence of every program, hence of
what the expressions of a rule make of a binding. -/

namespace Warrant

/-- The table and the strings made on top of it as one table. -/
def Scratch.flat (s : Scratch) : Symbols := { s.base with strings := s.base.strings ++ s.strings }

namespace Scratch

theorem text?_flat (s : Scratch) (id : Nat) : s.flat.text? id = s.text? id := by
  unfold Scratch.text? Symbols.text? flat offset
  by_cases low : id < Symbols.firstLocal
  · rw [if_pos low, if_pos low, if_neg (by omega)]
  · rw [if_neg low, if_neg low]
    split
    · rw [List.getElem?_append_right (by omega), Nat.sub_sub]
    · rw [List.getElem?_append_left (by omega)]

/-- Taking a string into the scratch layer is taking it into the one table. -/
theorem intern_flat (s : Scratch) (text : String) :
    Symbols.intern text s.flat = ((s.intern text).1, (s.intern text).2.flat) := by
  have known : s.flat.id? text =
      (s.base.id? text).or ((s.strings.idxOf? text).map (s.offset + ·)) := by
    have append : (s.base.strings ++ s.strings).idxOf? text =
        (s.base.strings.idxOf? text).or
          ((s.strings.idxOf? text).map (s.base.strings.length + ·)) := by
      simp only [List.idxOf?, List.findIdx?_append]
      congr 2
      funext i
      omega
    simp only [Symbols.id?, flat, append, offset, Option.orElse_eq_orElse, Option.orElse_eq_or,
      Option.map_or, Option.map_map, Option.or_assoc]
    congr 3
    funext i
    simp only [Function.comp_apply]
    omega
  unfold Symbols.intern Scratch.intern
  rw [known]
  cases s.base.id? text with
  | some id => rfl
  | none =>
    cases s.strings.idxOf? text with
    | some i => rfl
    | none => simp [flat, offset, Nat.add_assoc]

end Scratch

/-! Comparing one step with its counterpart. -/

section Refines

variable {α β γ δ : Type}

/-- A result that is related, in a table that has only grown, or an error for the same fault. -/
def Eval.Agrees (base : Symbols) (s : Scratch) (related : Symbols → α → β → Prop) :
    Except ExpressionError (α × Scratch) → Except Fault β → Prop
  | .ok (a, t), .ok b => t.flat.Sound ∧ s.flat.Grows t.flat ∧ related t.flat a b
  | .error e, .error f => e.fault? base = some f
  | _, _ => False

/-- What `m` does from `s` on is what `x` says. -/
def Eval.Refines (base : Symbols) (s : Scratch) (m : Eval α) (x : Except Fault β)
    (related : Symbols → α → β → Prop) : Prop :=
  Agrees base s related (m s) x

namespace Eval

variable {base : Symbols} {s : Scratch} {m : Eval α} {x : Except Fault β}
  {related : Symbols → α → β → Prop} {later : Symbols → γ → δ → Prop}

theorem refines_pure {a : α} {b : β} (sound : s.flat.Sound) (h : related s.flat a b) :
    Refines base s (pure a) (.ok b) related :=
  ⟨sound, .refl _, h⟩

theorem refines_throw {e : ExpressionError} {f : Fault} (h : e.fault? base = some f) :
    Refines base s (throw e : Eval α) (.error f : Except Fault β) related := h

theorem Agrees.grows {t : Scratch} {r : Except ExpressionError (α × Scratch)}
    (grows : s.flat.Grows t.flat) (h : Agrees base t related r x) : Agrees base s related r x := by
  cases r <;> cases x
  · exact h
  · exact h.elim
  · exact h.elim
  · obtain ⟨sound, further, holds⟩ := h
    exact ⟨sound, grows.trans further, holds⟩

theorem refines_bind {f : α → Eval γ} {g : β → Except Fault δ} (first : Refines base s m x related)
    (next : ∀ a b t, t.flat.Sound → s.flat.Grows t.flat → related t.flat a b →
      Refines base t (f a) (g b) later) :
    Refines base s (m >>= f) (x >>= g) later := by
  change Agrees base s later ((m s).bind fun p => f p.1 p.2) (x.bind g)
  unfold Refines at first
  cases run : m s <;> cases result : x <;> rw [run, result] at first
  · exact first
  · exact first.elim
  · exact first.elim
  · obtain ⟨sound, grows, holds⟩ := first
    exact (next _ _ _ sound grows holds).grows grows

/-- A step whose result is known beforehand. -/
theorem refines_bind_ok {b : β} {f : α → Eval γ} {y : Except Fault δ}
    (first : Refines base s m (.ok b) related)
    (next : ∀ a t, t.flat.Sound → s.flat.Grows t.flat → related t.flat a b →
      Refines base t (f a) y later) :
    Refines base s (m >>= f) y later := by
  unfold Refines at first
  change Agrees base s later ((m s).bind fun p => f p.1 p.2) y
  cases run : m s <;> rw [run] at first
  · exact first.elim
  · obtain ⟨sound, grows, holds⟩ := first
    exact (next _ _ sound grows holds).grows grows

/-- A step on values alone. -/
theorem refines_lift {y : Except ExpressionError α} (sound : s.flat.Sound)
    (h : match y, x with
      | .ok a, .ok b => related s.flat a b
      | .error e, .error f => e.fault? base = some f
      | _, _ => False) : Refines base s (y : Eval α) x related := by
  cases y <;> cases x
  · exact h
  · exact h.elim
  · exact h.elim
  · exact ⟨sound, .refl _, h⟩

theorem refines_text {id : Nat} {text : String} (sound : s.flat.Sound)
    (h : s.flat.text? id = some text) :
    Refines base s (Eval.text id) (.ok text) fun _ a b => a = b := by
  have found : Eval.text id s = .ok (text, s) := by
    unfold Eval.text
    rw [← Scratch.text?_flat, h]
  unfold Refines
  rw [found]
  exact ⟨sound, .refl _, rfl⟩

theorem refines_intern (text : String) (sound : s.flat.Sound) :
    Refines base s (Eval.intern text) (.ok text) fun u a b => u.text? a = some b := by
  have spec := sound.intern text
  rw [Scratch.intern_flat] at spec
  exact spec

/-- A step of an operator that sees neither strings nor variables. -/
theorem refines_operator {y : Except ExpressionError (Term Nat)}
    {z : Except ExpressionError (Term String)} (sound : s.flat.Sound)
    (h : (∃ a b, y = .ok a ∧ z = .ok b ∧ a.Names s.flat b) ∨
      ∃ e, y = .error e ∧ z = .error e ∧ e.fault? base = some (.ofOperator e)) :
    Refines base s (y : Eval (Term Nat)) (z.mapError .ofOperator) Term.Names := by
  refine refines_lift sound ?_
  rcases h with ⟨a, b, rfl, rfl, names⟩ | ⟨e, rfl, rfl, fault⟩
  · exact names
  · exact fault

end Eval

end Refines

/-! Sets that are read. -/

namespace Term

variable {u : Symbols} {l r : List (Term Nat)} {L R : List (Term String)} {t : Term Nat}
  {s : Term String}

theorem names_set_iff : Names u (.set l) (.set L) ↔ Sorted.Increasing l ∧ Sorted.Increasing L ∧
    (∀ t ∈ l, t.Proper u) ∧ ∀ s, s ∈ L ↔ ∃ t ∈ l, t.read u = s := by
  have mem (s : Term String) : s ∈ Sorted.ofList (l.map (rename u.textOf)) ↔
      ∃ t ∈ l, t.read u = s := by
    rw [Sorted.mem_ofList, List.mem_map]
    rfl
  constructor
  · rintro ⟨proper, same⟩
    rw [read, rename_set, Term.set.injEq] at same
    subst same
    cases proper with
    | set increasing elements =>
      exact ⟨increasing, Sorted.ofList_increasing _, elements, mem⟩
  · rintro ⟨increasing, increasing', elements, members⟩
    refine ⟨.set increasing elements, ?_⟩
    rw [read, rename_set]
    refine congrArg _ (Sorted.increasing_ext (Sorted.ofList_increasing _) increasing' fun s => ?_)
    rw [mem, members]

/-- An element is in a set when its reading is in the reading of the set. -/
theorem mem_iff_of_names (sound : u.Sound) (set : Names u (.set l) (.set L)) (h : Names u t s) :
    t ∈ l ↔ s ∈ L := by
  obtain ⟨-, -, elements, members⟩ := names_set_iff.1 set
  rw [members]
  constructor
  · exact fun mem => ⟨t, mem, h.2⟩
  · rintro ⟨a, mem, same⟩
    rwa [← read_inj sound (elements a mem) h.1 (same.trans h.2.symm)]

theorem contains_of_names (sound : u.Sound) (set : Names u (.set l) (.set L)) (h : Names u t s) :
    Sorted.contains l t = Sorted.contains L s := by
  rw [Bool.eq_iff_iff, Sorted.contains_iff, Sorted.contains_iff]
  exact mem_iff_of_names sound set h

section Pair

variable (left : Names u (.set l) (.set L)) (right : Names u (.set r) (.set R))

include left right

theorem names_union : Names u (.set (Sorted.union l r)) (.set (Sorted.union L R)) := by
  obtain ⟨-, -, elements, members⟩ := names_set_iff.1 left
  obtain ⟨increasing, increasing', elements', members'⟩ := names_set_iff.1 right
  refine names_set_iff.2 ⟨Sorted.union_increasing l increasing,
    Sorted.union_increasing L increasing', fun t ht => ?_, fun s => ?_⟩
  · exact (Sorted.mem_union.1 ht).elim (elements t) (elements' t)
  · rw [Sorted.mem_union, members, members']
    simp only [Sorted.mem_union, or_and_right, exists_or]

theorem subset_of_names (sound : u.Sound) : Sorted.subset l r = Sorted.subset L R := by
  obtain ⟨-, -, elements, members⟩ := names_set_iff.1 left
  rw [Bool.eq_iff_iff, Sorted.subset_iff, Sorted.subset_iff]
  constructor
  · intro sub s hs
    obtain ⟨t, ht, same⟩ := (members s).1 hs
    exact (mem_iff_of_names sound right ⟨elements t ht, same⟩).1 (sub ht)
  · intro sub t ht
    have names : Names u t (t.read u) := ⟨elements t ht, rfl⟩
    exact (mem_iff_of_names sound right names).2 (sub ((mem_iff_of_names sound left names).1 ht))

theorem names_inter (sound : u.Sound) :
    Names u (.set (Sorted.inter l r)) (.set (Sorted.inter L R)) := by
  obtain ⟨increasing, increasing', elements, members⟩ := names_set_iff.1 left
  refine names_set_iff.2 ⟨increasing.filter _, increasing'.filter _, fun t ht => ?_, fun s => ?_⟩
  · exact elements t (Sorted.mem_inter.1 ht).1
  · rw [Sorted.mem_inter, members]
    constructor
    · rintro ⟨⟨t, ht, same⟩, hs⟩
      have there := (mem_iff_of_names sound right ⟨elements t ht, same⟩).2 hs
      exact ⟨t, Sorted.mem_inter.2 ⟨ht, there⟩, same⟩
    · rintro ⟨t, ht, same⟩
      obtain ⟨ht, there⟩ := Sorted.mem_inter.1 ht
      exact ⟨⟨t, ht, same⟩, (mem_iff_of_names sound right ⟨elements t ht, same⟩).1 there⟩

theorem beq_of_names (sound : u.Sound) : (l == r) = (L == R) := by
  rw [Bool.eq_iff_iff, beq_iff_eq, beq_iff_eq]
  constructor
  · rintro rfl
    exact Term.set.inj (left.2.symm.trans right.2)
  · rintro rfl
    exact Term.set.inj (read_inj sound left.1 right.1 (left.2.trans right.2.symm))

end Pair

theorem length_of_names (sound : u.Sound) (set : Names u (.set l) (.set L)) :
    l.length = L.length := by
  obtain ⟨increasing, increasing', elements, members⟩ := names_set_iff.1 set
  have nodup : (l.map (read u)).Nodup := by
    refine List.Nodup.map_on (fun a ha b hb => ?_) (Sorted.increasing_nodup increasing)
    exact read_inj sound (elements a ha) (elements b hb)
  have perm : (l.map (read u)).Perm L := by
    refine (List.perm_ext_iff_of_nodup nodup (Sorted.increasing_nodup increasing')).2 fun s => ?_
    rw [members, List.mem_map]
  rw [← perm.length_eq, List.length_map]

end Term

/-! Operators. -/

section Operators

variable {base : Symbols} {s : Scratch} {t r : Term Nat} {v w : Term String}

open Eval

theorem Term.names_bool (u : Symbols) (b : Bool) : Term.Names u (.bool b) (.bool b) :=
  ⟨.bool b, rfl⟩

theorem Term.names_int (u : Symbols) (i : Int64) : Term.Names u (.int i) (.int i) :=
  ⟨.int i, rfl⟩

theorem Unary.refines (op : Unary) (sound : s.flat.Sound) (h : t.Names s.flat v) :
    Refines base s (op.apply s t : Eval (Term Nat)) (op.value v) Term.Names := by
  refine refines_lift sound ?_
  obtain ⟨proper, rfl⟩ := h
  cases op with
  | parens => exact ⟨proper, rfl⟩
  | negate =>
    cases t with
    | bool b => exact Term.names_bool ..
    | set l =>
      rw [Term.read, Term.rename_set]
      exact rfl
    | _ => exact rfl
  | length =>
    cases proper with
    | str known =>
      have found := Symbols.text?_eq_some_textOf known
      rw [Scratch.text?_flat] at found
      simp only [Unary.apply, found]
      exact Term.names_int ..
    | bytes b => exact Term.names_int ..
    | @set l increasing elements =>
      rw [Term.read, Term.rename_set]
      have set : Term.Names s.flat (.set l)
          (.set (Sorted.ofList (l.map (Term.rename s.flat.textOf)))) :=
        ⟨.set increasing elements, Term.rename_set l⟩
      simp only [Unary.apply, Unary.value, Term.length_of_names sound set]
      exact Term.names_int ..
    | _ => exact rfl

theorem Binary.refines_integers (op : Binary) (sound : s.flat.Sound) (i j : Int64) :
    Refines base s (onIntegers op i j : Except ExpressionError (Term Nat))
      ((onIntegers op i j).mapError .ofOperator) Term.Names := by
  refine refines_operator sound ?_
  cases op
  case div =>
    unfold onIntegers
    by_cases zero : j = 0
    · exact .inr ⟨_, if_pos zero, if_pos zero, rfl⟩
    · exact .inl ⟨_, _, if_neg zero, if_neg zero, Term.names_int ..⟩
  all_goals first
    | exact .inl ⟨_, _, rfl, rfl, Term.names_bool ..⟩
    | exact .inl ⟨_, _, rfl, rfl, Term.names_int ..⟩
    | exact .inr ⟨_, rfl, rfl, rfl⟩

theorem Binary.refines_dates (op : Binary) (sound : s.flat.Sound) (i j : UInt64) :
    Refines base s (onDates op i j : Except ExpressionError (Term Nat))
      ((onDates op i j).mapError .ofOperator) Term.Names := by
  refine refines_operator sound ?_
  cases op
  all_goals first
    | exact .inl ⟨_, _, rfl, rfl, Term.names_bool ..⟩
    | exact .inr ⟨_, rfl, rfl, rfl⟩

theorem Binary.refines_bytes (op : Binary) (sound : s.flat.Sound) (i j : List UInt8) :
    Refines base s (onBytes op i j : Except ExpressionError (Term Nat))
      ((onBytes op i j).mapError .ofOperator) Term.Names := by
  refine refines_operator sound ?_
  cases op
  all_goals first
    | exact .inl ⟨_, _, rfl, rfl, Term.names_bool ..⟩
    | exact .inr ⟨_, rfl, rfl, rfl⟩

theorem Binary.refines_bools (op : Binary) (sound : s.flat.Sound) (i j : Bool) :
    Refines base s (onBools op i j : Except ExpressionError (Term Nat))
      ((onBools op i j).mapError .ofOperator) Term.Names := by
  refine refines_operator sound ?_
  cases op
  all_goals first
    | exact .inl ⟨_, _, rfl, rfl, Term.names_bool ..⟩
    | exact .inr ⟨_, rfl, rfl, rfl⟩

theorem Binary.refines_sets (op : Binary) (sound : s.flat.Sound) {l r : List (Term Nat)}
    {L R : List (Term String)} (left : Term.Names s.flat (.set l) (.set L))
    (right : Term.Names s.flat (.set r) (.set R)) :
    Refines base s (onSets op l r) ((onSets op L R).mapError .ofOperator) Term.Names := by
  refine refines_operator sound ?_
  have same := Term.beq_of_names left right sound
  cases op
  case equal => exact .inl ⟨_, _, rfl, rfl, same ▸ Term.names_bool ..⟩
  case notEqual =>
    refine .inl ⟨_, _, rfl, rfl, ?_⟩
    rw [bne, bne, same]
    exact Term.names_bool ..
  case intersection => exact .inl ⟨_, _, rfl, rfl, Term.names_inter left right sound⟩
  case union => exact .inl ⟨_, _, rfl, rfl, Term.names_union left right⟩
  case contains =>
    refine .inl ⟨_, _, rfl, rfl, ?_⟩
    rw [Term.subset_of_names right left sound]
    exact Term.names_bool ..
  all_goals exact .inr ⟨_, rfl, rfl, rfl⟩

theorem Binary.refines_texts [Patterns] (op : Binary) (sound : s.flat.Sound) (left right : String)
    (text : op ≠ .equal ∧ op ≠ .notEqual) :
    Refines base s (onTexts op left right) (ofTexts op left right) Term.Names := by
  cases op
  case equal => exact absurd rfl text.1
  case notEqual => exact absurd rfl text.2
  case startsWith | endsWith | contains => exact refines_pure sound (Term.names_bool ..)
  case regex =>
    unfold onTexts ofTexts
    cases Patterns.search right left with
    | ok found => exact refines_pure sound (Term.names_bool ..)
    | error reason => exact refines_throw rfl
  case add =>
    refine refines_bind_ok (refines_intern (left ++ right) sound) fun a t sound _ found => ?_
    refine refines_pure sound ⟨.str (Option.isSome_of_mem found), ?_⟩
    exact congrArg _ (Symbols.textOf_eq found)
  all_goals exact refines_throw rfl

theorem Binary.refines_strings [Patterns] (op : Binary) (sound : s.flat.Sound) {i j : Nat}
    {v w : String} (hi : s.flat.text? i = some v) (hj : s.flat.text? j = some w) :
    Refines base s (onStrings op i j) (ofTexts op v w) Term.Names := by
  have same : (i == j) = (v == w) := by
    rw [Bool.eq_iff_iff, beq_iff_eq, beq_iff_eq]
    constructor
    · rintro rfl
      exact Option.some.inj (hi.symm.trans hj)
    · rintro rfl
      exact sound.text?_inj hi hj
  have texts (other : op ≠ .equal ∧ op ≠ .notEqual) : Refines base s (do
      let left ← Eval.text i
      let right ← Eval.text j
      onTexts op left right) (ofTexts op v w) Term.Names := by
    refine refines_bind_ok (refines_text sound hi) fun left t sound grows same => ?_
    subst same
    refine refines_bind_ok (refines_text sound (grows.text? hj)) fun right t sound _ same => ?_
    subst same
    exact refines_texts op sound left right other
  cases op
  case equal => exact refines_pure sound (same ▸ Term.names_bool ..)
  case notEqual =>
    refine refines_pure sound ?_
    rw [bne, bne, same]
    exact Term.names_bool ..
  case startsWith | endsWith | contains | regex | add => exact texts ⟨nofun, nofun⟩
  all_goals exact refines_throw rfl

theorem Binary.refines_contains (base : Symbols) (op : Binary) (sound : s.flat.Sound)
    {l : List (Term Nat)} {L : List (Term String)} (set : Term.Names s.flat (.set l) (.set L))
    (element : r.Names s.flat w) :
    Refines base s
      (match op with
        | .contains => pure (.bool (Sorted.contains l r))
        | _ => throw .invalidType)
      (match op with
        | .contains => .ok (.bool (Sorted.contains L w))
        | _ => .error .invalidType) Term.Names := by
  have same := Term.contains_of_names sound set element
  cases op
  case contains => exact refines_pure sound (same ▸ Term.names_bool ..)
  all_goals exact refines_throw rfl

theorem Binary.refines [Patterns] (op : Binary) (sound : s.flat.Sound) (left : t.Names s.flat v)
    (right : r.Names s.flat w) : Refines base s (op.apply t r) (op.value v w) Term.Names := by
  cases t with
  | set l =>
    obtain ⟨L, rfl⟩ : ∃ L, v = .set L := ⟨_, left.2.symm.trans (Term.rename_set l)⟩
    cases r with
    | set r =>
      obtain ⟨R, rfl⟩ : ∃ R, w = .set R := ⟨_, right.2.symm.trans (Term.rename_set r)⟩
      exact op.refines_sets sound left right
    | var =>
      obtain ⟨-, rfl⟩ := right
      exact refines_throw rfl
    | _ =>
      have element := op.refines_contains base sound left right
      obtain ⟨-, rfl⟩ := right
      exact element
  | str i =>
    obtain ⟨proper, rfl⟩ := left
    obtain ⟨proper', rfl⟩ := right
    cases r with
    | str j =>
      cases proper with
      | str known =>
        cases proper' with
        | str known' =>
          exact op.refines_strings sound (Symbols.text?_eq_some_textOf known)
            (Symbols.text?_eq_some_textOf known')
    | _ => exact refines_throw rfl
  | var i =>
    obtain ⟨-, rfl⟩ := left
    exact refines_throw rfl
  | int i =>
    obtain ⟨-, rfl⟩ := left
    obtain ⟨-, rfl⟩ := right
    cases r with
    | int j => exact op.refines_integers sound i j
    | _ => exact refines_throw rfl
  | date i =>
    obtain ⟨-, rfl⟩ := left
    obtain ⟨-, rfl⟩ := right
    cases r with
    | date j => exact op.refines_dates sound i j
    | _ => exact refines_throw rfl
  | bytes i =>
    obtain ⟨-, rfl⟩ := left
    obtain ⟨-, rfl⟩ := right
    cases r with
    | bytes j => exact op.refines_bytes sound i j
    | _ => exact refines_throw rfl
  | bool i =>
    obtain ⟨-, rfl⟩ := left
    obtain ⟨-, rfl⟩ := right
    cases r with
    | bool j => exact op.refines_bools sound i j
    | _ => exact refines_throw rfl

end Operators

/-! Programs. -/

variable [Patterns]

/-- Values and their readings: a variable of the table has a value on both sides or on none. -/
def SameValues (u : Symbols) (values : Nat → Option (Term Nat))
    (texts : String → Option (Term String)) : Prop :=
  ∀ v name, u.text? v = some name → Option.Rel (Term.Names u) (values v) (texts name)

section Programs

open Eval

variable {base : Symbols} {s : Scratch} {b : Binding} {values : String → Option (Term String)}
  {stack : List (Term Nat)} {texts : List (Term String)}

theorem Op.refines_value {t : Term Nat} {w : Term String} (sound : s.flat.Sound)
    (grows : base.Grows s.flat) (reads : SameValues base b.get? values) (named : t.Names base w)
    (related : List.Forall₂ (Term.Names s.flat) stack texts) :
    Refines base s ((Op.value t).run b stack) ((Op.value w).value? values texts) fun u =>
      List.Forall₂ (Term.Names u) := by
  have pushed := named.grows grows
  cases t with
  | var v =>
    obtain ⟨proper, rfl⟩ := named
    cases proper with
    | var known =>
      have rel := reads v _ (Symbols.text?_eq_some_textOf known)
      have text : (Term.var v).read base = .var (base.textOf v) := rfl
      simp only [text, Op.run, Op.value?]
      cases found : b.get? v <;> cases other : values (base.textOf v) <;>
        rw [found, other] at rel <;> cases rel
      · exact refines_throw rfl
      · rename_i names
        exact refines_pure sound (.cons (names.grows grows) related)
  | set l =>
    obtain ⟨L, rfl⟩ : ∃ L, w = .set L := ⟨_, named.2.symm.trans (Term.rename_set l)⟩
    exact refines_pure sound (.cons pushed related)
  | _ =>
    obtain ⟨-, rfl⟩ := named
    exact refines_pure sound (.cons pushed related)

theorem Op.refines {op : Op Nat} {written : Op String} (sound : s.flat.Sound)
    (grows : base.Grows s.flat) (reads : SameValues base b.get? values)
    (named : op.Names base written)
    (related : List.Forall₂ (Term.Names s.flat) stack texts) :
    Refines base s (op.run b stack) (written.value? values texts) fun u =>
      List.Forall₂ (Term.Names u) := by
  cases op with
  | value t =>
    cases written with
    | value w => exact refines_value sound grows reads named related
    | _ => exact named.elim
  | unary op =>
    cases written with
    | unary op' =>
      cases (named : op = op')
      cases related with
      | nil => exact refines_throw rfl
      | @cons operand _ tail _ names rest =>
        change Refines base s ((op.apply s operand : Eval (Term Nat)) >>= fun t => pure (t :: tail))
          _ _
        refine refines_bind (op.refines sound names) fun _ _ t sound grows result => ?_
        exact refines_pure sound (.cons result (rest.imp fun _ _ => Term.Names.grows grows))
    | _ => exact named.elim
  | binary op =>
    cases written with
    | binary op' =>
      cases (named : op = op')
      rcases related with _ | ⟨right, _ | ⟨left, rest⟩⟩
      · exact refines_throw rfl
      · exact refines_throw rfl
      · refine refines_bind (op.refines sound left right) fun _ _ t sound grows result => ?_
        exact refines_pure sound (.cons result (rest.imp fun _ _ => Term.Names.grows grows))
    | _ => exact named.elim

theorem foldlM_refines {ops : List (Op Nat)} {written : List (Op String)} (sound : s.flat.Sound)
    (grows : base.Grows s.flat) (reads : SameValues base b.get? values)
    (named : List.Forall₂ (Op.Names base) ops written)
    (related : List.Forall₂ (Term.Names s.flat) stack texts) :
    Refines base s (ops.foldlM (fun stack op => op.run b stack) stack)
      (written.foldlM (fun stack op => op.value? values stack) texts) fun u =>
        List.Forall₂ (Term.Names u) := by
  induction named generalizing s stack texts with
  | nil => exact refines_pure sound related
  | cons first _ ih =>
    rw [List.foldlM_cons, List.foldlM_cons]
    refine refines_bind (Op.refines sound grows reads first related) fun _ _ t sound more next => ?_
    exact ih sound (grows.trans more) next

theorem Expression.refines {e : Expression Nat} {written : Expression String}
    (sound : s.flat.Sound) (grows : base.Grows s.flat) (reads : SameValues base b.get? values)
    (named : e.Names base written) :
    Refines base s (e.evaluate b) (written.value values) Term.Names := by
  refine refines_bind (foldlM_refines sound grows reads named .nil) ?_
  intro out texts t sound _ last
  rcases last with _ | ⟨result, _ | ⟨_, _⟩⟩
  · exact refines_throw rfl
  · exact refines_pure sound result
  · exact refines_throw rfl

/-- A list of expressions gives the same answer, or comes out wrong, on both sides. -/
theorem holdsAll_eq {es : List (Expression Nat)} {written : List (Expression String)}
    (sound : s.flat.Sound) (grows : base.Grows s.flat) (reads : SameValues base b.get? values)
    (named : List.Forall₂ (Expression.Names base) es written) :
    holdsAll b es s = (allTrue values written).mapError fun _ => .invalidStack := by
  induction named generalizing s with
  | nil => rfl
  | @cons e written _ _ first _ ih =>
    have step : Agrees base s Term.Names ((e.evaluate b).run s) (written.value values) :=
      Expression.refines sound grows reads first
    cases run : (e.evaluate b).run s with
    | error error =>
      cases result : written.value values with
      | ok v =>
        rw [run, result] at step
        exact step.elim
      | error fault =>
        rw [run, result] at step
        simp only [holdsAll, allTrue, run, result]
        cases error <;> cases step <;> rfl
    | ok p =>
      cases result : written.value values with
      | error fault =>
        rw [run, result] at step
        exact step.elim
      | ok v =>
        rw [run, result] at step
        obtain ⟨sound, more, proper, rfl⟩ := step
        obtain ⟨t, after⟩ := p
        simp only [holdsAll, allTrue, run, result]
        cases t with
        | bool truth =>
          cases truth
          · rfl
          · exact ih sound (grows.trans more)
        | set l =>
          simp only [Term.read, Term.rename_set]
          rfl
        | _ => rfl

theorem keeps_eq {es : List (Expression Nat)} {written : List (Expression String)}
    (sound : base.Sound) (reads : SameValues base b.get? values)
    (named : List.Forall₂ (Expression.Names base) es written) :
    keeps base es b = (allTrue values written).mapError fun _ => .invalidStack := by
  have flat : ({ base } : Scratch).flat = base := by simp [Scratch.flat]
  exact holdsAll_eq (flat.symm ▸ sound) (flat.symm ▸ .refl base) reads named

end Programs

end Warrant
