import Warrant.Regex.Pattern
import Warrant.Proofs.Formed
import Warrant.Proofs.Refinement
import Warrant.Proofs.Values

/-! Evaluation over ids comes to what the values come to.
A table that strings and keys have been taken into one by one tells them apart, and so do the
strings made on top of it. Over such tables a program on ids goes through the written program to
the program on values: there is a result of the same value, or the same fault. So ids, strings made
before and strings that the table takes in later make no difference. -/

namespace Warrant

/-- The tables that a table becomes by taking in strings and keys. -/
inductive Symbols.Becomes (start : Symbols) : Symbols → Prop
  | start : Becomes start start
  | string {t : Symbols} (before : Becomes start t) (text : String) :
    Becomes start (Symbols.intern text t).2
  | key {t : Symbols} (before : Becomes start t) (key : PublicKey) :
    Becomes start (Symbols.internKey key t).2

/-- The scratch layers that come of taking in strings on top of a table. -/
inductive Scratch.Above (base : Symbols) : Scratch → Prop
  | start : Above base { base }
  | string {s : Scratch} (before : Above base s) (text : String) : Above base (s.intern text).2

section Tables

variable {base t u : Symbols} {s : Scratch}

theorem Symbols.Becomes.sound_grows (h : t.Becomes u) (sound : t.Sound) : u.Sound ∧ t.Grows u := by
  induction h with
  | start => exact ⟨sound, .refl t⟩
  | string _ text ih =>
    have step := ih.1.intern text
    exact ⟨step.1, ih.2.trans step.2.1⟩
  | key _ key ih =>
    have step := ih.1.internKey key
    exact ⟨step.1, ih.2.trans step.2.1⟩

theorem Symbols.Becomes.trans (h : base.Becomes t) (k : t.Becomes u) : base.Becomes u := by
  induction k with
  | start => exact h
  | string _ text ih => exact ih.string text
  | key _ key ih => exact ih.key key

theorem Scratch.Above.sound_grows (h : Above base s) (sound : base.Sound) :
    s.flat.Sound ∧ base.Grows s.flat := by
  induction h with
  | start =>
    have flat : ({ base } : Scratch).flat = base := by simp [Scratch.flat]
    rw [flat]
    exact ⟨sound, .refl base⟩
  | @string s _ text ih =>
    have step := ih.1.intern text
    rw [Scratch.intern_flat] at step
    exact ⟨step.1, ih.2.trans step.2.1⟩

end Tables

/-! Values of ids and of what they read as. -/

section Names

variable {u : Symbols} {t : Term Nat} {w : Term String} {v : Value}

theorem Term.scalar?_of_names (named : t.Names u w) : t.scalar? u.text? = w.scalar? some := by
  obtain ⟨proper, rfl⟩ := named
  cases proper with
  | str known =>
    simp only [scalar?, Symbols.text?_eq_some_textOf known]
    rfl
  | set => rw [read, rename_set]; rfl
  | _ => rfl

theorem Term.value?_set_iff_of_names {l : List (Term Nat)} {L : List (Term String)}
    {S : Finset Scalar} (named : (Term.set l).Names u (.set L)) :
    (Term.set l).value? u.text? = some (.set S) ↔ (Term.set L).value? some = some (.set S) := by
  obtain ⟨-, -, elements, members⟩ := names_set_iff.1 named
  have same (t) (ht : t ∈ l) : t.scalar? u.text? = (t.read u).scalar? some :=
    scalar?_of_names ⟨elements t ht, rfl⟩
  have all : (∀ t ∈ l, ∃ c, t.scalar? u.text? = some c) ↔
      ∀ s ∈ L, ∃ c, s.scalar? some = some c := by
    simp only [members, forall_exists_index, and_imp, forall_apply_eq_imp_iff₂]
    exact forall₂_congr fun t ht => by rw [same t ht]
  have any (c : Scalar) : (∃ t ∈ l, t.scalar? u.text? = some c) ↔
      ∃ s ∈ L, s.scalar? some = some c := by
    simp only [members, exists_exists_and_eq_and]
    exact exists_congr fun t => and_congr_right fun ht => by rw [same t ht]
  simp only [value?_set_iff, all, any]

/-- An interned term has the value of what it reads as. -/
theorem Term.value?_iff_of_names (named : t.Names u w) :
    t.value? u.text? = some v ↔ w.value? some = some v := by
  have scalars := scalar?_of_names named
  cases t with
  | set l =>
    obtain ⟨L, rfl⟩ : ∃ L, w = .set L := ⟨_, named.2.symm.trans (rename_set l)⟩
    constructor
    · intro h
      obtain ⟨S, rfl⟩ := exists_of_value?_set h
      exact (value?_set_iff_of_names named).1 h
    · intro h
      obtain ⟨S, rfl⟩ := exists_of_value?_set h
      exact (value?_set_iff_of_names named).2 h
  | _ =>
    obtain ⟨-, rfl⟩ := named
    exact iff_of_eq (congrArg (fun c : Option Scalar => c.map Value.scalar = some v) scalars)

theorem Term.proper_of_scalar? (h : ∃ c, t.scalar? u.text? = some c) : t.Proper u := by
  obtain ⟨c, h⟩ := h
  cases t with
  | var | set => cases h
  | str s =>
    obtain ⟨text, found, -⟩ := Option.map_eq_some_iff.1 h
    exact .str (Option.isSome_of_mem found)
  | int i => exact .int i
  | date d => exact .date d
  | bytes b => exact .bytes b
  | bool b => exact .bool b

theorem Term.proper_of_value? (valid : t.Valid) (h : t.value? u.text? = some v) : t.Proper u := by
  cases t with
  | set l =>
    obtain ⟨S, rfl⟩ := exists_of_value?_set h
    exact .set valid.1 fun t ht => proper_of_scalar? ((value?_set_iff.1 h).1 t ht)
  | _ =>
    simp only [value?, Option.map_eq_some_iff] at h
    obtain ⟨c, scalar, -⟩ := h
    exact proper_of_scalar? ⟨c, scalar⟩

theorem Term.valid_of_value? {σ : Type} [Ord σ] {text : σ → Option String} {t : Term σ}
    (increasing : ∀ l, t = .set l → Sorted.Increasing l) (h : t.value? text = some v) :
    t.Valid := by
  cases t with
  | set l =>
    obtain ⟨S, rfl⟩ := exists_of_value?_set h
    exact ⟨increasing l rfl, fun t ht => isPlain_of_scalar? ((value?_set_iff.1 h).1 t ht)⟩
  | _ => trivial

/-- An interned value reads as one that denotes it. -/
theorem Term.denotes_of_names (named : t.Names u w) (h : t.value? u.text? = some v) :
    w.Denotes v := by
  have value := (value?_iff_of_names named).1 h
  refine ⟨valid_of_value? (fun L same => ?_) value, value⟩
  subst same
  cases t with
  | set l => exact (names_set_iff.1 named).2.1
  | _ => cases named.2

/-- A term with a value goes through the written term to its value. -/
theorem Term.reading (valid : t.Valid) (h : t.value? u.text? = some v) :
    t.Names u (t.read u) ∧ (t.read u).Denotes v :=
  have named : t.Names u (t.read u) := ⟨proper_of_value? valid h, rfl⟩
  ⟨named, denotes_of_names named h⟩

/-- What reads as a value is ground and valid and has that value. -/
theorem Term.value_of_denotes (named : t.Names u w) (h : w.Denotes v) :
    t.isGround ∧ t.Valid ∧ t.value? u.text? = some v := by
  have value := (value?_iff_of_names named).2 h.2
  have valid : t.Valid := by
    refine valid_of_value? (fun l same => ?_) value
    subst same
    cases named.1 with
    | set increasing _ => exact increasing
  refine ⟨?_, valid, value⟩
  cases t with
  | var => cases value
  | set l => exact isGround_of_isWellFormed rfl (List.all_eq_true.2 valid.2)
  | _ => rfl

theorem Op.instruction?_value {σ : Type} {text : σ → Option String} {t : Term σ}
    (h : t.value? text = some v) : (Op.value t).instruction? text = some (.push v) := by
  cases t with
  | var => cases h
  | _ => simp only [instruction?, h, Option.map_some]

theorem Op.reading {op : Op Nat} {step : Instruction} (valid : ∀ t, op = .value t → t.Valid)
    (h : op.instruction? u.text? = some step) :
    op.Names u (op.rename u.textOf) ∧ (op.rename u.textOf).Denotes step := by
  cases op with
  | value t =>
    cases t with
    | var i =>
      obtain ⟨name, found, rfl⟩ := Option.map_eq_some_iff.1 h
      refine ⟨⟨.var (Option.isSome_of_mem found), rfl⟩, ?_, ?_⟩
      · rintro _ ⟨⟩
        trivial
      · exact congrArg (fun name => some (Instruction.load name)) (Symbols.textOf_eq found)
    | _ =>
      simp only [instruction?, Option.map_eq_some_iff] at h
      obtain ⟨v, value, rfl⟩ := h
      obtain ⟨named, denotes⟩ := Term.reading (valid _ rfl) value
      refine ⟨named, ?_, instruction?_value denotes.2⟩
      rintro _ ⟨⟩
      exact denotes.1
  | unary op =>
    cases h
    exact ⟨rfl, by rintro _ ⟨⟩, rfl⟩
  | binary op =>
    cases h
    exact ⟨rfl, by rintro _ ⟨⟩, rfl⟩

theorem Expression.reading {e : Expression Nat} {program : List Instruction}
    (valid : ∀ t ∈ e.terms, t.Valid) (h : e.program? u.text? = some program) :
    e.Names u (e.rename u.textOf) ∧
      List.Forall₂ Op.Denotes (e.rename u.textOf).ops program := by
  have literals : ∀ op ∈ e.ops, ∀ t, op = .value t → t.Valid := by
    rintro _ hop t rfl
    exact valid t (List.mem_filterMap.2 ⟨_, hop, rfl⟩)
  have steps := (List.forall₂_and_left _ _).2 ⟨literals, mapM_eq_some_iff.1 h⟩
  refine ⟨List.forall₂_map_right_iff.2 (List.forall₂_same.2 fun op hop => ?_),
    List.forall₂_map_left_iff.2 (steps.imp fun op step h => (Op.reading h.1 h.2).2)⟩
  obtain ⟨step, -, valid, same⟩ := exists_of_forall₂ steps hop
  exact (Op.reading valid same).1

/-- Of entries whose variables have the names of the others, look-ups find what belongs together. -/
theorem lookup_rel {α β : Type} {R : α → β → Prop} {entries : List (Nat × α)}
    {env : List (String × β)} (sound : u.Sound)
    (h : List.Forall₂ (fun p q => u.text? p.1 = some q.1 ∧ R p.2 q.2) entries env) {i : Nat}
    {name : String} (text : u.text? i = some name) :
    Option.Rel R (entries.lookup i) (env.lookup name) := by
  induction h with
  | nil => exact .none
  | @cons p q _ _ first _ ih =>
    obtain ⟨j, a⟩ := p
    obtain ⟨other, b⟩ := q
    obtain ⟨found, related⟩ := first
    by_cases same : i = j
    · subst same
      cases text.symm.trans found
      rw [List.lookup_cons_self, List.lookup_cons_self]
      exact .some related
    · have different : name ≠ other := by
        rintro rfl
        exact same (sound.text?_inj text found)
      rw [List.lookup_cons, List.lookup_cons, beq_eq_false_iff_ne.2 same,
        beq_eq_false_iff_ne.2 different]
      exact ih

theorem rel_map_left {α β γ : Type} {R : α → β → Prop} {S : γ → β → Prop} {f : α → γ}
    {x : Option α} {y : Option β} (h : Option.Rel R x y) (put : ∀ a b, R a b → S (f a) b) :
    Option.Rel S (x.map f) y := by
  cases h with
  | none => exact .none
  | some related => exact .some (put _ _ related)

theorem Binding.reading {b : Binding} {env : List (String × Value)} (sound : u.Sound)
    (valid : ∀ p ∈ b.entries, p.2.Valid) (h : b.values? u.text? = some env) :
    SameValues u b.get? (b.written u) ∧
      ∀ name, Option.Rel Term.Denotes (b.written u name) (env.lookup name) := by
  have entries : List.Forall₂ (fun p q => u.text? p.1 = some q.1 ∧
      p.2.Names u (p.2.read u) ∧ (p.2.read u).Denotes q.2) b.entries env := by
    refine ((List.forall₂_and_left _ _).2 ⟨valid, values?_eq_some_iff.1 h⟩).imp ?_
    exact fun _ _ ⟨valid, text, value⟩ => ⟨text, Term.reading valid value⟩
  have both {i name} (text : u.text? i = some name) :
      Option.Rel (fun t v => t.Names u (t.read u) ∧ (t.read u).Denotes v) (b.get? i)
        (env.lookup name) := lookup_rel sound entries text
  constructor
  · intro i name text
    rw [b.written_eq sound text]
    cases found : b.get? i with
    | none => exact .none
    | some t =>
      obtain ⟨_, -, named, -⟩ := exists_of_rel_some (found ▸ both text)
      exact .some named
  · intro name
    cases id : u.id? name with
    | none =>
      have unbound : env.lookup name = none := by
        refine List.lookup_eq_none_iff.2 fun q hq => ?_
        obtain ⟨p, -, text, -⟩ := exists_of_forall₂ entries.flip hq
        refine bne_iff_ne.2 ?_
        rintro rfl
        cases id.symm.trans (sound.id?_eq_some_iff.2 text)
      rw [unbound, Binding.written, id]
      exact .none
    | some i =>
      have text := sound.id?_eq_some_iff.1 id
      rw [b.written_eq sound text]
      exact rel_map_left (both text) fun _ _ h => h.2

end Names

/-! Only a variable can be missing. -/

theorem mapError_ofOperator_ne {α : Type} {x : Except ExpressionError α} {name : String} :
    x.mapError Fault.ofOperator ≠ .error (.unknownVariable name) := by
  cases x with
  | ok => nofun
  | error e => cases e <;> nofun

theorem Unary.value_ne (op : Unary) (t : Term String) (name : String) :
    op.value t ≠ .error (.unknownVariable name) := by
  unfold Unary.value
  split <;> nofun

theorem Binary.ofTexts_ne [Patterns] (op : Binary) (left right name : String) :
    op.ofTexts left right ≠ .error (.unknownVariable name) := by
  unfold ofTexts
  split
  case h_6 => split <;> nofun
  all_goals nofun

theorem Binary.value_ne [Patterns] (op : Binary) (t r : Term String) (name : String) :
    op.value t r ≠ .error (.unknownVariable name) := by
  unfold Binary.value
  split
  case h_2 => exact op.ofTexts_ne _ _ name
  case h_8 => split <;> nofun
  case h_7 | h_9 => nofun
  all_goals exact mapError_ofOperator_ne

section Missing

open Eval

variable {base : Symbols} {s : Scratch} {b : Binding} {values : String → Option (Term String)}
  {stack : List (Term Nat)} {texts : List (Term String)} {i : Nat}

section Refines

variable {α β γ : Type} {m : Eval α} {x : Except Fault β} {related : Symbols → α → β → Prop}

theorem Eval.Refines.exists_of_ok {a : α} {t : Scratch} (h : Refines base s m x related)
    (run : m s = .ok (a, t)) :
    ∃ b, x = .ok b ∧ t.flat.Sound ∧ s.flat.Grows t.flat ∧ related t.flat a b := by
  unfold Refines at h
  rw [run] at h
  cases x with
  | ok b => exact ⟨b, rfl, h⟩
  | error f => exact h.elim

theorem Eval.Refines.exists_of_error {e : ExpressionError} (h : Refines base s m x related)
    (run : m s = .error e) : ∃ f, x = .error f ∧ e.fault? base = some f := by
  unfold Refines at h
  rw [run] at h
  cases x with
  | ok b => exact h.elim
  | error f => exact ⟨f, rfl, h⟩

/-- A step that keeps to one without missing variables misses none. -/
theorem Eval.Refines.ne_missing (h : Refines s.flat s m x related)
    (never : ∀ name, x ≠ .error (.unknownVariable name)) (f : α → γ) :
    (m >>= fun a => pure (f a)) s ≠ .error (.unknownVariable i) := by
  intro run
  obtain first | ⟨_, _, -, second⟩ := Eval.bind_eq_error.1 run
  · obtain ⟨_, rfl, fault⟩ := h.exists_of_error first
    cases fault
    exact never _ rfl
  · cases second

end Refines

theorem Op.eq_of_missing [Patterns] {op : Op Nat} (sound : s.flat.Sound)
    (related : List.Forall₂ (Term.Names s.flat) stack texts)
    (h : op.run b stack s = .error (.unknownVariable i)) : op = .value (.var i) := by
  cases op with
  | value t =>
    cases t with
    | var j =>
      cases found : b.get? j <;> simp only [Op.run, found] at h <;> cases h
      rfl
    | _ => cases h
  | unary op =>
    cases related with
    | nil => cases h
    | @cons t _ tail _ operand _ =>
      change ((op.apply s t : Eval (Term Nat)) >>= fun t => pure (t :: tail)) s = _ at h
      exact absurd h ((op.refines sound operand).ne_missing (op.value_ne _) _)
  | binary op =>
    rcases related with _ | ⟨right, _ | ⟨left, _⟩⟩
    · cases h
    · cases h
    · exact absurd h ((op.refines sound left right).ne_missing (op.value_ne _ _) _)

/-- A variable that a program misses is one that it has. -/
theorem mem_of_missing [Patterns] {ops : List (Op Nat)} {written : List (Op String)}
    (sound : s.flat.Sound) (grows : base.Grows s.flat) (reads : SameValues base b.get? values)
    (named : List.Forall₂ (Op.Names base) ops written)
    (related : List.Forall₂ (Term.Names s.flat) stack texts)
    (h : ops.foldlM (fun stack op => op.run b stack) stack s = .error (.unknownVariable i)) :
    .value (.var i) ∈ ops := by
  induction named generalizing s stack texts with
  | nil => cases h
  | @cons op _ rest _ first _ ih =>
    rw [List.foldlM_cons] at h
    obtain failed | ⟨out, t, run, later⟩ := Eval.bind_eq_error.1 h
    · rw [Op.eq_of_missing sound related failed]
      exact List.mem_cons_self ..
    · obtain ⟨_, -, sound, more, next⟩ :=
        (Op.refines sound grows reads first related).exists_of_ok run
      exact List.mem_cons_of_mem _ (ih sound (grows.trans more) next later)

end Missing

/-! Evaluation and the values. -/

/-- What an error says by the texts of ids; an id that stands for nothing has nothing to say. -/
def ExpressionError.told? (text : Nat → Option String) : ExpressionError → Option Fault
  | .unknownSymbol _ => none
  | .unknownVariable i => (text i).map .unknownVariable
  | .invalidType => some .invalidType
  | .divideByZero => some .divideByZero
  | .invalidRegex reason => some (.invalidRegex reason)
  | .invalidStack => some .invalidStack

/-- The value or the fault that a program comes to. -/
def Expression.outcome? [Patterns] (e : Expression Nat) (b : Binding) (s : Scratch) :
    Option (Except Fault Value) :=
  match (e.evaluate b).run s with
  | .ok (t, after) => (t.value? after.text?).map .ok
  | .error error => (error.told? s.text?).map .error

/-- A valid program and a valid binding over tables that strings were taken into one by one, and
what they are on values. -/
structure Resolved (base : Symbols) (s : Scratch) (e : Expression Nat) (b : Binding)
    (program : List Instruction) (env : List (String × Value)) : Prop where
  table : Symbols.empty.Becomes base
  layer : s.Above base
  literals : ∀ t ∈ e.terms, t.Valid
  bound : ∀ p ∈ b.entries, p.2.Valid
  program : e.program? s.text? = some program
  values : b.values? s.text? = some env

namespace Resolved

variable {base : Symbols} {s : Scratch} {e : Expression Nat} {b : Binding}
  {program : List Instruction} {env : List (String × Value)}

theorem told?_of_fault? {u : Symbols} {error : ExpressionError} {f : Fault}
    (known : ∀ i, error = .unknownVariable i → (u.text? i).isSome)
    (h : error.fault? u = some f) : error.told? u.text? = some f := by
  cases error with
  | unknownVariable i =>
    rw [ExpressionError.told?, Symbols.text?_eq_some_textOf (known i rfl)]
    exact h
  | _ => exact h

/-- A variable of a program that has been read has a text. -/
theorem isSome_text? {text : Nat → Option String} (h : e.program? text = some program) {i : Nat}
    (mem : .value (.var i) ∈ e.ops) : (text i).isSome := by
  obtain ⟨step, -, same⟩ := exists_of_forall₂ (mapM_eq_some_iff.1 h) mem
  obtain ⟨name, found, -⟩ := Option.map_eq_some_iff.1 same
  exact Option.isSome_of_mem found

/-- Either both have the value, or both have the fault. -/
theorem comes [Patterns] (h : Resolved base s e b program env) :
    (∃ t after v, (e.evaluate b).run s = .ok (t, after) ∧
      (t.isGround ∧ t.Valid ∧ t.value? after.text? = some v) ∧
      Instruction.evaluate Patterns.search env program = .ok v) ∨
    ∃ error f, (e.evaluate b).run s = .error error ∧ error.told? s.text? = some f ∧
      Instruction.evaluate Patterns.search env program = .error f := by
  have flat (s : Scratch) : s.flat.text? = s.text? := funext s.text?_flat
  obtain ⟨sound, -⟩ := h.layer.sound_grows (h.table.sound_grows Symbols.sound_empty).1
  obtain ⟨named, denotes⟩ := Expression.reading h.literals (flat s ▸ h.program)
  obtain ⟨reads, values⟩ := Binding.reading sound h.bound (flat s ▸ h.values)
  have ids := Expression.refines sound (.refl _) reads named
  have answers := Expression.answers values denotes
  cases run : (e.evaluate b).run s with
  | ok p =>
    obtain ⟨t, after⟩ := p
    obtain ⟨w, written, -, -, names⟩ := ids.exists_of_ok run
    rw [written] at answers
    generalize Instruction.evaluate Patterns.search env program = result at answers ⊢
    cases answers with
    | ok denotes =>
      exact .inl ⟨t, after, _, rfl, flat after ▸ Term.value_of_denotes names denotes, rfl⟩
  | error error =>
    obtain ⟨f, written, fault⟩ := ids.exists_of_error run
    have known : ∀ i, error = .unknownVariable i → (s.flat.text? i).isSome := by
      rintro i rfl
      refine isSome_text? (flat s ▸ h.program) ?_
      obtain failed | ⟨out, t, -, last⟩ := Eval.bind_eq_error.1 run
      · exact mem_of_missing sound (.refl _) reads named .nil failed
      · rcases out with _ | ⟨_, _ | _⟩ <;> cases last
    rw [written] at answers
    generalize Instruction.evaluate Patterns.search env program = result at answers ⊢
    cases answers
    exact .inr ⟨error, f, rfl, flat s ▸ told?_of_fault? known fault, rfl⟩

theorem outcome?_eq [Patterns] (h : Resolved base s e b program env) :
    e.outcome? b s = some (Instruction.evaluate Patterns.search env program) := by
  unfold Expression.outcome?
  obtain ⟨t, after, v, run, ⟨-, -, value⟩, same⟩ | ⟨error, f, run, told, same⟩ := h.comes
  · rw [run, same]
    exact congrArg (Option.map _) value
  · rw [run, same]
    exact congrArg (Option.map _) told

/-- What is read by a table is read by every layer above it and above what it becomes. -/
theorem later {t : Symbols} {after : Scratch} (h : Resolved base s e b program env)
    (becomes : base.Becomes t) (layer : after.Above t)
    (read : e.program? base.text? = some program) (bound : b.values? base.text? = some env) :
    Resolved t after e b program env := by
  have sound := (h.table.sound_grows Symbols.sound_empty).1
  obtain ⟨sound', grows⟩ := becomes.sound_grows sound
  have texts (i : Nat) (text : String) (found : base.text? i = some text) :
      after.text? i = some text := by
    rw [← Scratch.text?_flat]
    exact (grows.trans (layer.sound_grows sound').2).text? found
  exact ⟨h.table.trans becomes, layer, h.literals, h.bound, Expression.program?_mono texts read,
    Binding.values?_mono texts bound⟩

/-- Evaluation comes to a value or a fault exactly when the program on values does, and no id is
unknown to it. So all that is the same on values comes to the same, and what a table can read comes
to the same over whatever the table becomes. -/
theorem evaluate_refines_values [Patterns] (h : Resolved base s e b program env) :
    (∀ v, (∃ t after, (e.evaluate b).run s = .ok (t, after) ∧ t.isGround ∧ t.Valid ∧
        t.value? after.text? = some v) ↔
      Instruction.evaluate Patterns.search env program = .ok v) ∧
    (∀ f, (∃ error, (e.evaluate b).run s = .error error ∧ error.told? s.text? = some f) ↔
      Instruction.evaluate Patterns.search env program = .error f) ∧
    (∀ i, (e.evaluate b).run s ≠ .error (.unknownSymbol i)) ∧
    (∀ base' s' e' b', Resolved base' s' e' b' program env → e'.outcome? b' s' = e.outcome? b s) ∧
    (e.program? base.text? = some program → b.values? base.text? = some env →
      ∀ t after, base.Becomes t → after.Above t → e.outcome? b after = e.outcome? b s) := by
  refine ⟨fun v => ?_, fun f => ?_, fun i unknown => ?_, ?_, ?_⟩
  · obtain ⟨t, after, v', run, value, same⟩ | ⟨error, f, run, -, same⟩ := h.comes
    · rw [run, same]
      constructor
      · rintro ⟨_, _, ⟨⟩, -, -, value'⟩
        exact congrArg _ (Option.some.inj (value.2.2.symm.trans value'))
      · rintro ⟨⟩
        exact ⟨t, after, rfl, value⟩
    · rw [run, same]
      exact iff_of_false (by rintro ⟨_, _, ⟨⟩, -⟩) nofun
  · obtain ⟨t, after, v, run, -, same⟩ | ⟨error, f', run, told, same⟩ := h.comes
    · rw [run, same]
      exact iff_of_false (by rintro ⟨_, ⟨⟩, -⟩) nofun
    · rw [run, same]
      constructor
      · rintro ⟨_, ⟨⟩, told'⟩
        exact congrArg _ (Option.some.inj (told.symm.trans told'))
      · rintro ⟨⟩
        exact ⟨error, rfl, told⟩
  · obtain ⟨t, after, v, run, -⟩ | ⟨error, f, run, told, -⟩ := h.comes
    · cases run.symm.trans unknown
    · cases run.symm.trans unknown
      cases told
  · exact fun _ _ _ _ h' => h'.outcome?_eq.trans h.outcome?_eq.symm
  · intro read bound t after becomes layer
    exact (h.later becomes layer read bound).outcome?_eq.trans h.outcome?_eq.symm

/-- A text that is put together and is known, a variable, a set, a string made before, and a pattern
that is found. -/
theorem evaluate_refines_values_request :
    let base : Symbols := { strings := ["who", "alice", "bob", "alicebob", "^al|z"] }
    let s : Scratch := ⟨base, ["other"]⟩
    let e : Expression Nat := ⟨[.value (.set [.str 1027, .str 1029]), .value (.str 1025),
      .value (.var 1024), .binary .add, .binary .contains, .value (.str 1025), .value (.str 1028),
      .binary .regex, .binary .and]⟩
    let b : Binding := ⟨[(1024, .str 1026)]⟩
    let program : List Instruction := [.push (.set {.str "alicebob", .str "other"}),
      .push (.scalar (.str "alice")), .load "who", .binary .add, .binary .contains,
      .push (.scalar (.str "alice")), .push (.scalar (.str "^al|z")), .binary .regex, .binary .and]
    let env := [("who", Value.scalar (.str "bob"))]
    Resolved base s e b program env ∧ ∃ t after, (e.evaluate b).run s = .ok (t, after) ∧
      t.isGround ∧ t.Valid ∧ t.value? after.text? = some (.truth True) := by
  intro base s e b program env
  have reached : Symbols.empty.Becomes base :=
    ((((Symbols.Becomes.start.string "who").string "alice").string "bob").string "alicebob").string
      "^al|z"
  have resolved : Resolved base s e b program env := by
    refine ⟨reached, Scratch.Above.start.string "other", ?_, ?_, ?_, ?_⟩
    all_goals decide +kernel
  have value : Instruction.evaluate Patterns.search env program = .ok (.truth True) := by
    decide +kernel
  exact ⟨resolved, ((evaluate_refines_values resolved).1 _).2 value⟩

end Resolved

end Warrant
