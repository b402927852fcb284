import Warrant.Proofs.Drafts
import Warrant.Proofs.Transfers

/-! Items that survive being taken in.
What a table makes of an item that it takes in is told by the table that comes of it, in which every
name has its first id; and a table that knows all names takes the item in without a change. Nothing
is asked of the table but that ids of variables fit. Sets are in the order of their ids while they
are in a table and in the order of their strings outside, and go from the one to the other and back
without loss, however deep they stand. -/

namespace Warrant

/-- How `x` takes an item in: the table only grows, the result is what `number` says for the table
that comes of it and for every later one, and where `number` already knows the result, nothing is
added. -/
structure Enters {α : Type} (x : StateM Symbols α) (number : Symbols → Option α) : Prop where
  grows (t : Symbols) : t.Grows (x t).2
  numbered (t : Symbols) : (x t).2.Fits → ∀ u, (x t).2.Grows u → number u = some (x t).1
  still (t : Symbols) : t.Fits → ∀ a, number t = some a → x t = (a, t)

section Enters

variable {α β γ : Type} {x : StateM Symbols α} {number : Symbols → Option α}

/-- What has been taken in is found there again, and the table stays as it is. -/
theorem Enters.again (h : Enters x number) {t u : Symbols} (fits : u.Fits)
    (later : (x t).2.Grows u) : x u = ((x t).1, u) :=
  h.still u fits _ (h.numbered t (later.fits fits) u later)

theorem enters_pure (a : α) : Enters (pure a) fun _ => some a where
  grows := .refl
  numbered _ _ _ _ := rfl
  still _ _ _ same := congrArg (·, _) (Option.some.inj same)

theorem enters_bind {f : α → StateM Symbols β} {next : α → Symbols → Option β}
    (hx : Enters x number) (hf : ∀ a, Enters (f a) (next a)) :
    Enters (x >>= f) fun u => number u >>= fun a => next a u where
  grows t := (hx.grows t).trans ((hf _).grows _)
  numbered t fits u later := by
    have between : (x t).2.Grows (f (x t).1 (x t).2).2 := (hf _).grows _
    change number u >>= _ = some (f (x t).1 (x t).2).1
    rw [hx.numbered t (between.fits fits) u (between.trans later)]
    exact (hf _).numbered _ fits u later
  still t fits b same := by
    obtain ⟨a, first, second⟩ := Option.bind_eq_some_iff.1 same
    change f (x t).1 (x t).2 = (b, t)
    rw [hx.still t fits a first]
    exact (hf a).still t fits b second

theorem enters_mapM {walk : γ → StateM Symbols α} {numberOf : Symbols → γ → Option α}
    (h : ∀ c, Enters (walk c) fun u => numberOf u c) (l : List γ) :
    Enters (l.mapM walk) fun u => l.mapM (numberOf u) := by
  induction l with
  | nil => exact enters_pure []
  | cons c rest ih =>
    simp only [List.mapM_cons]
    exact enters_bind (h c) fun _ => enters_bind ih fun _ => enters_pure _

theorem enters_intern (s : String) : Enters (Symbols.intern s) fun u => u.id? s where
  grows t := (Symbols.intern_id? s t).1
  numbered t _ _ later := later.id? (Symbols.intern_id? s t).2
  still _ _ _ known := Symbols.intern_known known

theorem enters_internKey (key : PublicKey) :
    Enters (Symbols.internKey key) fun u => u.keys.idxOf? key where
  grows t := (Symbols.internKey_idxOf? key t).1
  numbered t _ _ later := Symbols.idxOf?_of_prefix later.keys (Symbols.internKey_idxOf? key t).2
  still t _ i known := by simp [Symbols.internKey, known]

/-- The first id of a string in a table that fits is not cut. -/
theorem Symbols.mod_of_id? {t : Symbols} {s : String} {i : Nat} (fits : t.Fits)
    (known : t.id? s = some i) : i % variableLimit = i :=
  Nat.mod_eq_of_lt (Nat.lt_of_lt_of_le (lt_of_text? (text?_of_id? known)) fits)

theorem enters_internVariable (s : String) :
    Enters (Symbols.internVariable s) fun u => u.id? s where
  grows := (enters_intern s).grows
  numbered t fits u later := by
    change u.id? s = some ((Symbols.intern s t).1 % variableLimit)
    rw [Symbols.mod_of_id? fits (Symbols.intern_id? s t).2]
    exact (enters_intern s).numbered t fits u later
  still t fits i known := by
    change ((Symbols.intern s t).1 % variableLimit, (Symbols.intern s t).2) = (i, t)
    rw [Symbols.intern_known known, Symbols.mod_of_id? fits known]

end Enters

/-! Every item. -/

mutual

theorem enters_term : (t : Term String) → Enters t.intern fun u => t.number? u
  | .var n => enters_bind (enters_internVariable n) fun _ => enters_pure _
  | .str n => enters_bind (enters_intern n) fun _ => enters_pure _
  | .int _ | .date _ | .bytes _ | .bool _ => enters_pure _
  | .set l => enters_bind (enters_terms l) fun _ => enters_pure _

theorem enters_terms : (l : List (Term String)) →
    Enters (Term.mapAllM Symbols.internVariable Symbols.intern l) fun u =>
      Term.mapAllM u.id? u.id? l
  | [] => enters_pure []
  | t :: rest => enters_bind (enters_term t) fun _ => enters_bind (enters_terms rest) fun _ =>
      enters_pure _

end

theorem enters_atom (a : Atom String) : Enters a.intern fun u => a.number? u :=
  enters_bind (enters_intern a.name) fun _ =>
    enters_bind (enters_mapM enters_term a.terms) fun _ => enters_pure _

theorem enters_op (op : Op String) :
    Enters (op.mapM Term.intern) fun u => op.mapM (Term.number? u) := by
  cases op with
  | value t => exact enters_bind (enters_term t) fun _ => enters_pure _
  | unary op => exact enters_pure _
  | binary op => exact enters_pure _

theorem enters_expression (e : Expression String) : Enters e.intern fun u => e.number? u :=
  enters_bind (enters_mapM enters_op e.ops) fun _ => enters_pure _

theorem enters_scope (s : Scope PublicKey) : Enters s.intern fun u => s.number? u := by
  cases s with
  | authority => exact enters_pure _
  | previous => exact enters_pure _
  | key k => exact enters_bind (enters_internKey k) fun _ => enters_pure _

theorem enters_rule (r : Rule String PublicKey) : Enters r.intern fun u => r.number? u :=
  enters_bind (enters_atom r.head) fun _ =>
    enters_bind (enters_mapM enters_atom r.body) fun _ =>
      enters_bind (enters_mapM enters_expression r.expressions) fun _ =>
        enters_bind (enters_mapM enters_scope r.scopes) fun _ => enters_pure _

theorem enters_check (c : Check String PublicKey) : Enters c.intern fun u => c.number? u :=
  enters_bind (enters_mapM enters_rule c.queries) fun _ => enters_pure _

/-! There and back. -/

/-- Every set in it is in order, however deep it stands. -/
inductive Term.Canonical {σ : Type} [Ord σ] : Term σ → Prop where
  | var (name : σ) : Canonical (.var name)
  | int (i : Int64) : Canonical (.int i)
  | str (text : σ) : Canonical (.str text)
  | date (d : UInt64) : Canonical (.date d)
  | bytes (b : List UInt8) : Canonical (.bytes b)
  | bool (b : Bool) : Canonical (.bool b)
  | set {l : List (Term σ)} (increasing : Sorted.Increasing l) (elements : ∀ t ∈ l, t.Canonical) :
    Canonical (.set l)

/-- What comes of `x` on its way out of a table, and of that on its way back: `s` and `y` say the
same, and `y` is what `x` was if each string has one id only. -/
structure Returns {α β ε : Type} (number : β → Option α) (resolve : α → Except ε β) (plain : Prop)
    (x : α) (s : β) (y : α) : Prop where
  resolves : resolve x = pure s
  matched : Matched number resolve s y
  same : plain → y = x

/-- The same for a list, item by item. -/
structure ReturnsAll {α β ε : Type} (number : β → Option α) (resolve : α → Except ε β)
    (plain : Prop) (l : List α) (ss : List β) (ys : List α) : Prop where
  resolves : List.Forall₂ (fun x s => resolve x = pure s) l ss
  matched : List.Forall₂ (Matched number resolve) ss ys
  same : plain → ys = l

theorem exists_returns_all {α β ε : Type} {number : β → Option α} {resolve : α → Except ε β}
    {plain : Prop} {l : List α} (each : ∀ x ∈ l, ∃ s y, Returns number resolve plain x s y) :
    ∃ ss ys, ReturnsAll number resolve plain l ss ys := by
  induction l with
  | nil => exact ⟨[], [], .nil, .nil, fun _ => rfl⟩
  | cons x rest ih =>
    obtain ⟨⟨s, y, first⟩, later⟩ := List.forall_mem_cons.1 each
    obtain ⟨ss, ys, others⟩ := ih later
    exact ⟨s :: ss, y :: ys, .cons first.resolves others.resolves,
      .cons first.matched others.matched,
      fun holds => congrArg₂ _ (first.same holds) (others.same holds)⟩

namespace Symbols

/-- Holds no string twice and none that every table knows. -/
structure Plain (t : Symbols) : Prop where
  strings : t.strings.Nodup
  foreign : ∀ s ∈ t.strings, s ∉ builtins

variable {t u : Symbols} {i : Nat} {s : String}

/-- In such a table a string has one id; keys have no part in it. -/
theorem Plain.id?_eq_some_iff (h : t.Plain) : t.id? s = some i ↔ t.text? i = some s := by
  have sound : ({ t with keys := [] } : Symbols).Sound := ⟨h.strings, h.foreign, .nil⟩
  exact sound.id?_eq_some_iff

/-- A string that has an id has a first one. -/
theorem exists_id? (found : t.text? i = some s) : ∃ j, t.id? s = some j := by
  have member : s ∈ builtins ∨ s ∈ t.strings := by
    unfold text? at found
    split at found
    · exact .inl (List.mem_of_getElem? found)
    · exact .inr (List.mem_of_getElem? found)
  cases known : t.id? s with
  | some j => exact ⟨j, rfl⟩
  | none =>
    obtain ⟨foreign, new⟩ : builtins.idxOf? s = none ∧ t.strings.idxOf? s = none := by
      simpa [id?] using known
    rw [List.idxOf?_eq_none_iff] at foreign new
    exact absurd member (not_or.2 ⟨foreign, new⟩)

theorem matched_of_id? (known : u.id? s = some i) : Matched u.id? u.resolve s i :=
  ⟨known, resolve_eq_ok (text?_of_id? known)⟩

theorem exists_returns (known : (t.text? i).isSome) :
    ∃ s j, Returns t.id? t.resolve t.Plain i s j := by
  obtain ⟨s, found⟩ := Option.isSome_iff_exists.1 known
  obtain ⟨j, first⟩ := exists_id? found
  refine ⟨s, j, resolve_eq_ok found, matched_of_id? first, fun plain => ?_⟩
  exact Option.some.inj (first.symm.trans (plain.id?_eq_some_iff.2 found))

end Symbols

namespace Term

variable {u : Symbols} {n : String} {i : Nat} {a : Term Nat} {l : List (Term String)}

@[simp] theorem number?_var : number? u (.var n) = (u.id? n).map .var := by
  cases h : u.id? n <;> simp [number?, mapM, h]

@[simp] theorem number?_str : number? u (.str n) = (u.id? n).map .str := by
  cases h : u.id? n <;> simp [number?, mapM, h]

theorem number?_set : number? u (.set l) =
    (l.mapM (number? u)).map fun r => .set (Sorted.ofList r) := by
  have step : number? u (.set l) =
      mapAllM u.id? u.id? l >>= fun r => pure (.set (Sorted.ofList r)) := rfl
  rw [step, mapAllM_eq_mapM, Option.map_eq_bind]
  rfl

theorem number?_set_eq_some_iff : number? u (.set l) = some a ↔
    ∃ r, List.Forall₂ (fun t x => number? u t = some x) l r ∧ .set (Sorted.ofList r) = a := by
  simp only [number?_set, Option.map_eq_some_iff, mapM_eq_some_iff]

theorem matched_var (h : Matched u.id? u.resolve n i) :
    Matched (number? u) (resolve u) (.var n) (.var i) where
  numbered := by simp [h.numbered]
  resolved := by simp [resolve, mapM, h.resolved]

theorem matched_str (h : Matched u.id? u.resolve n i) :
    Matched (number? u) (resolve u) (.str n) (.str i) where
  numbered := by simp [h.numbered]
  resolved := by simp [resolve, mapM, h.resolved]

/-- A set in order is what its elements are put together to. -/
theorem ofList_of_increasing {σ : Type} [Ord σ] [Std.TransOrd σ] [Std.LawfulEqOrd σ]
    {l : List (Term σ)} (increasing : Sorted.Increasing l) : Sorted.ofList l = l :=
  Sorted.increasing_ext (Sorted.ofList_increasing l) increasing fun _ => Sorted.mem_ofList

/-- What has been numbered resolves to what it was. -/
theorem Canonical.matched {s : Term String} (h : s.Canonical) (numbered : s.number? u = some a) :
    Matched (number? u) (resolve u) s a := by
  induction h generalizing a with
  | var n =>
    obtain ⟨i, known, rfl⟩ := Option.map_eq_some_iff.1 (number?_var ▸ numbered)
    exact matched_var (Symbols.matched_of_id? known)
  | str n =>
    obtain ⟨i, known, rfl⟩ := Option.map_eq_some_iff.1 (number?_str ▸ numbered)
    exact matched_str (Symbols.matched_of_id? known)
  | int | date | bytes | bool =>
    cases numbered
    exact ⟨rfl, rfl⟩
  | @set l increasing _ ih =>
    obtain ⟨r, elements, rfl⟩ := number?_set_eq_some_iff.1 numbered
    have both := Matched.set (forall₂_imp_of_mem elements.flip fun x t ht => ih t ht).flip
    rwa [ofList_of_increasing increasing] at both

/-- The other way round, for a term whose names the table has. -/
theorem Proper.exists_returns {x : Term Nat} (h : x.Proper u) :
    ∃ s y, Returns (number? u) (resolve u) u.Plain x s y := by
  induction h with
  | var known =>
    obtain ⟨s, i, back⟩ := Symbols.exists_returns known
    exact ⟨.var s, .var i, by simp [resolve, mapM, back.resolves], matched_var back.matched,
      fun plain => congrArg _ (back.same plain)⟩
  | str known =>
    obtain ⟨s, i, back⟩ := Symbols.exists_returns known
    exact ⟨.str s, .str i, by simp [resolve, mapM, back.resolves], matched_str back.matched,
      fun plain => congrArg _ (back.same plain)⟩
  | int i => exact ⟨.int i, .int i, rfl, ⟨rfl, rfl⟩, fun _ => rfl⟩
  | date d => exact ⟨.date d, .date d, rfl, ⟨rfl, rfl⟩, fun _ => rfl⟩
  | bytes b => exact ⟨.bytes b, .bytes b, rfl, ⟨rfl, rfl⟩, fun _ => rfl⟩
  | bool b => exact ⟨.bool b, .bool b, rfl, ⟨rfl, rfl⟩, fun _ => rfl⟩
  | @set l increasing _ ih =>
    obtain ⟨ss, ys, back⟩ := exists_returns_all ih
    refine ⟨_, _, mapM_set_eq_pure back.resolves, .set back.matched, fun plain => ?_⟩
    rw [back.same plain, ofList_of_increasing increasing]

end Term

namespace Atom

variable {t u : Symbols}

theorem number?_eq_some_iff {a : Atom String} {b : Atom Nat} : a.number? u = some b ↔
    u.id? a.name = some b.name ∧
      List.Forall₂ (fun t x => t.number? u = some x) a.terms b.terms := by
  obtain ⟨name, terms⟩ := b
  simp only [number?, mapM, Option.bind_eq_bind, Option.bind_eq_some_iff, Option.pure_def,
    Option.some.injEq, mk.injEq, ← mapM_eq_some_iff]
  grind

/-- Every set in it is in order. -/
def Canonical (a : Atom String) : Prop := ∀ t ∈ a.terms, t.Canonical

/-- The table has its names, and sets are in order. -/
def Proper (u : Symbols) (a : Atom Nat) : Prop :=
  (u.text? a.name).isSome ∧ ∀ t ∈ a.terms, t.Proper u

theorem matched_of_terms {name : String} {i : Nat} {terms : List (Term String)}
    {terms' : List (Term Nat)} (known : Matched u.id? u.resolve name i)
    (both : List.Forall₂ (Matched (Term.number? u) (Term.resolve u)) terms terms') :
    Matched (number? u) (resolve u) ⟨name, terms⟩ ⟨i, terms'⟩ where
  numbered := mapM_eq_pure known.numbered (Matched.forall₂ both).1
  resolved := mapM_eq_pure known.resolved (Matched.forall₂ both).2

theorem Canonical.matched {a : Atom String} (h : a.Canonical) {b : Atom Nat}
    (numbered : a.number? u = some b) : Matched (number? u) (resolve u) a b := by
  obtain ⟨known, elements⟩ := number?_eq_some_iff.1 numbered
  refine matched_of_terms (Symbols.matched_of_id? known) ?_
  exact (forall₂_imp_of_mem elements.flip fun x t ht => (h t ht).matched).flip

theorem Proper.exists_returns {a : Atom Nat} (h : a.Proper u) :
    ∃ s b, Returns (number? u) (resolve u) u.Plain a s b := by
  obtain ⟨s, i, name⟩ := Symbols.exists_returns h.1
  obtain ⟨ss, ys, terms⟩ := exists_returns_all fun t ht => (h.2 t ht).exists_returns
  exact ⟨⟨s, ss⟩, ⟨i, ys⟩, mapM_eq_pure name.resolves terms.resolves,
    matched_of_terms name.matched terms.matched,
    fun plain => congrArg₂ _ (name.same plain) (terms.same plain)⟩

end Atom

/-! Into any table. -/

/-- What goes in comes out again, from the table that comes of it and from every later one. -/
def Survives {α β : Type} (intern : β → StateM Symbols α)
    (resolve : Symbols → α → Except TransferError β) (t : Symbols) (x : β) : Prop :=
  ((intern x).run t).2.Fits → ∀ u, ((intern x).run t).2.Grows u →
    resolve u ((intern x).run t).1 = .ok x

theorem survives_of_matched {α β : Type} {intern : β → StateM Symbols α}
    {resolve : Symbols → α → Except TransferError β} {number : Symbols → β → Option α} {x : β}
    (enters : Enters (intern x) fun u => number u x)
    (matched : ∀ {u a}, number u x = some a → Matched (number u) (resolve u) x a) (t : Symbols) :
    Survives intern resolve t x :=
  fun fits u later => (matched (enters.numbered t fits u later)).resolved

/-- What comes out goes in again without a change of the table, and says the same there. -/
def Persists {α β : Type} (intern : β → StateM Symbols α)
    (resolve : Symbols → α → Except TransferError β) (t : Symbols) (x : α) : Prop :=
  ∃ s y, resolve t x = .ok s ∧ (intern s).run t = (y, t) ∧ resolve t y = .ok s ∧
    (t.Plain → y = x)

theorem persists_of_returns {α β : Type} {intern : β → StateM Symbols α}
    {resolve : Symbols → α → Except TransferError β} {number : Symbols → β → Option α} {x : α}
    {t : Symbols} (enters : ∀ s, Enters (intern s) fun u => number u s) (fits : t.Fits)
    (back : ∃ s y, Returns (number t) (resolve t) t.Plain x s y) : Persists intern resolve t x := by
  obtain ⟨s, y, back⟩ := back
  exact ⟨s, y, back.resolves, (enters s).still t fits y back.matched.numbered,
    back.matched.resolved, back.same⟩

/-- Terms, predicates and facts that pass their test come out of a table as they went in, whatever
the table held before and whatever has come after. What a table has the names of comes out and goes
in again without a change of the table; it then says the same, and is the same if the table holds no
string twice and none that every table knows. Ids of variables must fit, and sets be in order. -/
theorem interned_survives (t : Symbols) :
    (∀ x : Term String, x.Canonical → Survives Term.intern Term.resolve t x) ∧
    (∀ a : Atom String, a.Canonical → Survives Atom.intern Atom.resolve t a) ∧
    (∀ f : Fact String, Atom.Canonical f → f.validateFact = .ok () →
      (f.convert.run t).2.Fits → ∃ g, (f.convert.run t).1 = .ok g ∧
        ∀ u, (f.convert.run t).2.Grows u → Atom.resolve u g = .ok f) ∧
    (t.Fits →
      (∀ x : Term Nat, x.Proper t → Persists Term.intern Term.resolve t x) ∧
      ∀ a : Atom Nat, a.Proper t → Persists Atom.intern Atom.resolve t a) := by
  have atom (a : Atom String) (canonical : a.Canonical) :
      Survives Atom.intern Atom.resolve t a :=
    survives_of_matched (enters_atom a) (fun numbered => canonical.matched numbered) t
  refine ⟨fun x canonical => ?_, atom, fun f canonical valid fits => ?_, fun fits =>
    ⟨fun x proper => ?_, fun a proper => ?_⟩⟩
  · exact survives_of_matched (enters_term x) (fun numbered => canonical.matched numbered) t
  · rw [Atom.convert_run valid] at fits ⊢
    exact ⟨_, rfl, atom f canonical fits⟩
  · exact persists_of_returns enters_term fits proper.exists_returns
  · exact persists_of_returns enters_atom fits proper.exists_returns

/-- Among strings in a set of a set, one that is new, one that the table holds twice and one that
every table knows: the set changes its order on its way in. Out of the same table, a set of second
ids goes back in under the first ones. -/
theorem interned_survives_doubled :
    let inner : Term String := .set [.str "a", .str "read", .str "x"]
    let x : Term String := .set [.var "x", .str "x", inner]
    let grown : Symbols := { Item.doubled with strings := ["read", "x", "x", "a"] }
    let y : Term Nat := .set [.str 1024, .str 1026]
    x.intern.run Item.doubled =
        (.set [.var 1025, .str 1025, .set [.str 2, .str 1025, .str 1027]], grown) ∧
      (∀ u, grown.Grows u →
        Term.resolve u (.set [.var 1025, .str 1025, .set [.str 2, .str 1025, .str 1027]]) = .ok x) ∧
      Persists Term.intern Term.resolve Item.doubled y := by
  intro inner x grown y
  have taken : x.intern.run Item.doubled =
      (.set [.var 1025, .str 1025, .set [.str 2, .str 1025, .str 1027]], grown) := rfl
  have canonical : inner.Canonical := by
    refine .set (by unfold Sorted.Increasing; decide +kernel) fun t ht => ?_
    simp only [List.mem_cons, List.not_mem_nil, or_false] at ht
    rcases ht with rfl | rfl | rfl
    all_goals exact .str _
  obtain ⟨survives, -, -, persists⟩ := interned_survives Item.doubled
  refine ⟨taken, fun u later => ?_, (persists (by decide)).1 y ?_⟩
  · have back := survives x (.set (by unfold Sorted.Increasing; decide +kernel) fun t ht => ?_)
    · unfold Survives at back
      rw [taken] at back
      exact back (by decide) u later
    · simp only [List.mem_cons, List.not_mem_nil, or_false] at ht
      rcases ht with rfl | rfl | rfl
      · exact .var _
      · exact .str _
      · exact canonical
  · refine .set (by unfold Sorted.Increasing; decide) fun t ht => ?_
    simp only [List.mem_cons, List.not_mem_nil, or_false] at ht
    rcases ht with rfl | rfl
    · exact .str (by decide)
    · exact .str (by decide)

end Warrant
