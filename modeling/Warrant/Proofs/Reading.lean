import Warrant.Proofs.Ordered
import Warrant.Proofs.Tables
import Warrant.Statement

/-! What interned items say.
`rename` carries an item from one kind of name to another; with the strings of a table for its ids
it reads an interned item. An item is proper in a table when the table has all its names and its
sets are in order: then the reading tells it from every other proper item, and no later table reads
it differently. `Names` puts the two together: an item that is proper and reads as another. -/

namespace Warrant

namespace Symbols

variable {t u : Symbols} {s : String} {i : Nat}

/-- The key behind an id. An id without one stands for a key of no bytes. -/
def keyOf (t : Symbols) (id : Nat) : PublicKey := t.keys[id]?.getD ⟨.ed25519, []⟩

theorem textOf_eq (h : t.text? i = some s) : t.textOf i = s := by rw [textOf, h, Option.getD_some]

theorem text?_eq_some_textOf (h : (t.text? i).isSome) : t.text? i = some (t.textOf i) := by
  obtain ⟨s, found⟩ := Option.isSome_iff_exists.1 h
  rw [textOf_eq found, found]

end Symbols

namespace Term

variable {σ τ : Type}

/-- The term with other names. Sets are put in the order of the new names. -/
def rename [Ord τ] (f : σ → τ) (t : Term σ) : Term τ := t.mapM (m := Id) f f

variable [Ord τ] {f : σ → τ}

theorem mapAllM_eq_map (l : List (Term σ)) : mapAllM (m := Id) f f l = l.map (rename f) := by
  induction l with
  | nil => rfl
  | cons t rest ih =>
    rw [List.map_cons, ← ih]
    rfl

@[simp] theorem rename_var (v : σ) : rename f (.var v) = .var (f v) := rfl

@[simp] theorem rename_str (s : σ) : rename f (.str s) = .str (f s) := rfl

@[simp] theorem rename_int (i : Int64) : rename f (.int i) = .int i := rfl

@[simp] theorem rename_date (d : UInt64) : rename f (.date d) = .date d := rfl

@[simp] theorem rename_bytes (b : List UInt8) : rename f (.bytes b) = .bytes b := rfl

@[simp] theorem rename_bool (b : Bool) : rename f (.bool b) = .bool b := rfl

@[simp] theorem rename_set (l : List (Term σ)) :
    rename f (.set l) = .set (Sorted.ofList (l.map (rename f))) := by
  rw [← mapAllM_eq_map]
  rfl

/-- The term as a table reads it. -/
def read (t : Symbols) : Term Nat → Term String := rename t.textOf

/-- The names are in the table, and sets are in order. -/
inductive Proper (u : Symbols) : Term Nat → Prop where
  | var {v : Nat} (known : (u.text? v).isSome) : Proper u (.var v)
  | int (i : Int64) : Proper u (.int i)
  | str {s : Nat} (known : (u.text? s).isSome) : Proper u (.str s)
  | date (d : UInt64) : Proper u (.date d)
  | bytes (b : List UInt8) : Proper u (.bytes b)
  | bool (b : Bool) : Proper u (.bool b)
  | set {l : List (Term Nat)} (increasing : Sorted.Increasing l) (elements : ∀ t ∈ l, Proper u t) :
    Proper u (.set l)

/-- Proper, with a given reading. -/
def Names (u : Symbols) (t : Term Nat) (s : Term String) : Prop := t.Proper u ∧ t.read u = s

variable {u w : Symbols} {t : Term Nat} {s : Term String}

theorem read_grows (grows : u.Grows w) (h : t.Proper u) : t.Proper w ∧ t.read w = t.read u := by
  have text {i : Nat} (known : (u.text? i).isSome) :
      (w.text? i).isSome ∧ w.textOf i = u.textOf i := by
    have same := grows.text? (Symbols.text?_eq_some_textOf known)
    exact ⟨Option.isSome_of_mem same, Symbols.textOf_eq same⟩
  induction h with
  | var known => exact ⟨.var (text known).1, congrArg _ (text known).2⟩
  | str known => exact ⟨.str (text known).1, congrArg _ (text known).2⟩
  | int i => exact ⟨.int i, rfl⟩
  | date d => exact ⟨.date d, rfl⟩
  | bytes b => exact ⟨.bytes b, rfl⟩
  | bool b => exact ⟨.bool b, rfl⟩
  | @set l increasing _ ih =>
    refine ⟨.set increasing fun t ht => (ih t ht).1, ?_⟩
    have same : l.map (rename w.textOf) = l.map (rename u.textOf) :=
      List.map_congr_left fun t ht => (ih t ht).2
    rw [read, read, rename_set, rename_set, same]

theorem Names.grows (grows : u.Grows w) (h : t.Names u s) : t.Names w s := by
  obtain ⟨proper, rfl⟩ := h
  exact read_grows grows proper

theorem read_inj (sound : u.Sound) {a b : Term Nat} (ha : a.Proper u) (hb : b.Proper u)
    (same : a.read u = b.read u) : a = b := by
  have text {i j : Nat} (hi : (u.text? i).isSome) (hj : (u.text? j).isSome)
      (same : u.textOf i = u.textOf j) : i = j := by
    refine sound.text?_inj (Symbols.text?_eq_some_textOf hi) ?_
    rw [same]
    exact Symbols.text?_eq_some_textOf hj
  induction ha generalizing b with
  | var known =>
    cases hb with
    | var known' => exact congrArg _ (text known known' (Term.var.inj same))
    | set => simp [read] at same
    | _ => cases same
  | str known =>
    cases hb with
    | str known' => exact congrArg _ (text known known' (Term.str.inj same))
    | set => simp [read] at same
    | _ => cases same
  | int i | date i | bytes i | bool i =>
    cases hb with
    | set => simp [read] at same
    | _ => cases same <;> rfl
  | @set l increasing _ ih =>
    cases hb with
    | @set r increasing' proper' =>
      simp only [read, rename_set, Term.set.injEq] at same
      have members (s : Term String) : (∃ t ∈ l, t.read u = s) ↔ ∃ t ∈ r, t.read u = s := by
        rw [← List.mem_map, ← List.mem_map, ← Sorted.mem_ofList, ← Sorted.mem_ofList (l := r.map _)]
        exact iff_of_eq (congrArg (s ∈ ·) same)
      refine congrArg _ (Sorted.increasing_ext increasing increasing' fun t => ?_)
      refine ⟨fun ht => ?_, fun ht => ?_⟩
      · obtain ⟨t', ht', equal⟩ := (members _).1 ⟨t, ht, rfl⟩
        rwa [ih t ht (proper' t' ht') equal.symm]
      · obtain ⟨t', ht', equal⟩ := (members _).2 ⟨t, ht, rfl⟩
        rwa [← ih t' ht' (proper' t ht) equal]
    | _ => simp [read] at same

theorem names_all {l : List (Term Nat)} {r : List (Term String)} :
    List.Forall₂ (Names u) l r ↔ (∀ t ∈ l, t.Proper u) ∧ l.map (Term.read u) = r := by
  unfold Names
  rw [List.forall₂_and_left, ← List.forall₂_map_left_iff (R := Eq), List.forall₂_eq_eq_eq]

theorem Names.set {l : List (Term Nat)} {r : List (Term String)}
    (h : List.Forall₂ (Names u) l r) :
    Names u (.set (Sorted.ofList l)) (.set (Sorted.ofList r)) := by
  obtain ⟨proper, rfl⟩ := names_all.1 h
  refine ⟨.set (Sorted.ofList_increasing l) fun t ht => proper t (Sorted.mem_ofList.1 ht), ?_⟩
  rw [read, rename_set]
  refine congrArg _ (Sorted.ofList_congr fun s => ?_)
  simp only [List.mem_map, Sorted.mem_ofList]

end Term

/-! The same for everything that is made of terms. -/

section Rename

variable {σ τ κ μ : Type} [Ord τ]

def Atom.rename (f : σ → τ) (a : Atom σ) : Atom τ := ⟨f a.name, a.terms.map (Term.rename f)⟩

def Op.rename (f : σ → τ) : Op σ → Op τ
  | .value t => .value (t.rename f)
  | .unary op => .unary op
  | .binary op => .binary op

def Expression.rename (f : σ → τ) (e : Expression σ) : Expression τ := ⟨e.ops.map (Op.rename f)⟩

def Scope.rename (g : κ → μ) : Scope κ → Scope μ
  | .authority => .authority
  | .previous => .previous
  | .key k => .key (g k)

def Rule.rename (f : σ → τ) (g : κ → μ) (r : Rule σ κ) : Rule τ μ where
  head := r.head.rename f
  body := r.body.map (Atom.rename f)
  expressions := r.expressions.map (Expression.rename f)
  scopes := r.scopes.map (Scope.rename g)

def Check.rename (f : σ → τ) (g : κ → μ) (c : Check σ κ) : Check τ μ where
  kind := c.kind
  queries := c.queries.map (Rule.rename f g)

def Policy.rename (f : σ → τ) (g : κ → μ) (p : Policy σ κ) : Policy τ μ where
  kind := p.kind
  queries := p.queries.map (Rule.rename f g)

end Rename

structure Atom.Names (u : Symbols) (a : Atom Nat) (b : Atom String) : Prop where
  name : u.text? a.name = some b.name
  terms : List.Forall₂ (Term.Names u) a.terms b.terms

def Op.Names (u : Symbols) : Op Nat → Op String → Prop
  | .value t, .value s => t.Names u s
  | .unary a, .unary b => a = b
  | .binary a, .binary b => a = b
  | _, _ => False

def Expression.Names (u : Symbols) (e : Expression Nat) (d : Expression String) : Prop :=
  List.Forall₂ (Op.Names u) e.ops d.ops

def Scope.Names (u : Symbols) : Scope Nat → Scope PublicKey → Prop
  | .authority, .authority => True
  | .previous, .previous => True
  | .key k, .key owner => u.keys[k]? = some owner
  | _, _ => False

structure Rule.Names (u : Symbols) (r : Rule Nat Nat) (q : Rule String PublicKey) : Prop where
  head : r.head.Names u q.head
  body : List.Forall₂ (Atom.Names u) r.body q.body
  expressions : List.Forall₂ (Expression.Names u) r.expressions q.expressions
  scopes : List.Forall₂ (Scope.Names u) r.scopes q.scopes

structure Check.Names (u : Symbols) (c : Check Nat Nat) (d : Check String PublicKey) : Prop where
  kind : c.kind = d.kind
  queries : List.Forall₂ (Rule.Names u) c.queries d.queries

structure Policy.Names (u : Symbols) (p : Policy Nat Nat) (q : Policy String PublicKey) :
    Prop where
  kind : p.kind = q.kind
  queries : List.Forall₂ (Rule.Names u) p.queries q.queries

section Grows

variable {u w : Symbols} (later : u.Grows w)

include later

theorem Atom.Names.grows {a : Atom Nat} {b : Atom String} (h : a.Names u b) : a.Names w b :=
  ⟨later.text? h.name, h.terms.imp fun _ _ => Term.Names.grows later⟩

theorem Op.Names.grows {a : Op Nat} {b : Op String} (h : a.Names u b) : a.Names w b := by
  cases a <;> cases b <;> first | exact Term.Names.grows later h | exact h

theorem Expression.Names.grows {e : Expression Nat} {d : Expression String} (h : e.Names u d) :
    e.Names w d :=
  List.Forall₂.imp (fun _ _ => Op.Names.grows later) h

theorem Scope.Names.grows {a : Scope Nat} {b : Scope PublicKey} (h : a.Names u b) :
    a.Names w b := by
  cases a <;> cases b <;> first | exact later.key? h | exact h

theorem Rule.Names.grows {r : Rule Nat Nat} {q : Rule String PublicKey} (h : r.Names u q) :
    r.Names w q where
  head := h.head.grows later
  body := h.body.imp fun _ _ => Atom.Names.grows later
  expressions := h.expressions.imp fun _ _ => Expression.Names.grows later
  scopes := h.scopes.imp fun _ _ => Scope.Names.grows later

end Grows

namespace Atom

/-- The atom as a table reads it. -/
def read (u : Symbols) (a : Atom Nat) : Atom String := a.rename u.textOf

variable {u : Symbols} {a b : Atom Nat} {s : Atom String}

theorem Names.read_eq (h : a.Names u s) : a.read u = s := by
  have terms : a.terms.map (Term.read u) = s.terms := (Term.names_all.1 h.terms).2
  obtain ⟨name, sterms⟩ := s
  exact congrArg₂ _ (Symbols.textOf_eq h.name) terms

theorem Names.inj (sound : u.Sound) (ha : a.Names u s) (hb : b.Names u s) : a = b := by
  have terms : a.terms = b.terms := by
    refine List.left_unique_forall₂' (fun t x t' h k => ?_) ha.terms hb.terms
    exact Term.read_inj sound h.1 k.1 (h.2.trans k.2.symm)
  obtain ⟨name, ts⟩ := a
  cases sound.text?_inj ha.name hb.name
  exact congrArg _ terms

end Atom

end Warrant
