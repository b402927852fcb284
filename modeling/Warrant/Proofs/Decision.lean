import Warrant.Regex.Pattern
import Warrant.Proofs.Outcome

/-! The decision in terms of what can be derived.
With `least` for the facts that the rules derive, a query matches when its body is found there,
under origins that it relies on and with every expression true. `authorize` answers with the checks
that do not hold and the first policy with a query that matches, in this sense, as long as the
programs of the expressions come out right and no limit is in the way. -/

namespace Warrant

open Provenance

/-! Interning keeps the shape of programs, whether the table has room for them or not. -/

section Balanced

variable {σ κ : Type}

def Rule.IsBalanced (r : Rule σ κ) : Prop := ∀ e ∈ r.expressions, e.IsBalanced

def Check.IsBalanced (c : Check σ κ) : Prop := ∀ q ∈ c.queries, q.IsBalanced

def Policy.IsBalanced (p : Policy σ κ) : Prop := ∀ q ∈ p.queries, q.IsBalanced

instance (r : Rule σ κ) : Decidable r.IsBalanced :=
  inferInstanceAs (Decidable (∀ e ∈ r.expressions, e.IsBalanced))

instance (c : Check σ κ) : Decidable c.IsBalanced :=
  inferInstanceAs (Decidable (∀ q ∈ c.queries, q.IsBalanced))

instance (p : Policy σ κ) : Decidable p.IsBalanced :=
  inferInstanceAs (Decidable (∀ q ∈ p.queries, q.IsBalanced))

end Balanced

section Shape

variable {α β σ τ : Type} {s : σ}

theorem forall₂_mapM {R : β → α → Prop} {f : α → StateM σ β} (h : ∀ a s, R (f a s).1 a)
    (l : List α) (s : σ) : List.Forall₂ R (l.mapM f s).1 l := by
  induction l generalizing s with
  | nil => exact .nil
  | cons a rest ih =>
    rw [List.mapM_cons]
    exact .cons (h a s) (ih (f a s).2)

theorem height?_mapM (term : Term σ → StateM τ (Term Nat)) (op : Op σ) (s : τ) :
    (op.mapM term s).1.height? = op.height? := by
  funext n
  cases op with
  | value t => rfl
  | unary op =>
    cases n with
    | zero => rfl
    | succ n => rfl
  | binary op =>
    rcases n with _ | _ | n
    · rfl
    · rfl
    · rfl

theorem foldlM_height?_congr {ops : List (Op σ)} {others : List (Op τ)}
    (h : List.Forall₂ (fun o p => o.height? = p.height?) ops others) (n : Nat) :
    ops.foldlM (fun n op => op.height? n) n = others.foldlM (fun n op => op.height? n) n := by
  induction h generalizing n with
  | nil => rfl
  | cons first _ ih =>
    rw [List.foldlM_cons, List.foldlM_cons, first]
    exact bind_congr ih

theorem Expression.balanced_mapM_iff (term : Term σ → StateM τ (Term Nat)) (e : Expression σ)
    (s : τ) : (e.mapM term s).1.IsBalanced ↔ e.IsBalanced := by
  have heights := forall₂_mapM (R := fun (o : Op Nat) (p : Op σ) => o.height? = p.height?)
    (height?_mapM term) e.ops s
  exact Eq.congr_left (foldlM_height?_congr heights 0)

/-- What a step makes of every element of a list, the whole walk makes of all. -/
theorem all_mapM {P : α → Prop} {Q : β → Prop} {f : α → StateM σ β}
    (h : ∀ a s, P a → Q (f a s).1) (l : List α) (s : σ) (all : ∀ a ∈ l, P a) :
    ∀ b ∈ (l.mapM f s).1, Q b := by
  intro b hb
  have related := forall₂_mapM (R := fun b a => P a → Q b) h l s
  obtain ⟨a, ha, step⟩ := exists_of_forall₂ related hb
  exact step (all a ha)

end Shape

theorem Rule.balanced_intern (r : Rule String PublicKey) (s : Symbols) (h : r.IsBalanced) :
    (r.intern s).1.IsBalanced :=
  all_mapM (fun e s => (Expression.balanced_mapM_iff Term.intern e s).2) r.expressions _ h

theorem Check.balanced_intern (c : Check String PublicKey) (s : Symbols) (h : c.IsBalanced) :
    (c.intern s).1.IsBalanced :=
  all_mapM Rule.balanced_intern c.queries s h

theorem Policy.balanced_intern (p : Policy String PublicKey) (s : Symbols) (h : p.IsBalanced) :
    (p.intern s).1.IsBalanced :=
  all_mapM Rule.balanced_intern p.queries s h

theorem Rule.not_fails_of_balanced [Patterns] {r : Rule Nat Nat} {u : Symbols}
    {facts : List (Fact Nat)} (h : r.IsBalanced) : ¬ r.Fails u facts := by
  rintro ⟨b, binds, e, fault⟩
  obtain ⟨-, expression, he, unbalanced⟩ := fault_of_holdsAll fault
  exact unbalanced (h expression he)

namespace Authorizer

/-- Every expression of the blocks and of the statements leaves one value. -/
structure Balanced (a : Authorizer) : Prop where
  blockRules : ∀ e ∈ a.world.rules, e.rule.IsBalanced
  blockChecks : ∀ b ∈ a.blocks.getD [], ∀ c ∈ b.checks, c.IsBalanced
  rules : ∀ r ∈ a.pending, r.IsBalanced
  checks : ∀ c ∈ a.checks, c.IsBalanced
  policies : ∀ p ∈ a.policies, p.IsBalanced

variable {a : Authorizer}

theorem Balanced.ready (h : a.Balanced) : ∀ e ∈ a.ready.world.rules, e.rule.IsBalanced := by
  have interned := all_mapM Rule.balanced_intern a.pending a.defaultTrust.2.symbols h.rules
  intro e he
  rw [ready_rules] at he
  rcases List.mem_append.1 he with old | new
  · exact h.blockRules e old
  · obtain ⟨rule, hr, rfl⟩ := List.mem_map.1 new
    exact interned rule hr

/-- What is asked is balanced as well. -/
theorem Balanced.heard (h : a.Balanced) :
    (∀ c ∈ (a.heard.2.hears a.heard.1).checks, c.check.IsBalanced) ∧
      ∀ p ∈ (a.heard.2.hears a.heard.1).policies, p.IsBalanced := by
  let scopes := a.scopes.mapM Scope.intern a.symbols
  let statements := a.checks.mapM Check.intern scopes.2
  have checks := all_mapM Check.balanced_intern a.checks scopes.2 h.checks
  have policies := all_mapM Policy.balanced_intern a.policies statements.2 h.policies
  refine ⟨fun c hc => ?_, policies⟩
  rcases List.mem_append.1 hc with hc | hc
  · obtain ⟨p, hp, hc⟩ := List.mem_flatMap.1 hc
    obtain ⟨k, hk, rfl⟩ := List.mem_map.1 hc
    exact h.blockChecks p.1 (List.fst_mem_of_mem_zipIdx hp) k.1 (List.fst_mem_of_mem_zipIdx hk)
  · obtain ⟨k, hk, rfl⟩ := List.mem_map.1 hc
    exact checks k.1 (List.fst_mem_of_mem_zipIdx hk)

theorem Balanced.readied (h : a.Balanced) : a.ready.Balanced where
  blockRules := h.ready
  blockChecks := a.ready_blocks ▸ h.blockChecks
  rules r hr := by
    rw [ready_eq] at hr
    cases hr
  checks := a.ready_checks ▸ h.checks
  policies := a.ready_policies ▸ h.policies

/-- Whether a query matches what the facts and rules of the authorizer and its token derive. -/
def Matches [Patterns] (a : Authorizer) (trust : Trust) (q : Rule Nat Nat) : Prop :=
  ∃ used, MayUse trust (a.ready.world.least a.ready.symbols) used ∧
    q.Accepts a.table (used.map (·.2))

noncomputable def decision [Patterns] (a : Authorizer) : Ruling Nat Nat :=
  a.hearing.decision a.Matches

end Authorizer

/-- The same for what was written. -/
def Program.Matches [Patterns] (p : Program) (trust : Trust) (q : Rule String PublicKey) : Prop :=
  ∃ used, MayUse trust p.least used ∧ q.Admits (used.map (·.2))

noncomputable def Session.decision [Patterns] (s : Session) : Ruling String PublicKey :=
  s.hearing.decision s.program.Matches

namespace Authorizer

variable {a : Authorizer}

theorem Holds.decision [Patterns] {s : Session} (h : a.Holds s) (fits : a.table.Fits) :
    a.decision.outline = s.decision.outline := by
  obtain ⟨sound, -, reads⟩ := h.ready
  obtain ⟨sound', grows, named⟩ := h.hearing
  have least := ((reads _ sound (grows.fits fits) (.refl _)).least sound).grows grows
  refine (named _ sound' fits (.refl _)).decision_congr fun trust q r rule => ?_
  exact least.exists_mayUse_iff (fun _ _ => Rule.accepts_iff sound' rule) trust

theorem authorize_eq_result [Patterns] (fresh : a.Unevaluated) (balanced : a.Balanced)
    {limits : RunLimits}
    (never : limits.deadline = .never) (room : a.ready.world.Room a.ready.symbols limits) :
    (a.authorize limits).1 = a.decision.result a.table := by
  have sound : ¬ a.ready.world.Faulty a.ready.symbols (a.ready.world.least a.ready.symbols) := by
    intro faulty
    obtain ⟨e, he, used, -, fails⟩ := faulty
    exact Rule.not_fails_of_balanced (balanced.ready e he) fails
  have ended := World.run_eq_ok_iff.2 ⟨sound, room⟩
  have stored := World.facts_of_run ended
  have answers (trust : Trust) (q : Rule Nat Nat) (h : q.IsBalanced) :
      Tells ((a.ready.world.run a.ready.symbols limits .never).2.hasMatch q trust a.table .never)
        (a.Matches trust q) := by
    rw [World.hasMatch_eq_ask, stored]
    refine tells_ask fun failed => ?_
    obtain ⟨used, -, fails⟩ := failed
    exact absurd fails (Rule.not_fails_of_balanced h)
  obtain ⟨checks, policies⟩ := balanced.readied.heard
  have ruling := a.hearing.ruling_eq_decision
    (fun trust q =>
      (a.ready.world.run a.ready.symbols limits .never).2.hasMatch q trust a.table .never) a.Matches
    (fun c hc q hq => answers (c.trust q) q (checks c hc q hq))
    fun p hp q hq => answers (a.hearing.trust q) q (policies p hp q hq)
  rw [authorize_eq fresh, never]
  simp only [ended, ruling]
  rfl

/-- `authorize` computes the decision. -/
theorem authorize_eq_decision [Patterns] {initial limits : RunLimits} {cs : List Call}
    (balanced : ((ofLimits initial).calls cs).Balanced) (never : limits.deadline = .never)
    (room : ((ofLimits initial).calls cs).ready.world.Room
      ((ofLimits initial).calls cs).ready.symbols limits) :
    let a := (ofLimits initial).calls cs
    let s := Session.calls {} (ofLimits initial) cs
    (a.authorize limits).1 = a.decision.result a.table ∧
      (a.table.Fits → a.decision.outline = s.decision.outline) := by
  have fresh := (unevaluated_ofLimits initial).calls cs
  have holds := (Holds.initial initial).calls cs
  exact ⟨authorize_eq_result fresh balanced never room, holds.decision⟩

/-- A token whose check looks at the time, and a request that a check of the authorizer refuses. -/
theorem decision_of_request :
    let right (file : String) : Fact String := ⟨"right", [.str file]⟩
    let early : Expression String := ⟨[.value (.var "t"), .value (.date 10), .binary .lessThan]⟩
    let timely : Rule String PublicKey :=
      { head := ⟨"query", []⟩, body := [⟨"time", [.var "t"]⟩], expressions := [early]
        scopes := [] }
    let issuer : BlockDraft := { facts := [right "one"], checks := [⟨.one, [timely]⟩] }
    let cs : List Call := [.fact ⟨"time", [.date 7]⟩, .token ⟨[issuer.build none]⟩,
      .policy (.ofBody .allow [right "one"]), .check (.ofBody .one [⟨"admin", []⟩])]
    let a := (ofLimits {}).calls cs
    let refused : Except AuthorizerError Nat := .error (.refused (.unauthorized (.allow 0)
      [.authorizer 0 "check if admin()"]))
    (a.authorize {}).1 = refused ∧ a.decision.result a.table = refused := by
  dsimp only
  refine (and_iff_left_of_imp fun answer => ?_).2 ?_
  · refine ((authorize_eq_decision ?_ rfl ?_).1.symm.trans answer)
    · refine ⟨?_, ?_, ?_, ?_, ?_⟩
      · decide +kernel
      · decide +kernel
      · decide +kernel
      · decide +kernel
      · decide +kernel
    · refine (World.run_eq_ok_iff.1 ?_).2
      decide +kernel
  · decide +kernel

end Authorizer

end Warrant
