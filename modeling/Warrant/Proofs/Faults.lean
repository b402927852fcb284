import Warrant.Proofs.Decision
import Warrant.Proofs.Steps

/-! Expressions with a text are at no fault.
The printer and the evaluator are two stack machines. Both need the same operands at each operation
and both leave one more or less, so the printer comes to a text exactly for balanced programs
(`render?_isSome_iff`), whatever the tables. Tables and tokens that programs go through leave their
operations as they are, so an authorizer that is told only what has a text never fails for a fault
of a program. -/

namespace Warrant

/-! The printer. -/

section Printer

variable {σ : Type} (term : Term σ → String)

theorem Op.map_length_render (op : Op σ) (stack : List String) :
    (op.render term stack).map List.length = op.height? stack.length := by
  cases op with
  | value t => rfl
  | unary op =>
    cases stack with
    | nil => rfl
    | cons operand stack => rfl
  | binary op =>
    rcases stack with _ | ⟨right, _ | ⟨left, stack⟩⟩
    · rfl
    · rfl
    · rfl

theorem map_length_foldlM_render (ops : List (Op σ)) (stack : List String) :
    (ops.foldlM (fun stack (op : Op σ) => op.render term stack) stack).map List.length =
      ops.foldlM (fun n op => op.height? n) stack.length := by
  induction ops generalizing stack with
  | nil => rfl
  | cons op ops ih =>
    rw [List.foldlM_cons, List.foldlM_cons, ← Op.map_length_render term op stack]
    cases op.render term stack with
    | none => rfl
    | some next => exact ih next

/-- A program has a text exactly if it is balanced. -/
theorem Expression.render?_isSome_iff (e : Expression σ) :
    (e.render? term).isSome ↔ e.IsBalanced := by
  have height := map_length_foldlM_render term e.ops []
  unfold render? IsBalanced
  rw [List.length_nil] at height
  rw [← height]
  cases e.ops.foldlM (fun stack (op : Op σ) => op.render term stack) [] with
  | none => simp
  | some stack =>
    rcases stack with _ | ⟨text, _ | ⟨other, rest⟩⟩
    · simp
    · simp
    · simp

end Printer

theorem Symbols.renderExpression?_isSome_iff (table : Symbols) {e : Expression Nat} :
    (table.renderExpression? e).isSome ↔ e.IsBalanced :=
  e.render?_isSome_iff table.renderTerm

theorem Symbols.not_balanced_of_renderExpression? {table : Symbols} {e : Expression Nat}
    (h : table.renderExpression? e = none) : ¬ e.IsBalanced := by
  rw [← table.renderExpression?_isSome_iff, h]
  exact nofun

theorem keeps_ne_error_of_balanced [Patterns] {expressions : List (Expression Nat)}
    (balanced : ∀ e ∈ expressions, e.IsBalanced) (symbols : Symbols) (values : Binding)
    (error : ExpressionError) : keeps symbols expressions values ≠ .error error := by
  intro fault
  obtain ⟨-, e, he, unbalanced⟩ := fault_of_holdsAll fault
  exact unbalanced (balanced e he)

/-! What a computation can come to. -/

/-- A result is good and an error is bad, whatever the table. -/
def Leads {ε α : Type} (x : ExceptT ε (StateM Symbols) α) (good : α → Prop) (bad : ε → Prop) :
    Prop :=
  ∀ t, (∀ a, (x.run t).1 = .ok a → good a) ∧ ∀ e, (x.run t).1 = .error e → bad e

section Leads

variable {ε α β : Type} {x : ExceptT ε (StateM Symbols) α} {good : α → Prop} {bad : ε → Prop}

theorem leads_any (x : ExceptT ε (StateM Symbols) α) : Leads x (fun _ => True) fun _ => True :=
  fun _ => ⟨fun _ _ => trivial, fun _ _ => trivial⟩

theorem leads_pure {a : α} (h : good a) : Leads (pure a : ExceptT ε (StateM Symbols) α) good bad :=
  fun _ => ⟨fun _ same => Except.ok.inj same ▸ h, nofun⟩

theorem leads_bind {f : α → ExceptT ε (StateM Symbols) β} {better : β → Prop}
    (first : Leads x good bad) (next : ∀ a, good a → Leads (f a) better bad) :
    Leads (x >>= f) better bad := by
  intro t
  rw [Symbols.run_bind_eq]
  cases run : (x.run t).1 with
  | error e => exact ⟨nofun, fun d same => Except.error.inj same ▸ (first t).2 e run⟩
  | ok a => exact next a ((first t).1 a run) _

theorem leads_mapM {R : α → β → Prop} {f : α → ExceptT ε (StateM Symbols) β} {l : List α}
    (h : ∀ a ∈ l, Leads (f a) (R a) bad) : Leads (l.mapM f) (List.Forall₂ R l) bad := by
  induction l with
  | nil => exact leads_pure .nil
  | cons a rest ih =>
    rw [List.mapM_cons]
    refine leads_bind (h a (List.mem_cons_self ..)) fun b hb => ?_
    refine leads_bind (ih fun c hc => h c (List.mem_cons_of_mem _ hc)) fun bs hbs => ?_
    exact leads_pure (.cons hb hbs)

theorem leads_all {good : β → Prop} {f : α → ExceptT ε (StateM Symbols) β} {l : List α}
    (h : ∀ a ∈ l, Leads (f a) good bad) : Leads (l.mapM f) (fun bs => ∀ b ∈ bs, good b) bad := by
  intro t
  obtain ⟨results, errors⟩ := leads_mapM (R := fun _ => good) h t
  refine ⟨fun bs run b hb => ?_, errors⟩
  obtain ⟨a, -, holds⟩ := exists_of_forall₂ (List.Forall₂.flip (results bs run)) hb
  exact holds

theorem leads_forM {f : α → ExceptT ε (StateM Symbols) PUnit} {l : List α}
    (h : ∀ a ∈ l, Leads (f a) (fun _ => True) bad) : Leads (l.forM f) (fun _ => True) bad := by
  induction l with
  | nil => exact leads_pure trivial
  | cons a rest ih =>
    refine leads_bind (h a (List.mem_cons_self ..)) fun _ _ => ?_
    exact ih fun c hc => h c (List.mem_cons_of_mem _ hc)

end Leads

/-! Tokens. -/

section Tokens

variable (source : Symbols)

theorem leads_transferExpression {e : Expression Nat} (h : e.IsBalanced) :
    Leads (e.transfer source) Expression.IsBalanced fun _ => True := by
  have heights (op : Op Nat) : Leads (op.mapM (Term.transfer source))
      (fun moved => op.height? = moved.height?) fun _ => True := by
    cases op with
    | value t => exact leads_bind (leads_any _) fun moved _ => leads_pure (funext fun n => rfl)
    | unary op => exact leads_pure rfl
    | binary op => exact leads_pure rfl
  refine leads_bind (leads_mapM fun op _ => heights op) fun ops same => leads_pure ?_
  exact (foldlM_height?_congr same 0).symm.trans h

theorem leads_transferRule {r : Rule Nat Nat} (h : r.IsBalanced) :
    Leads (r.transfer source) Rule.IsBalanced fun _ => True := by
  refine leads_bind (leads_any _) fun head _ => leads_bind (leads_any _) fun body _ => ?_
  refine leads_bind (leads_all fun e he => leads_transferExpression source (h e he))
    fun expressions balanced => ?_
  exact leads_bind (leads_any _) fun scopes _ => leads_pure balanced

theorem leads_transferCheck {c : Check Nat Nat} (h : c.IsBalanced) :
    Leads (c.transfer source) Check.IsBalanced fun _ => True :=
  leads_bind (leads_all fun q hq => leads_transferRule source (h q hq)) fun _ balanced =>
    leads_pure balanced

/-- What a token is refused for is nothing that an evaluation ends with. -/
def AuthorizerError.Formal (e : AuthorizerError) : Prop := ∀ d, e ≠ .evaluation d

theorem AuthorizerError.formal_ofTransfer (e : TransferError) : (ofTransfer e).Formal := by
  intro d
  cases e with
  | _ => exact nofun

/-- Whether every program of a block leaves one value. -/
structure Block.IsBalanced (b : Block) : Prop where
  rules : ∀ r ∈ b.rules, r.IsBalanced
  checks : ∀ c ∈ b.checks, c.IsBalanced

structure TransferredBlock.IsBalanced (b : TransferredBlock) : Prop where
  rules : ∀ r ∈ b.rules, r.2.IsBalanced
  checks : ∀ c ∈ b.loaded.checks, c.IsBalanced

namespace Loading

theorem leads_ofTransfer {α : Type} {x : Transfer α} {good : α → Prop}
    (h : Leads x good fun _ => True) : Leads (ofTransfer x) good AuthorizerError.Formal := by
  intro t
  have same : ((ofTransfer x).run t).1 = (x.run t).1.mapError AuthorizerError.ofTransfer := rfl
  rw [same]
  refine ⟨fun a run => (h t).1 a (Rule.mapError_eq_ok_iff.1 run), fun e run => ?_⟩
  obtain ⟨d, -, rfl⟩ := Rule.mapError_eq_error_iff.1 run
  exact AuthorizerError.formal_ofTransfer d

theorem leads_checkRule (block : Nat) (r : Rule Nat Nat) :
    Leads (checkRule block r) (fun _ => True) AuthorizerError.Formal := by
  intro t
  unfold checkRule
  split
  · refine ⟨fun _ _ => trivial, fun e same d fault => ?_⟩
    cases same
    cases fault
  · refine ⟨fun _ _ => trivial, fun e same => ?_⟩
    cases same

theorem leads_owners (blocks : List Block) (index : Nat) (found : KeyOwners) :
    Leads (owners blocks index found) (fun _ => True) AuthorizerError.Formal := by
  induction blocks generalizing index found with
  | nil => exact leads_pure trivial
  | cons b rest ih =>
    unfold owners
    split
    · exact ih (index + 1) found
    · rename_i key signed
      intro t
      exact ih (index + 1) _ _

theorem leads_block {b : Block} (h : b.IsBalanced) (owners : KeyOwners) (index : Nat) :
    Leads (block owners index b) TransferredBlock.IsBalanced AuthorizerError.Formal := by
  have rule (trust : Trust) (r : Rule Nat Nat) (hr : r ∈ b.rules) :
      Leads (do
        let r ← ofTransfer (r.transfer b.symbols)
        checkRule index r
        return (Trust.ofScopes r.scopes trust (.block index) owners, r) : Loading _)
        (fun r => r.2.IsBalanced) AuthorizerError.Formal := by
    refine leads_bind (leads_ofTransfer (leads_transferRule b.symbols (h.rules r hr)))
      fun moved balanced => ?_
    exact leads_bind (leads_checkRule index moved) fun _ _ => leads_pure balanced
  refine leads_bind (leads_ofTransfer (leads_any _)) fun scopes _ => ?_
  refine leads_bind (leads_ofTransfer (leads_any _)) fun facts _ => ?_
  refine leads_bind (leads_all fun r hr => rule _ r hr) fun rules balanced => ?_
  refine leads_bind (leads_ofTransfer (leads_all fun c hc =>
    leads_transferCheck b.symbols (h.checks c hc))) fun checks asked => ?_
  refine leads_bind (leads_forM fun q _ => leads_checkRule index q) fun _ _ => ?_
  exact leads_pure ⟨balanced, asked⟩

theorem leads_blocks {blocks : List Block} (h : ∀ b ∈ blocks, b.IsBalanced) (owners : KeyOwners)
    (index : Nat) : Leads (Loading.blocks owners blocks index)
      (fun taken => ∀ b ∈ taken, b.IsBalanced) AuthorizerError.Formal := by
  induction blocks generalizing index with
  | nil => exact leads_pure nofun
  | cons b rest ih =>
    refine leads_bind (leads_block (h b (List.mem_cons_self ..)) owners index) fun first hf => ?_
    refine leads_bind (ih (fun c hc => h c (List.mem_cons_of_mem _ hc)) (index + 1))
      fun others ho => ?_
    exact leads_pure (List.forall_mem_cons.2 ⟨hf, ho⟩)

theorem leads_token {t : Token} (h : ∀ b ∈ t.blocks, b.IsBalanced) :
    Leads (token t) (fun taken => ∀ b ∈ taken.2, b.IsBalanced) AuthorizerError.Formal := by
  refine leads_bind (leads_owners t.blocks 0 {}) fun owners _ => ?_
  exact leads_bind (leads_blocks h owners 0) fun blocks balanced => leads_pure balanced

end Loading

end Tokens

/-! Authorizers. -/

/-- Whether every program that a call brings leaves one value. -/
def Call.IsBalanced : Call → Prop
  | .token t => ∀ b ∈ t.blocks, b.IsBalanced
  | .rule r => r.IsBalanced
  | .check c => c.IsBalanced
  | .policy p => p.IsBalanced
  | .fact _ => True
  | .scope _ => True

section Answers

variable [Patterns] {r : Rule Nat Nat} (balanced : r.IsBalanced) (symbols : Symbols) (j : Join)
  (error : ExpressionError)

include balanced

theorem Rule.keeps_ne_error_of_balanced (m : Match) (e : EvaluationError) :
    r.keeps symbols m ≠ .error e := by
  intro fault
  obtain ⟨_, blame, -⟩ := mapError_eq_error_iff.1 fault
  exact Warrant.keeps_ne_error_of_balanced balanced symbols m.binding _ blame

theorem Rule.apply_ne_execution (block : BlockId) :
    r.apply block symbols j ≠ .error (.execution error) := by
  intro h
  unfold apply at h
  cases candidates : r.candidates j with
  | error e =>
    rw [candidates] at h
    cases h
    obtain ⟨_, -, limit⟩ := mapError_eq_error_iff.1 candidates
    cases limit
  | ok found =>
    rw [candidates] at h
    cases kept : allKept (r.keeps symbols) found with
    | error e =>
      obtain ⟨m, -, fault⟩ := allKept_error kept
      exact keeps_ne_error_of_balanced balanced symbols m e fault
    | ok all =>
      change (allKept (r.keeps symbols) found).map _ = _ at h
      rw [kept] at h
      cases h

theorem Rule.hasMatch_ne_execution : r.hasMatch symbols j ≠ .error (.execution error) := by
  intro h
  unfold hasMatch at h
  cases candidates : r.candidates j with
  | error e =>
    rw [candidates] at h
    cases h
    obtain ⟨_, -, limit⟩ := mapError_eq_error_iff.1 candidates
    cases limit
  | ok found =>
    rw [candidates] at h
    obtain ⟨m, -, fault⟩ := firstKept_error h
    exact keeps_ne_error_of_balanced balanced symbols m _ fault

end Answers

namespace Authorizer

variable {a b : Authorizer}

theorem Balanced.saturated [Patterns] (h : a.Balanced) (limits : RunLimits) :
    (a.saturate limits).2.Balanced := by
  have ready := h.readied
  rw [saturate_state]
  refine ⟨fun e he => ?_, ready.blockChecks, ready.rules, ready.checks, ready.policies⟩
  obtain ⟨d, hd, renews⟩ := begun_of_ready e (saturate_rules a limits ▸ he)
  rw [renews.rule]
  exact h.ready d hd

theorem Balanced.saturate_ne_execution [Patterns] (h : a.Balanced) (limits : RunLimits)
    (error : ExpressionError) : (a.saturate limits).1 ≠ .error (.execution error) := by
  intro failed
  have sound (known : Set (Origin × Fact Nat)) : ¬ a.begun.Faulty a.ready.symbols known := by
    rintro ⟨e, he, used, -, fails⟩
    obtain ⟨d, hd, renews⟩ := begun_of_ready e he
    exact Rule.not_fails_of_balanced (renews.rule ▸ h.ready d hd) fails
  rcases a.saturate_cases limits with ⟨-, fine, -⟩ | ends
  · cases fine.symm.trans failed
  · rw [failed] at ends
    generalize (a.saturate limits).2.world = final at ends
    cases ends with
    | fault never reached faulty => exact sound _ faulty

/-- What is asked over a world where no program is at fault is answered or runs out of time. -/
theorem Balanced.concluded_ne_execution [Patterns] (h : b.Balanced) (limits : RunLimits)
    (error : ExpressionError) :
    (concluded limits b).1 ≠ .error (.evaluation (.execution error)) := by
  intro failed
  rw [concluded, conclude_eq] at failed
  generalize ruled : Hearing.ruling _ _ = ruling at failed
  cases ruling with
  | error e =>
    cases failed
    obtain ⟨trust, q, asked, fault⟩ := Hearing.ruling_error ruled
    obtain ⟨checks, policies⟩ := h.heard
    have balanced : q.IsBalanced := by
      rcases asked with ⟨c, hc, hq⟩ | ⟨p, hp, hq⟩
      · exact checks c hc q hq
      · exact policies p hp q hq
    exact Rule.hasMatch_ne_execution balanced _ _ error fault
  | ok r =>
    have decided := decided?_result b.heard.2.symbols r
    have failed : r.result b.heard.2.symbols = .error (.evaluation (.execution error)) := failed
    rw [failed] at decided
    cases decided

theorem answered_ne_execution [Patterns] {r : Rule String PublicKey} (h : r.IsBalanced)
    (limits : RunLimits) (error : ExpressionError) :
    (answered r limits b).1 ≠ .error (.evaluation (.execution error)) := by
  intro failed
  have interned := r.balanced_intern b.symbols h
  unfold answered at failed
  simp only [World.query] at failed
  generalize applied : Rule.apply _ _ _ _ = derived at failed
  cases derived with
  | error e =>
    cases failed
    exact Rule.apply_ne_execution interned _ _ error _ applied
  | ok derived =>
    obtain ⟨d, -, same⟩ := Rule.mapError_eq_error_iff.1 failed
    exact AuthorizerError.formal_ofTransfer d _ same

theorem Balanced.evaluate_ne_execution [Patterns] {α : Type} (h : a.Balanced) (limits : RunLimits)
    (error : ExpressionError) {ask : Authorizer → Except AuthorizerError α × Authorizer}
    (asked : ∀ b : Authorizer, b.Balanced → (ask b).1 ≠ .error (.evaluation (.execution error))) :
    (a.evaluate limits ask).1 ≠ .error (.evaluation (.execution error)) := by
  have sound := h.saturate_ne_execution limits error
  have ended := h.saturated limits
  unfold evaluate
  generalize a.saturate limits = final at sound ended
  obtain ⟨result, b⟩ := final
  cases result with
  | error e =>
    intro failed
    cases failed
    exact sound rfl
  | ok => exact asked b ended

theorem Balanced.moved [Patterns] (h : a.Balanced) {c : Option Call}
    (brings : ∀ d ∈ c, d.IsBalanced) (moved : a.Moved c b) : b.Balanced := by
  cases moved with
  | still limits => exact ⟨h.blockRules, h.blockChecks, h.rules, h.checks, h.policies⟩
  | @statement d valid =>
    have brings := brings d rfl
    cases d with
    | token t => exact h
    | fact f => exact ⟨h.blockRules, h.blockChecks, h.rules, h.checks, h.policies⟩
    | rule r =>
      refine ⟨h.blockRules, h.blockChecks, ?_, h.checks, h.policies⟩
      exact List.forall_mem_append.2 ⟨h.rules, List.forall_mem_singleton.2 brings⟩
    | check c =>
      refine ⟨h.blockRules, h.blockChecks, h.rules, ?_, h.policies⟩
      exact List.forall_mem_append.2 ⟨h.checks, List.forall_mem_singleton.2 brings⟩
    | policy p =>
      refine ⟨h.blockRules, h.blockChecks, h.rules, h.checks, ?_⟩
      exact List.forall_mem_append.2 ⟨h.policies, List.forall_mem_singleton.2 brings⟩
    | scope s => exact ⟨h.blockRules, h.blockChecks, h.rules, h.checks, h.policies⟩
  | @token t owners blocks symbols free run =>
    have taken : ∀ b ∈ blocks, b.IsBalanced :=
      (Loading.leads_token (brings _ rfl) a.symbols).1 _ (congrArg Prod.fst run)
    refine ⟨fun e he => ?_, fun l hl c hc => ?_, h.rules, h.checks, h.policies⟩
    · rw [(World.addBlocks_eq a.world blocks).1] at he
      rcases List.mem_append.1 he with old | new
      · exact h.blockRules e old
      · obtain ⟨p, hp, he⟩ := List.mem_flatMap.1 new
        obtain ⟨r, hr, rfl⟩ := List.mem_map.1 he
        exact (taken p.1 (List.fst_mem_of_mem_zipIdx hp)).rules r hr
    · obtain ⟨b, hb, rfl⟩ := List.mem_map.1 hl
      exact (taken b hb).checks c hc
  | @evaluated limits symbols sound grows =>
    have ended := h.saturated limits
    exact ⟨ended.blockRules, ended.blockChecks, ended.rules, ended.checks, ended.policies⟩

theorem call_formal {c : Call} (h : c.IsBalanced) {e : AuthorizerError}
    (failed : a.call c = .error e) : e.Formal := by
  have tested {x : Except StatementError Unit} {b : Authorizer}
      (failed : (x.mapError AuthorizerError.statement >>= fun _ => pure b) = .error e) :
      e.Formal := by
    cases x with
    | error d => exact Except.error.inj failed ▸ nofun
    | ok => cases failed
  cases c with
  | token t =>
    change a.addToken t = _ at failed
    unfold addToken at failed
    split at failed
    · exact Except.error.inj failed ▸ nofun
    split at failed
    · exact Except.error.inj failed ▸ nofun
    split at failed
    · rename_i run
      exact Except.error.inj failed ▸
        (Loading.leads_token h a.symbols).2 _ (congrArg Prod.fst run)
    · cases failed
  | scope s => cases failed
  | _ => exact tested failed

end Authorizer

/-! What has a text. -/

/-- Whether an expression has a text once its names are in a table. -/
def Expression.Prints (e : Expression String) : Prop :=
  ((e.intern.run .empty).2.renderExpression? (e.intern.run .empty).1).isSome

def Rule.Prints (r : Rule String PublicKey) : Prop := ∀ e ∈ r.expressions, e.Prints

/-- Whether the expressions of a block have texts in its table. -/
def Block.Prints (b : Block) : Prop :=
  ∀ r ∈ b.rules ++ b.checks.flatMap Check.queries, ∀ e ∈ r.expressions,
    (b.symbols.renderExpression? e).isSome

def Call.Prints : Call → Prop
  | .token t => ∀ b ∈ t.blocks, b.Prints
  | .rule r => r.Prints
  | .check c => ∀ q ∈ c.queries, q.Prints
  | .policy p => ∀ q ∈ p.queries, q.Prints
  | .fact _ => True
  | .scope _ => True

/-- Whether all expressions that come with a step have texts. -/
def Step.Prints : Step → Prop
  | .act (.call c) => c.Prints
  | .act (.query r _) => r.Prints
  | _ => True

theorem Expression.prints_iff {e : Expression String} : e.Prints ↔ e.IsBalanced :=
  (Symbols.renderExpression?_isSome_iff _).trans (balanced_mapM_iff Term.intern e .empty)

theorem Rule.Prints.balanced {r : Rule String PublicKey} (h : r.Prints) : r.IsBalanced :=
  fun e he => Expression.prints_iff.1 (h e he)

theorem Call.Prints.balanced {c : Call} (h : c.Prints) : c.IsBalanced := by
  cases c with
  | token t =>
    intro b hb
    have rule (r : Rule Nat Nat) (hr : r ∈ b.rules ++ b.checks.flatMap Check.queries) :
        r.IsBalanced :=
      fun e he => b.symbols.renderExpression?_isSome_iff.1 (h b hb r hr e he)
    refine ⟨fun r hr => rule r (List.mem_append_left _ hr), fun c hc q hq => rule q ?_⟩
    exact List.mem_append_right _ (List.mem_flatMap.2 ⟨c, hc, hq⟩)
  | rule r => exact Rule.Prints.balanced h
  | check c => exact fun q hq => Rule.Prints.balanced (h q hq)
  | policy p => exact fun q hq => Rule.Prints.balanced (h q hq)
  | fact f => trivial
  | scope s => trivial

theorem Step.Prints.balanced {x : Step} (h : x.Prints) : ∀ c ∈ x.call?, c.IsBalanced := by
  intro c call
  cases x with
  | act y =>
    cases y with
    | call d =>
      cases call
      exact Call.Prints.balanced h
    | authorize limits => cases call
    | query r limits => cases call
  | decide kind =>
    cases call
    exact List.forall_mem_singleton.2 nofun
  | clock now =>
    cases call
    trivial
  | limit limits => cases call

namespace Authorizer

variable {a : Authorizer}

/-- The error that a step ends with, if it ends with one. -/
def failure? [Patterns] (a : Authorizer) : Step → Option AuthorizerError
  | .act (.call c) => error? (a.call c)
  | .act (.authorize limits) => error? (a.authorize limits).1
  | .act (.query r limits) => error? (a.query r limits).1
  | _ => none
where
  error? {α : Type} : Except AuthorizerError α → Option AuthorizerError
    | .ok _ => none
    | .error e => some e

theorem error?_eq_some_iff {α : Type} {x : Except AuthorizerError α} {e : AuthorizerError} :
    failure?.error? x = some e ↔ x = .error e := by
  cases x with
  | ok a => simp [failure?.error?]
  | error d => simp [failure?.error?]

theorem Balanced.initial (limits : RunLimits) : (ofLimits limits).Balanced :=
  ⟨nofun, nofun, nofun, nofun, nofun⟩

variable [Patterns]

theorem Balanced.step (h : a.Balanced) (sound : a.symbols.Sound) {x : Step}
    (brings : ∀ c ∈ x.call?, c.IsBalanced) : (a.step x).Balanced := by
  rcases moved_step sound x with moved | ⟨c, e, -, -, same⟩
  · exact h.moved brings moved
  · rw [same]
    exact h

/-- What holds of every program that is told holds of all that is there. -/
theorem Balanced.steps (h : a.Balanced) (sound : a.symbols.Sound) {xs : List Step}
    (brings : ∀ x ∈ xs, ∀ c ∈ x.call?, c.IsBalanced) : (a.steps xs).Balanced := by
  induction xs generalizing a with
  | nil => exact h
  | cons x rest ih =>
    obtain ⟨first, later⟩ := List.forall_mem_cons.1 brings
    exact ih (h.step sound first) (step_table sound x).1 later

/-- A step with texts only, after others of the kind, is at no fault of a program. -/
theorem Balanced.failure?_ne (h : a.Balanced) {x : Step} (prints : x.Prints)
    (error : ExpressionError) : a.failure? x ≠ some (.evaluation (.execution error)) := by
  intro failed
  cases x with
  | act y =>
    cases y with
    | call c =>
      have failed := error?_eq_some_iff.1 failed
      exact call_formal (Call.Prints.balanced prints) failed _ rfl
    | authorize limits =>
      have failed := error?_eq_some_iff.1 failed
      rw [authorize_eq_evaluate] at failed
      exact h.evaluate_ne_execution limits error
        (fun b balanced => balanced.concluded_ne_execution limits error) failed
    | query r limits =>
      have failed := error?_eq_some_iff.1 failed
      by_cases valid : r.validate = .ok ()
      · rw [query_eq_evaluate a valid] at failed
        exact h.evaluate_ne_execution limits error
          (fun b _ => answered_ne_execution (Rule.Prints.balanced prints) limits error) failed
      · unfold query at failed
        cases tested : r.validate with
        | error e =>
          rw [tested] at failed
          cases failed
        | ok => exact valid tested
  | decide kind => cases failed
  | clock now => cases failed
  | limit limits => cases failed

end Authorizer

/-- A fault of a program comes only from an expression that has no text. With a text in some table
it is at no fault, and without one it comes to no value, under any binding and in any table. So
expressions that all have texts never end a search with an error, with one that has none nothing
passes, and an authorizer told nothing but texts never fails for a program, whatever the steps
before. -/
theorem fault_only_without_text [Patterns] :
    (∀ (e : Expression Nat) (table : Symbols) (values : Binding) (s : Scratch),
      ((table.renderExpression? e).isSome → e.evaluate values s ≠ .error .invalidStack) ∧
      (table.renderExpression? e = none → ∀ result, e.evaluate values s ≠ .ok result)) ∧
    (∀ (expressions : List (Expression Nat)) (table symbols : Symbols) (values : Binding),
      ((∀ e ∈ expressions, (table.renderExpression? e).isSome) →
        ∀ error, keeps symbols expressions values ≠ .error error) ∧
      ((∃ e ∈ expressions, table.renderExpression? e = none) →
        keeps symbols expressions values ≠ .ok true)) ∧
    ∀ (limits : RunLimits) (xs : List Step) (x : Step), (∀ y ∈ xs, y.Prints) → x.Prints →
      ∀ error, ((Authorizer.ofLimits limits).steps xs).failure? x ≠
        some (.evaluation (.execution error)) := by
  refine ⟨fun e table values s => ⟨fun text fault => ?_, fun none result run => ?_⟩,
    fun expressions table symbols values => ⟨fun texts error => ?_, ?_⟩,
    fun limits xs x before now error => ?_⟩
  · exact Expression.not_balanced_of_evaluate fault (table.renderExpression?_isSome_iff.1 text)
  · have unbalanced := Symbols.not_balanced_of_renderExpression? none
    exact unbalanced (Expression.balanced_of_evaluate run)
  · exact keeps_ne_error_of_balanced
      (fun e he => table.renderExpression?_isSome_iff.1 (texts e he)) symbols values error
  · rintro ⟨e, he, none⟩ passes
    have unbalanced := Symbols.not_balanced_of_renderExpression? none
    exact unbalanced (balanced_of_holdsAll passes e he)
  · have told := (Authorizer.Balanced.initial limits).steps Symbols.sound_empty
      fun y hy => (before y hy).balanced
    exact told.failure?_ne now error

/-- A quotient by zero is no fault of its program; a program that lacks an operand is at fault. -/
theorem fault_only_without_text_quotient :
    let asks (ops : List (Op String)) : Rule String PublicKey :=
      { head := ⟨"query", []⟩, body := [⟨"time", [.var "t"]⟩], expressions := [⟨ops⟩],
        scopes := [] }
    let told (ops : List (Op String)) : List Step :=
      [.clock 7, .act (.call (.policy ⟨.allow, [asks ops]⟩))]
    let quotient : List (Op String) := [.value (.int 1), .value (.int 0), .binary .div]
    let short : List (Op String) := [.value (.int 1), .binary .div]
    ((Authorizer.ofLimits {}).steps (told short)).failure? (.act (.authorize {})) =
        some (.evaluation (.execution .invalidStack)) ∧
      ∀ error, ((Authorizer.ofLimits {}).steps (told quotient)).failure? (.act (.authorize {})) ≠
        some (.evaluation (.execution error)) := by
  intro asks told quotient short
  refine ⟨by decide +kernel, fault_only_without_text.2.2 {} (told quotient) _ ?_ trivial⟩
  refine List.forall_mem_cons.2 ⟨trivial, List.forall_mem_singleton.2 ?_⟩
  change ∀ q ∈ [asks quotient], ∀ e ∈ q.expressions, Expression.Prints e
  refine List.forall_mem_singleton.2 (List.forall_mem_singleton.2 ?_)
  exact Expression.prints_iff.2 (by decide)

end Warrant
