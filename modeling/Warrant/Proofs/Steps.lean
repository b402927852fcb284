import Warrant.Proofs.Evaluations

/-! Everything that can be done with an authorizer, in any order.
Apart from calls and evaluations there are a few shorthands: the policies that always match, the
time as a fact, and limits for evaluations that bring none of their own. `Moved` says once what a
step can do to the state, so that whatever holds of every reachable state needs to be shown for its
four cases only. -/

namespace Warrant

open Interning

/-- What can be done with an authorizer. -/
inductive Step where
  | act (x : Action)
  /-- A policy that always matches. -/
  | decide (kind : PolicyKind)
  /-- The time, stated as a fact. -/
  | clock (now : UInt64)
  /-- Limits for evaluations to come. -/
  | limit (limits : RunLimits)

/-- The call that a step makes, if it makes one. -/
def Step.call? : Step → Option Call
  | .act (.call c) => some c
  | .act (.authorize _) => none
  | .act (.query ..) => none
  | .decide kind => some (.policy (.ofBody kind []))
  | .clock now => some (.fact ⟨"time", [.date now]⟩)
  | .limit _ => none

namespace Authorizer

variable {a b : Authorizer}

/-- The authorizer after a step, whatever comes of it. -/
def step [Patterns] (a : Authorizer) : Step → Authorizer
  | .act x => a.act x
  | .decide kind => a.addDecision kind
  | .clock now => a.setTime now
  | .limit limits => a.setLimits limits

def steps [Patterns] (a : Authorizer) (xs : List Step) : Authorizer := xs.foldl step a

theorem addDecision_eq (a : Authorizer) (kind : PolicyKind) :
    a.addDecision kind = a.after (.policy (.ofBody kind [])) := rfl

theorem setTime_eq (a : Authorizer) (now : UInt64) :
    a.setTime now = a.after (.fact ⟨"time", [.date now]⟩) := rfl

theorem step_of_call [Patterns] {x : Step} {c : Call} (h : x.call? = some c) :
    a.step x = a.after c := by
  cases x with
  | act y =>
    cases y with
    | call d =>
      cases h
      rfl
    | authorize => cases h
    | query => cases h
  | decide kind =>
    cases h
    exact a.addDecision_eq kind
  | clock now =>
    cases h
    exact a.setTime_eq now
  | limit => cases h

/-- What a step can do: nothing but set limits, take in a statement or a token, or evaluate. -/
inductive Moved [Patterns] (a : Authorizer) : Option Call → Authorizer → Prop where
  | still (limits : RunLimits) : Moved a none { a with limits }
  | statement {c : Call} (valid : c.Valid) : Moved a (some c) (a.add c)
  | token {t : Token} {owners : KeyOwners} {blocks : List TransferredBlock} {symbols : Symbols}
    (free : a.blocks = none)
    (run : (Loading.token t).run.run a.symbols = (.ok (owners, blocks), symbols)) :
    Moved a (some (.token t))
      { a with
        symbols, owners
        blocks := some (blocks.map (·.loaded))
        world := a.world.addBlocks blocks }
  | evaluated (limits : RunLimits) {symbols : Symbols} (sound : symbols.Sound)
    (grows : a.ready.symbols.Grows symbols) :
    Moved a none { (a.saturate limits).2 with symbols }

/-- A call is accepted, or changes nothing. -/
theorem moved_after [Patterns] (a : Authorizer) (c : Call) :
    a.Moved (some c) (a.after c) ∨ (∃ e, a.call c = .error e) ∧ a.after c = a := by
  unfold after
  cases called : a.call c with
  | error e => exact .inr ⟨⟨e, rfl⟩, rfl⟩
  | ok b =>
    left
    by_cases token : ∃ t, c = .token t
    · obtain ⟨t, rfl⟩ := token
      obtain ⟨free, -, owners, blocks, symbols, run, rfl⟩ := addToken_eq_ok called
      exact .token free run
    · obtain ⟨valid, rfl⟩ := (call_eq_ok_iff fun t same => token ⟨t, same⟩).1 called
      exact .statement valid

theorem ready_grows (sound : a.symbols.Sound) :
    a.ready.symbols.Sound ∧ a.symbols.Grows a.ready.symbols :=
  ⟨(ready_table sound).1, (ready_table sound).2.1⟩

variable [Patterns]

/-- Once the world has run, an evaluation changes the table at most. -/
theorem moved_evaluate {α : Type} (sound : a.symbols.Sound) (limits : RunLimits)
    {ask : Authorizer → Except AuthorizerError α × Authorizer}
    (still : ∀ b, (ask b).2 = { b with symbols := (ask b).2.symbols })
    (table : ∀ b, b.symbols.Sound →
      (ask b).2.symbols.Sound ∧ b.symbols.Grows (ask b).2.symbols) :
    a.Moved none (a.evaluate limits ask).2 := by
  obtain ⟨sound, -⟩ := ready_grows sound
  have symbols := saturate_symbols a limits
  have moved (u : Symbols) (later : u.Sound) (grows : a.ready.symbols.Grows u) :
      a.Moved none { (a.saturate limits).2 with symbols := u } := .evaluated limits later grows
  unfold evaluate
  generalize a.saturate limits = ended at symbols moved ⊢
  obtain ⟨result, b⟩ := ended
  cases result with
  | error e => exact moved b.symbols (symbols ▸ sound) (symbols ▸ .refl _)
  | ok =>
    obtain ⟨later, grows⟩ := table b (symbols ▸ sound)
    rw [symbols] at grows
    exact still b ▸ moved _ later grows

theorem moved_authorize (sound : a.symbols.Sound) (limits : RunLimits) :
    a.Moved none (a.authorize limits).2 := by
  rw [authorize_eq_evaluate]
  exact moved_evaluate sound limits (fun _ => rfl) (concluded_table limits)

theorem moved_query (sound : a.symbols.Sound) (r : Rule String PublicKey) (limits : RunLimits) :
    a.Moved none (a.query r limits).2 := by
  by_cases valid : r.validate = .ok ()
  · rw [query_eq_evaluate a valid]
    exact moved_evaluate sound limits (fun _ => rfl) (answered_table r limits)
  · rw [query_of_invalid valid]
    exact .still a.limits

/-- Every step makes its call, unless that is refused, or sets limits or evaluates. -/
theorem moved_step (sound : a.symbols.Sound) (x : Step) :
    a.Moved x.call? (a.step x) ∨
      ∃ c e, x.call? = some c ∧ a.call c = .error e ∧ a.step x = a := by
  cases call : x.call? with
  | some c =>
    rw [step_of_call call]
    rcases a.moved_after c with moved | ⟨⟨e, refused⟩, same⟩
    · exact .inl moved
    · exact .inr ⟨c, e, rfl, refused, same⟩
  | none =>
    left
    cases x with
    | act y =>
      cases y with
      | call c => cases call
      | authorize limits => exact moved_authorize sound limits
      | query r limits => exact moved_query sound r limits
    | decide kind => cases call
    | clock now => cases call
    | limit limits => exact .still limits

namespace Moved

variable {c : Option Call}

/-- The table stays sound and only grows. -/
theorem table (h : a.Moved c b) (sound : a.symbols.Sound) :
    b.symbols.Sound ∧ a.symbols.Grows b.symbols := by
  cases h with
  | still limits => exact ⟨sound, .refl _⟩
  | statement valid =>
    obtain ⟨facts, rules, brings⟩ := exists_brought sound _
    rw [← after_of_valid valid]
    exact ⟨brings.sound, brings.grows⟩
  | @token t owners blocks symbols _ run =>
    obtain ⟨sound, grows, -⟩ := Loading.ensures_token t a.symbols sound
    rw [show (Loading.token t).run a.symbols = _ from run] at sound grows
    exact ⟨sound, grows⟩
  | evaluated limits later grows => exact ⟨later, (ready_grows sound).2.trans grows⟩

end Moved

theorem step_table (sound : a.symbols.Sound) (x : Step) :
    (a.step x).symbols.Sound ∧ a.symbols.Grows (a.step x).symbols := by
  rcases moved_step sound x with moved | ⟨c, e, -, -, same⟩
  · exact moved.table sound
  · rw [same]
    exact ⟨sound, .refl _⟩

theorem steps_table (sound : a.symbols.Sound) (xs : List Step) :
    (a.steps xs).symbols.Sound ∧ a.symbols.Grows (a.steps xs).symbols := by
  induction xs generalizing a with
  | nil => exact ⟨sound, .refl _⟩
  | cons x rest ih =>
    obtain ⟨sound, grows⟩ := step_table sound x
    obtain ⟨sound', grows'⟩ := ih sound
    exact ⟨sound', grows.trans grows'⟩

end Authorizer

end Warrant
