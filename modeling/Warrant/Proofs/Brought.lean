import Warrant.Proofs.Legible
import Warrant.Proofs.Session

/-! What a call brings.
A call adds the same facts and rules to the world whatever that holds, so what it brings can be
told from the table alone. The table that it leaves can read all of them, and so can every later
one. -/

namespace Warrant.Authorizer

open Provenance Interning

variable {a : Authorizer}

/-- Whether a token is refused, and what it brings otherwise, does not depend on the world. -/
theorem addToken_world (a : Authorizer) (t : Token) :
    (∀ w : World, ∃ e, ({ a with world := w } : Authorizer).addToken t = .error e) ∨
      ∃ owners blocks symbols,
        (Loading.token t).run.run a.symbols = (.ok (owners, blocks), symbols) ∧
        ∀ w : World, ({ a with world := w } : Authorizer).addToken t =
          .ok { a with
            symbols, owners
            blocks := some (blocks.map (·.loaded))
            world := w.addBlocks blocks } := by
  by_cases loaded : a.blocks.isSome
  · exact .inl fun w => ⟨.notEmpty, if_pos loaded⟩
  · cases supported : unsupported? t with
    | some p =>
      refine .inl fun w => ?_
      simp only [addToken, loaded, supported]
      exact ⟨_, rfl⟩
    | none =>
      cases run : (Loading.token t).run.run a.symbols with
      | mk result symbols =>
        cases result with
        | error e =>
          refine .inl fun w => ⟨e, ?_⟩
          simp only [addToken, loaded, supported, run]
          rfl
        | ok out =>
          refine .inr ⟨out.1, out.2, symbols, rfl, fun w => ?_⟩
          simp only [addToken, loaded, supported, run]
          rfl

theorem after_of_valid {c : Call} (valid : c.Valid) : a.after c = a.add c := by
  unfold after
  rw [(call_eq_ok_iff valid.ne_token).2 ⟨valid, rfl⟩]

theorem call_of_invalid {c : Call} (statement : ∀ t, c ≠ .token t) (invalid : ¬ c.Valid) :
    ∃ e, a.call c = .error e := by
  cases called : a.call c with
  | error e => exact ⟨e, rfl⟩
  | ok b => exact absurd ((call_eq_ok_iff statement).1 called).1 invalid

theorem after_of_invalid {c : Call} (statement : ∀ t, c ≠ .token t) (invalid : ¬ c.Valid) :
    a.after c = a := by
  obtain ⟨e, called⟩ := call_of_invalid (a := a) statement invalid
  rw [after, called]

/-- The facts that a call states, with their origins; none if it is refused. -/
def stated (a : Authorizer) (c : Call) : Set (Origin × Fact String) :=
  {q | (a.call c).isOk ∧ q ∈ (({} : Session).add c).entries}

theorem stated_of_ok {b : Authorizer} {c : Call} (called : a.call c = .ok b) :
    a.stated c = {q | q ∈ (({} : Session).add c).entries} := by
  rw [stated, called]
  exact Set.ext fun q => and_iff_right rfl

theorem stated_of_error {c : Call} {e : AuthorizerError} (called : a.call c = .error e) :
    a.stated c = ∅ := by
  rw [stated, called]
  exact Set.eq_empty_iff_forall_notMem.2 fun q hq => nomatch hq.1

/-- What a call adds to the world, the same whatever it holds, and the table that it leaves. The
facts that come in are those that the call states. -/
structure Brings (a : Authorizer) (c : Call) (facts : List Entry) (rules : List RuleEntry) :
    Prop where
  sound : (a.after c).symbols.Sound
  grows : a.symbols.Grows (a.after c).symbols
  world : ∀ w : World, (({ a with world := w } : Authorizer).after c).world =
    rules.foldl World.addRule (facts.foldl World.addFact w)
  facts : ∀ u : Symbols, u.Sound → u.Fits → (a.after c).symbols.Grows u →
    Corresponds (Atom.Names u) {p | p ∈ facts.map Entry.pair} (a.stated c)
  rules : ∀ u : Symbols, u.Sound → u.Fits → (a.after c).symbols.Grows u →
    LegibleRules u {e | e ∈ rules}

namespace Brings

/-- A call that states no facts and leaves the table and the world alone. -/
theorem nothing {c : Call} (sound : a.symbols.Sound) (none : a.stated c = ∅)
    (symbols : (a.after c).symbols = a.symbols)
    (world : ∀ w : World, (({ a with world := w } : Authorizer).after c).world = w) :
    a.Brings c [] [] where
  sound := symbols ▸ sound
  grows := symbols ▸ .refl _
  world := world
  facts _ _ _ _ := ⟨nofun, none ▸ nofun⟩
  rules _ _ _ _ := nofun

theorem refused {c : Call} (sound : a.symbols.Sound) (called : ∀ w : World, ∃ e,
    ({ a with world := w } : Authorizer).call c = .error e) : a.Brings c [] [] := by
  have same (w : World) : ({ a with world := w } : Authorizer).after c = { a with world := w } := by
    obtain ⟨e, called⟩ := called w
    simp only [Authorizer.after, called]
  obtain ⟨e, here⟩ := called a.world
  exact nothing sound (stated_of_error here) (congrArg _ (same a.world)) fun w =>
    congrArg _ (same w)

theorem fact (sound : a.symbols.Sound) {f : Fact String} (valid : (Call.fact f).Valid) :
    a.Brings (.fact f) [⟨.singleton .authorizer, (f.intern.run a.symbols).1⟩] [] := by
  obtain ⟨sound, grows, named⟩ := ensures_internAtom f a.symbols sound
  have after (w : World) : ({ a with world := w } : Authorizer).after (.fact f) =
    ({ a with world := w } : Authorizer).add (.fact f) := after_of_valid valid
  have here : a.after (.fact f) = a.add (.fact f) := after a.world
  refine ⟨?_, ?_, fun w => ?_, fun u su fits later => ?_, fun _ _ _ _ => nofun⟩
  · rw [here]
    exact sound
  · rw [here]
    exact grows
  · rw [after]
    rfl
  · rw [here] at later
    rw [stated_of_ok ((call_eq_ok_iff valid.ne_token).2 ⟨valid, rfl⟩)]
    exact .of_forall₂ (.cons ⟨rfl, named u su fits later⟩ .nil)

theorem token (sound : a.symbols.Sound) (t : Token) :
    ∃ facts rules, a.Brings (.token t) facts rules := by
  rcases a.addToken_world t with refused | ⟨owners, blocks, symbols, run, accepted⟩
  · exact ⟨[], [], Brings.refused sound refused⟩
  · obtain ⟨sound, grows, named⟩ := Loading.ensures_token t a.symbols sound
    rw [show (Loading.token t).run a.symbols = _ from run] at sound grows named
    have after (w : World) : ({ a with world := w } : Authorizer).after (.token t) =
        { a with
          symbols, owners
          blocks := some (blocks.map (·.loaded))
          world := w.addBlocks blocks } := by
      simp only [Authorizer.after, call, accepted]
    have table : (a.after (.token t)).symbols = symbols := congrArg _ (after a.world)
    refine ⟨World.blockFacts blocks, World.blockRules blocks, ?_⟩
    refine ⟨?_, ?_, fun w => ?_, fun u su fits later => ?_, fun u su fits later => ?_⟩
    · rw [table]
      exact sound
    · rw [table]
      exact grows
    · rw [after]
      exact World.addBlocks_eq_foldl w blocks
    · rw [table] at later
      have names := samePair_blockFacts (named _ rfl u su fits later).2
      have called : a.call (.token t) = .ok _ := accepted a.world
      rw [stated_of_ok called, Session.entries]
      exact .of_forall₂ ((List.append_nil _).symm ▸ names)
    · rw [table] at later
      have names := names_blockRules (named _ rfl u su fits later).2
      intro e he
      obtain ⟨d, -, same⟩ := exists_of_forall₂ names he
      exact ⟨d.rule, same.rule⟩

/-- Rules, checks, policies and scopes are not taken in before an evaluation. -/
theorem statement (sound : a.symbols.Sound) {c : Call} (statement : ∀ t, c ≠ .token t)
    (other : ∀ f, c ≠ .fact f) : a.Brings c [] [] := by
  have kept (b : Authorizer) : (b.add c).symbols = b.symbols ∧ (b.add c).world = b.world := by
    cases c with
    | token t => exact absurd rfl (statement t)
    | fact f => exact absurd rfl (other f)
    | _ => exact ⟨rfl, rfl⟩
  have after (b : Authorizer) : (b.after c).symbols = b.symbols ∧ (b.after c).world = b.world := by
    by_cases valid : c.Valid
    · rw [after_of_valid valid]
      exact kept b
    · rw [after_of_invalid statement valid]
      exact ⟨rfl, rfl⟩
  have none : a.stated c = ∅ := by
    refine Set.eq_empty_iff_forall_notMem.2 fun q hq => ?_
    cases c with
    | token t => exact statement t rfl
    | fact f => exact other f rfl
    | _ => exact nomatch hq.2
  exact nothing sound none (after a).1 fun w => (after { a with world := w }).2

end Brings

theorem exists_brought (sound : a.symbols.Sound) (c : Call) :
    ∃ facts rules, a.Brings c facts rules := by
  cases c with
  | token t => exact Brings.token sound t
  | fact f =>
    by_cases valid : (Call.fact f).Valid
    · exact ⟨_, _, .fact sound valid⟩
    · exact ⟨[], [], .refused sound fun _ => call_of_invalid nofun valid⟩
  | _ => exact ⟨[], [], .statement sound nofun nofun⟩

end Warrant.Authorizer
