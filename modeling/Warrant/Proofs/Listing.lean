import Std.Data.String.ToNat
import Warrant.Dump
import Warrant.Proofs.Numbering
import Warrant.Proofs.Places
import Warrant.Proofs.Reliance

/-! What a dump shows.
The facts stand in groups by origin and the rules in groups by the block that declares them, and
every one of them stands in one group, once, in the order in which it came.
What has been accepted can be told from the calls alone; `Recorded` says where the authorizer keeps
it. A rule is in the world or still waits, and an evaluation moves it from the one place to the
other, however it ends. -/

namespace Warrant

open Interning Keyed

section Lists

variable {α β : Type} [DecidableEq α] [DecidableEq β]

theorem eraseDups_concat (l : List α) (a : α) :
    (l ++ [a]).eraseDups = if a ∈ l then l.eraseDups else l.eraseDups ++ [a] := by
  rw [List.eraseDups_append]
  by_cases known : a ∈ l
  · simp [List.removeAll, known]
  · simp [List.removeAll, known, List.eraseDups_cons]

theorem nodup_eraseDups (l : List α) : l.eraseDups.Nodup := by
  induction l using List.reverseRecOn with
  | nil => exact .nil
  | append_singleton l a ih =>
    rw [eraseDups_concat]
    split
    · exact ih
    · exact Symbols.Sound.nodup_concat ih (mt List.mem_eraseDups.1 ‹_›)

theorem eraseDups_map {f : α → β} (inj : Function.Injective f) (l : List α) :
    (l.map f).eraseDups = l.eraseDups.map f := by
  induction l using List.reverseRecOn with
  | nil => rfl
  | append_singleton l a ih =>
    rw [List.map_append, List.map_singleton, eraseDups_concat, eraseDups_concat, ih]
    by_cases known : a ∈ l
    · rw [if_pos known, if_pos (List.mem_map_of_mem known)]
    · rw [if_neg known, if_neg (mt (List.mem_map_of_injective inj).1 known), List.map_append,
        List.map_singleton]

end Lists

/-! Groups. -/

theorem BlockId.label_injective : Function.Injective BlockId.label := by
  have apart (i : Nat) : toString i ≠ "authorizer" := by
    intro same
    have digits : (toString i).toList = Nat.toDigits 10 i := by simp [toString, Nat.repr]
    rw [same] at digits
    have digit : 'a' ∈ Nat.toDigits 10 i := digits ▸ (by simp)
    exact absurd (Nat.isDigit_of_mem_toDigits (by decide) (by decide) digit) (by decide)
  rintro (i | _) (j | _) same
  · exact congrArg _ (Nat.repr_inj.1 same)
  · exact absurd same (apart i)
  · exact absurd same.symm (apart j)
  · rfl

namespace Group

/-- The statements of one origin. -/
def gather (statements : List (String × String)) (origin : String) : Group :=
  ⟨origin, (statements.filter (·.1 = origin)).map (·.2)⟩

@[simp] theorem gather_origin (statements : List (String × String)) (origin : String) :
    (gather statements origin).origin = origin := rfl

theorem add_of_not_mem {origin statement : String} {groups : List Group}
    (new : ∀ g ∈ groups, g.origin ≠ origin) :
    add origin statement groups = groups ++ [⟨origin, [statement]⟩] := by
  induction groups with
  | nil => rfl
  | cons g rest ih =>
    obtain ⟨here, later⟩ := List.forall_mem_cons.1 new
    rw [add, if_neg here, ih later, List.cons_append]

section Gather

variable {statements : List (String × String)} {origin statement other : String}

theorem gather_concat_self : gather (statements ++ [(origin, statement)]) origin =
    ⟨origin, (gather statements origin).statements ++ [statement]⟩ := by
  simp [gather]

theorem gather_concat_of_ne (h : other ≠ origin) :
    gather (statements ++ [(origin, statement)]) other = gather statements other := by
  simp [gather, Ne.symm h]

theorem gather_concat_of_not_mem {origins : List String} (new : origin ∉ origins) :
    origins.map (gather (statements ++ [(origin, statement)])) =
      origins.map (gather statements) :=
  List.map_congr_left fun _ known => gather_concat_of_ne (ne_of_mem_of_not_mem known new)

theorem add_of_mem {origins : List String} (nodup : origins.Nodup) (known : origin ∈ origins) :
    add origin statement (origins.map (gather statements)) =
      origins.map (gather (statements ++ [(origin, statement)])) := by
  induction origins with
  | nil => cases known
  | cons other rest ih =>
    obtain ⟨new, nodup⟩ := List.nodup_cons.1 nodup
    by_cases here : other = origin
    · subst here
      rw [List.map_cons, List.map_cons, add, gather_origin, if_pos rfl, gather_concat_self,
        gather_concat_of_not_mem new]
    · have there : origin ∈ rest := (List.mem_cons.1 known).resolve_left (Ne.symm here)
      rw [List.map_cons, List.map_cons, add, gather_origin, if_neg here, gather_concat_of_ne here,
        ih nodup there]

end Gather

/-- Every origin that comes up has one group, and every statement stands in that of its origin. -/
theorem collect_eq (statements : List (String × String)) :
    collect statements = (statements.map (·.1)).eraseDups.map (gather statements) := by
  induction statements using List.reverseRecOn with
  | nil => rfl
  | append_singleton statements s ih =>
    obtain ⟨origin, statement⟩ := s
    have step : collect (statements ++ [(origin, statement)]) =
        add origin statement (collect statements) := by
      rw [collect, List.foldl_append]
      rfl
    rw [step, ih, List.map_append, List.map_singleton, eraseDups_concat]
    by_cases known : origin ∈ statements.map (·.1)
    · rw [if_pos known]
      exact add_of_mem (nodup_eraseDups _) (List.mem_eraseDups.2 known)
    · have new : origin ∉ (statements.map (·.1)).eraseDups := mt List.mem_eraseDups.1 known
      have none : (gather statements origin).statements = [] := by
        simp only [gather, List.map_eq_nil_iff, List.filter_eq_nil_iff, decide_eq_true_eq]
        exact fun s hs same => known (List.mem_map.2 ⟨s, hs, same⟩)
      rw [if_neg known, List.map_append, List.map_singleton, gather_concat_self, none,
        gather_concat_of_not_mem new, add_of_not_mem]
      · rfl
      · intro g hg
        obtain ⟨other, hother, rfl⟩ := List.mem_map.1 hg
        exact ne_of_mem_of_not_mem hother new

/-- The same where the origins are the labels of something. -/
theorem collect_map {ι : Type} [DecidableEq ι] {label : ι → String}
    (inj : Function.Injective label) (statements : List (ι × String)) :
    collect (statements.map fun s => (label s.1, s.2)) =
      (statements.map (·.1)).eraseDups.map fun i =>
        ⟨label i, (statements.filter (·.1 = i)).map (·.2)⟩ := by
  have origins : (statements.map fun s => (label s.1, s.2)).map (·.1) =
      (statements.map (·.1)).map label := by
    rw [List.map_map, List.map_map]
    rfl
  rw [collect_eq, origins, eraseDups_map inj, List.map_map]
  refine List.map_congr_left fun i _ => ?_
  have test : ((fun s : String × String => decide (s.1 = label i)) ∘
      fun s : ι × String => (label s.1, s.2)) = fun s => decide (s.1 = i) :=
    funext fun s => decide_eq_decide.2 inj.eq_iff
  rw [Function.comp, gather, List.filter_map, List.map_map, test]
  rfl

end Group

/-! Facts by origin. -/

namespace Buckets

variable {κ : Type} [Ord κ] [Std.LawfulEqOrd κ]

theorem mem_keys_push {key k : κ} {place : Nat} {buckets : Buckets κ} :
    k ∈ (push key place buckets).map (·.1) ↔ k = key ∨ k ∈ buckets.map (·.1) := by
  induction buckets with
  | nil => simp [push]
  | cons b rest ih =>
    rw [push]
    split
    · simp
    · rename_i equal
      cases Std.LawfulEqOrd.eq_of_compare equal
      simp
    · rw [List.map_cons, List.mem_cons, ih, List.map_cons, List.mem_cons, or_left_comm]

variable [Std.TransOrd κ]

theorem keys_ofKeys (keys : List κ) : (ofKeys keys).map (·.1) = Sorted.ofList keys := by
  refine Sorted.increasing_ext ?_ (Sorted.ofList_increasing keys) fun k => ?_
  · exact List.pairwise_map.2 (ofKeys_increasing keys)
  · rw [Sorted.mem_ofList]
    induction keys using List.reverseRecOn with
    | nil => rfl
    | append_singleton keys key ih =>
      rw [ofKeys_concat, mem_keys_push, ih, List.mem_append, List.mem_singleton, or_comm]

theorem get_of_mem {buckets : Buckets κ} (h : Increasing buckets) {b : κ × Array Nat}
    (hb : b ∈ buckets) : get b.1 buckets = b.2 := by
  induction buckets with
  | nil => cases hb
  | cons c rest ih =>
    obtain ⟨least, h⟩ := List.pairwise_cons.1 h
    rw [get_cons]
    rcases List.mem_cons.1 hb with rfl | hb
    · exact if_pos Std.ReflCmp.compare_self
    · rw [if_neg, ih h hb]
      exact fun same => absurd (least b hb) (by simp [Std.OrientedCmp.eq_comm.1 same])

end Buckets

/-- The facts of an origin are its entries in order. -/
theorem FactSet.groups_eq (s : FactSet) : s.groups =
    (Sorted.ofList (s.toList.map (·.origin))).map fun o =>
      (o, (s.toList.filter (·.origin = o)).map (·.fact)) := by
  rw [groups, s.byOrigin_eq, ← toList, ← Buckets.keys_ofKeys, List.map_map]
  refine List.map_congr_left fun b hb => ?_
  have places := Buckets.get_ofKeys (s.toList.map (·.origin)) b.1
  rw [Buckets.get_of_mem (Buckets.ofKeys_increasing _) hb] at places
  have entries : (s.toList.filter (·.origin = b.1)).map (·.fact) =
      s.toList.zipIdx.filterMap fun e => if e.1.origin = b.1 then some e.1.fact else none := by
    conv => lhs; rw [← List.zipIdx_map_fst 0 s.toList]
    rw [← List.filterMap_eq_map, List.filterMap_filter, List.filterMap_map]
    simp
  refine congrArg (b.1, ·) ?_
  rw [entries, places, List.zipIdx_map, List.filterMap_map,
    List.filterMap_filterMap]
  refine List.filterMap_congr fun p h => ?_
  obtain ⟨entry, place⟩ := p
  have stored : s.get? place = some entry := by
    simpa [get?, toList] using List.mem_zipIdx_iff_getElem?.1 h
  by_cases own : entry.origin = b.1 <;> simp [own, stored]

/-! What has been taken in. -/

/-- What `x` came to in a table that has grown into `u`. -/
def Taken {α : Type} (x : StateM Symbols α) (u : Symbols) (a : α) : Prop :=
  ∃ t, (x.run t).2.Grows u ∧ (x.run t).1 = a

/-- What `q` says in `u`, and in whatever grows out of it, `r` says in `source`. -/
def Copied {α β : Type} (resolve : Symbols → α → Except TransferError β) (u source : Symbols)
    (q r : α) : Prop :=
  ∃ s, resolve source r = .ok s ∧ ∀ w, u.Grows w → resolve w q = .ok s

section Taken

variable {α β γ : Type} {u w : Symbols}

theorem Taken.grows {x : StateM Symbols α} {a : α} (h : Taken x u a) (later : u.Grows w) :
    Taken x w a :=
  have ⟨t, grows, same⟩ := h
  ⟨t, grows.trans later, same⟩

theorem Copied.grows {resolve : Symbols → α → Except TransferError β} {source : Symbols}
    {q r : α} (h : Copied resolve u source q r) (later : u.Grows w) :
    Copied resolve w source q r :=
  have ⟨s, reads, kept⟩ := h
  ⟨s, reads, fun v after => kept v (later.trans after)⟩

/-- Items that are taken in one after the other, each in the table that the ones before leave. -/
theorem forall₂_mapM_run (walk : γ → StateM Symbols α)
    (grows : ∀ c (t : Symbols), t.Grows (walk c t).2) (l : List γ) (t : Symbols) :
    t.Grows (l.mapM walk t).2 ∧
      List.Forall₂ (fun a c => ∃ s, t.Grows s ∧ (walk c s).2.Grows (l.mapM walk t).2 ∧
        (walk c s).1 = a) (l.mapM walk t).1 l := by
  induction l generalizing t with
  | nil => exact ⟨.refl t, .nil⟩
  | cons c rest ih =>
    obtain ⟨later, others⟩ := ih (walk c t).2
    have step : (c :: rest).mapM walk t = ((walk c t).1 :: (rest.mapM walk (walk c t).2).1,
        (rest.mapM walk (walk c t).2).2) := by
      rw [List.mapM_cons]
      rfl
    rw [step]
    refine ⟨(grows c t).trans later, .cons ⟨t, .refl t, later, rfl⟩ ?_⟩
    exact others.imp fun a d ⟨s, after, before, same⟩ => ⟨s, (grows c t).trans after, before, same⟩

theorem marks_of_moves {x : Transfer α} {resolve : Symbols → α → Except TransferError β}
    {number : Symbols → β → Option α} {source : Symbols} {r : α}
    (moves : Moves x (resolve source r) fun v => Matched (number v) (resolve v))
    {post : Symbols → α → Prop} (ensures : Ensures x post) :
    Marks x fun v q => Copied resolve v source q r := by
  intro t sound
  obtain ⟨grows, moved⟩ := moves t
  refine ⟨(ensures t sound).1, grows, fun q same v _ later => ?_⟩
  obtain ⟨s, reads, matched⟩ := moved q same
  exact ⟨s, reads, fun w after => (matched w (later.trans after)).resolved⟩

end Taken

/-- Rules and checks say what they say in the block. -/
structure TransferredBlock.Copies (u : Symbols) (c : TransferredBlock) (b : Block) : Prop where
  rules : List.Forall₂ (fun e r => Copied Rule.resolve u b.symbols e.2 r) c.rules b.rules
  checks : List.Forall₂ (Copied Check.resolve u b.symbols) c.loaded.checks b.checks

namespace Loading

theorem copies_block (owners : KeyOwners) (index : Nat) (b : Block) :
    Marks (block owners index b) fun u c => c.Copies u b := by
  unfold block
  refine marks_bind (marks_of_ensures (ensures_ofTransfer
    (ensures_all (ensures_transferScope b.symbols) b.scopes))) fun scopes => ?_
  refine marks_bind (marks_of_ensures (ensures_ofTransfer
    (ensures_all (ensures_transferFact b.symbols) b.facts))) fun facts => ?_
  have rule (trust : Trust) (r : Rule Nat Nat) : Marks (do
      let r ← ofTransfer (r.transfer b.symbols)
      checkRule index r
      return (Trust.ofScopes r.scopes trust (.block index) owners, r) : Loading _)
      fun u e => Copied Rule.resolve u b.symbols e.2 r :=
    marks_bind (marks_ofTransfer (marks_of_moves (moves_transferRule b.symbols r)
      (ensures_transferRule b.symbols r))) fun q =>
        marks_bind (marks_still (checkRule_still index q)) fun _ =>
          marks_pure fun _ _ _ copied => copied
  refine marks_bind (marks_mapM fun r _ => rule _ r) fun rules => ?_
  refine marks_bind (marks_ofTransfer (marks_mapM fun c _ =>
    marks_of_moves (moves_transferCheck b.symbols c) (ensures_transferCheck b.symbols c)))
    fun checks => ?_
  refine marks_bind (marks_still (checkRules_still index _)) fun _ => marks_pure ?_
  exact fun _ _ _ checks rules _ _ => ⟨rules, checks⟩

theorem copies_blocks (owners : KeyOwners) (blocks : List Block) (index : Nat) :
    Marks (Loading.blocks owners blocks index) fun u out =>
      List.Forall₂ (TransferredBlock.Copies u) out blocks := by
  induction blocks generalizing index with
  | nil => exact marks_pure fun _ _ => .nil
  | cons b rest ih =>
    refine marks_bind (copies_block owners index b) fun first => ?_
    refine marks_bind (ih (index + 1)) fun others => marks_pure ?_
    exact fun _ _ later first => .cons first later

theorem copies_token (t : Token) : Marks (Loading.token t) fun u out =>
    List.Forall₂ (TransferredBlock.Copies u) out.2 t.blocks := by
  refine marks_bind (marks_of_ensures (ensures_owners t.blocks 0 {})) fun owners => ?_
  refine marks_bind (copies_blocks owners t.blocks 0) fun blocks => marks_pure ?_
  exact fun _ _ copies _ => copies

end Loading

/-! What has been accepted. -/

/-- The blocks of the tokens among calls. -/
def tokenBlocks (told : List Call) : List Block := (told.filterMap Call.token?).flatMap Token.blocks

/-- The rules of blocks, each with the place of its block and its table. -/
def declaredRules (blocks : List Block) : List (Nat × Symbols × Rule Nat Nat) :=
  blocks.zipIdx.flatMap fun (b, i) => b.rules.map fun r => (i, b.symbols, r)

namespace Authorizer

variable {a b : Authorizer} {told : List Call}

/-- The call that a step makes, if it is not refused. -/
def accepted? (a : Authorizer) (x : Step) : Option Call := x.call?.filter fun c => (a.call c).isOk

/-- The calls that steps make and that are not refused, in order. -/
def acceptedCalls [Patterns] (a : Authorizer) : List Step → List Call
  | [] => []
  | x :: rest => (a.accepted? x).toList ++ (a.step x).acceptedCalls rest

/-- A step makes its call or, if that is refused, does nothing. -/
theorem moved_accepted [Patterns] (sound : a.symbols.Sound) (x : Step) :
    a.Moved (a.accepted? x) (a.step x) := by
  have moved := moved_step sound x
  unfold accepted?
  cases call : x.call? with
  | none =>
    rw [call] at moved
    rcases moved with moved | ⟨c, _, made, _⟩
    · exact moved
    · cases made
  | some c =>
    rw [step_of_call call]
    cases called : a.call c with
    | error e =>
      have refused : (Except.error e : Except AuthorizerError Authorizer).isOk = false := rfl
      simp only [Option.filter_some, called, refused, after]
      exact .still a.limits
    | ok b =>
      have accepted : (Except.ok b : Except AuthorizerError Authorizer).isOk = true := rfl
      simp only [Option.filter_some, called, accepted, if_true]
      rcases a.moved_after c with moved | ⟨⟨e, refused⟩, _⟩
      · exact moved
      · cases called.symm.trans refused

/-- Where the authorizer keeps what it has accepted. -/
structure Recorded (a : Authorizer) (told : List Call) : Prop where
  rules : told.filterMap Call.rule? = a.rules ++ a.pending
  checks : told.filterMap Call.check? = a.checks
  policies : told.filterMap Call.policy? = a.policies
  tokens : a.blocks = none → told.filterMap Call.token? = []
  own : List.Forall₂ (fun (e : RuleEntry) r => Taken r.intern a.symbols e.rule)
    (a.world.rules.filter (·.block = .authorizer)) a.rules
  foreign : List.Forall₂ (fun (e : RuleEntry) d =>
      e.block = .block d.1 ∧ Copied Rule.resolve a.symbols d.2.1 e.rule d.2.2)
    (a.world.rules.filter (·.block ≠ .authorizer)) (declaredRules (tokenBlocks told))
  loaded : List.Forall₂ (fun (l : LoadedBlock) b =>
      List.Forall₂ (Copied Check.resolve a.symbols b.symbols) l.checks b.checks)
    (a.blocks.getD []) (tokenBlocks told)
  owners : ∀ u : Symbols, u.Sound → a.symbols.Grows u →
    a.owners.Signs u (Token.signed ⟨tokenBlocks told⟩)

namespace Recorded

theorem initial (limits : RunLimits) : (ofLimits limits).Recorded [] :=
  ⟨rfl, rfl, rfl, fun _ => rfl, .nil, .nil, .nil, fun _ _ _ _ _ _ => rfl⟩

/-- Where no rule and no block has come into the world, the table may have grown and statements may
have been added. -/
theorem of_same (h : a.Recorded told) {more : List Call} (grows : a.symbols.Grows b.symbols)
    (world : b.world.rules = a.world.rules) (kept : b.rules = a.rules)
    (blocks : b.blocks = a.blocks) (owners : b.owners = a.owners)
    (tokens : more.filterMap Call.token? = [])
    (pending : a.pending ++ more.filterMap Call.rule? = b.pending)
    (checks : a.checks ++ more.filterMap Call.check? = b.checks)
    (policies : a.policies ++ more.filterMap Call.policy? = b.policies) :
    b.Recorded (told ++ more) := by
  have same : (told ++ more).filterMap Call.token? = told.filterMap Call.token? := by
    rw [List.filterMap_append, tokens, List.append_nil]
  refine ⟨?_, ?_, ?_, ?_, ?_, ?_, ?_, fun u sound later => ?_⟩
  · rw [List.filterMap_append, h.rules, List.append_assoc, pending, kept]
  · rw [List.filterMap_append, h.checks, checks]
  · rw [List.filterMap_append, h.policies, policies]
  · rw [blocks, same]
    exact h.tokens
  · rw [world, kept]
    exact h.own.imp fun _ _ taken => taken.grows grows
  · rw [world, tokenBlocks, same]
    exact h.foreign.imp fun _ _ both => ⟨both.1, both.2.grows grows⟩
  · rw [blocks, tokenBlocks, same]
    exact h.loaded.imp fun _ _ checks => checks.imp fun _ _ copied => copied.grows grows
  · rw [owners, tokenBlocks, same]
    exact h.owners u sound (grows.trans later)

theorem add (h : a.Recorded told) {c : Call} (valid : c.Valid) :
    (a.add c).Recorded (told ++ [c]) := by
  cases c with
  | token t => exact valid.elim
  | fact f =>
    exact h.of_same ((enters_atom f).grows a.symbols) rfl rfl rfl rfl rfl (List.append_nil _)
      (List.append_nil _) (List.append_nil _)
  | rule r =>
    exact h.of_same (.refl _) rfl rfl rfl rfl rfl rfl (List.append_nil _) (List.append_nil _)
  | check c =>
    exact h.of_same (.refl _) rfl rfl rfl rfl rfl (List.append_nil _) rfl (List.append_nil _)
  | policy p =>
    exact h.of_same (.refl _) rfl rfl rfl rfl rfl (List.append_nil _) (List.append_nil _) rfl
  | scope s =>
    exact h.of_same (.refl _) rfl rfl rfl rfl rfl (List.append_nil _) (List.append_nil _)
      (List.append_nil _)

theorem token (h : a.Recorded told) (sound : a.symbols.Sound) {t : Token} {owners : KeyOwners}
    {blocks : List TransferredBlock} {symbols : Symbols} (free : a.blocks = none)
    (run : (Loading.token t).run.run a.symbols = (.ok (owners, blocks), symbols)) :
    ({ a with
      symbols, owners
      blocks := some (blocks.map (·.loaded))
      world := a.world.addBlocks blocks } : Authorizer).Recorded (told ++ [.token t]) := by
  obtain ⟨-, -, signed⟩ := Loading.marks_token t a.symbols sound
  obtain ⟨sound, grows, copies⟩ := Loading.copies_token t a.symbols sound
  rw [show (Loading.token t).run a.symbols = _ from run] at sound grows copies signed
  have copied := copies _ rfl symbols sound (.refl _)
  have none : tokenBlocks told = [] := by rw [tokenBlocks, h.tokens free, List.flatMap_nil]
  have all : tokenBlocks (told ++ [.token t]) = t.blocks := by
    rw [tokenBlocks, List.filterMap_append, h.tokens free]
    exact List.append_nil _
  have nothing : a.world.rules.filter (·.block ≠ .authorizer) = [] := by
    have foreign := h.foreign
    rw [none] at foreign
    exact List.forall₂_nil_right_iff.1 foreign
  refine ⟨?_, ?_, ?_, nofun, ?_, ?_, ?_, fun u su later => ?_⟩
  · rw [List.filterMap_append, h.rules]
    exact List.append_nil _
  · rw [List.filterMap_append, h.checks]
    exact List.append_nil _
  · rw [List.filterMap_append, h.policies]
    exact List.append_nil _
  · change List.Forall₂ _ ((a.world.addBlocks blocks).rules.filter _) a.rules
    rw [World.filter_own_addBlocks]
    exact h.own.imp fun _ _ taken => taken.grows grows
  · change List.Forall₂ _ ((a.world.addBlocks blocks).rules.filter _) _
    rw [World.filter_foreign_addBlocks, nothing, all]
    have placed : List.Forall₂ (fun c p => c.Copies symbols p.1) blocks t.blocks.zipIdx := by
      rwa [← List.forall₂_map_right_iff (f := Prod.fst), List.zipIdx_map_fst]
    refine forall₂_flatMap_zipIdx placed fun c b i copies => ?_
    rw [List.forall₂_map_left_iff, List.forall₂_map_right_iff]
    exact copies.rules.imp fun _ _ copied => ⟨rfl, copied⟩
  · rw [all]
    exact List.forall₂_map_left_iff.2 (copied.imp fun _ _ copies => copies.checks)
  · rw [all]
    exact (signed _ rfl u su later).1

variable [Patterns]

/-- An evaluation moves the rules that waited into the world. -/
theorem evaluated (h : a.Recorded told) (limits : RunLimits) {symbols : Symbols}
    (grows : a.ready.symbols.Grows symbols) :
    ({ (a.saturate limits).2 with symbols } : Authorizer).Recorded told := by
  have scopes : a.symbols.Grows a.defaultTrust.2.symbols :=
    (enters_mapM enters_scope a.scopes).grows a.symbols
  obtain ⟨more, taken⟩ := forall₂_mapM_run _ (fun r t => (enters_rule r).grows t) a.pending
    a.defaultTrust.2.symbols
  have later : a.symbols.Grows symbols := by
    rw [ready_symbols] at grows
    exact (scopes.trans more).trans grows
  have kept : a.ready.rules = a.rules ++ a.pending := by rw [ready_eq]
  have none : a.ready.pending = [] := by rw [ready_eq]
  rw [saturate_state]
  refine ⟨?_, ?_, ?_, ?_, ?_, ?_, ?_, fun u sound after => ?_⟩
  · change _ = a.ready.rules ++ a.ready.pending
    rw [kept, none, List.append_nil]
    exact h.rules
  · exact h.checks.trans a.ready_checks.symm
  · exact h.policies.trans a.ready_policies.symm
  · exact fun free => h.tokens (a.ready_blocks.symm.trans free)
  · change List.Forall₂ _ ((a.saturate limits).2.world.rules.filter _) a.ready.rules
    rw [saturate_rules, begun_own, kept, List.forall₂_map_left_iff]
    refine List.rel_append (h.own.imp fun _ _ taken => taken.grows later) ?_
    rw [ready_symbols] at grows
    refine List.forall₂_map_left_iff.2 (taken.imp fun q r both => ?_)
    obtain ⟨t, -, before, same⟩ := both
    exact ⟨t, before.trans grows, same⟩
  · change List.Forall₂ _ ((a.saturate limits).2.world.rules.filter _) _
    rw [saturate_rules, begun_foreign]
    exact h.foreign.imp fun _ _ both => ⟨both.1, both.2.grows later⟩
  · change List.Forall₂ _ (a.ready.blocks.getD []) _
    rw [ready_blocks]
    exact h.loaded.imp fun _ _ checks => checks.imp fun _ _ copied => copied.grows later
  · change a.ready.owners.Signs u _
    rw [ready_owners]
    exact h.owners u sound (later.trans after)

theorem moved (h : a.Recorded told) (sound : a.symbols.Sound) {c : Option Call}
    (moved : a.Moved c b) : b.Recorded (told ++ c.toList) := by
  cases moved with
  | still limits =>
    exact h.of_same (.refl _) rfl rfl rfl rfl rfl (List.append_nil _) (List.append_nil _)
      (List.append_nil _)
  | statement valid => exact h.add valid
  | token free run => exact h.token sound free run
  | evaluated limits _ grows =>
    rw [Option.toList_none, List.append_nil]
    exact h.evaluated limits grows

theorem steps (h : a.Recorded told) (sound : a.symbols.Sound) (xs : List Step) :
    (a.steps xs).Recorded (told ++ a.acceptedCalls xs) := by
  induction xs generalizing a told with
  | nil => exact (List.append_nil told).symm ▸ h
  | cons x rest ih =>
    have here := h.moved sound (moved_accepted sound x)
    rw [acceptedCalls, ← List.append_assoc]
    exact ih here (step_table sound x).1

end Recorded

/-! The dump. -/

/-- Those who declare the rules that are there or wait, in the order in which they first do. -/
def declarers (a : Authorizer) : List BlockId :=
  (a.world.rules.map RuleEntry.block ++ a.pending.map fun _ => BlockId.authorizer).eraseDups

theorem dump_facts (a : Authorizer) : a.dump.facts =
    (Sorted.ofList (a.world.facts.toList.map (·.origin))).map fun o =>
      ⟨o.label, (a.world.facts.toList.filter (·.origin = o)).map
        fun e => a.symbols.renderAtom e.fact⟩ := by
  change a.world.facts.groups.map _ = _
  rw [FactSet.groups_eq, List.map_map]
  simp only [Function.comp_def, List.map_map]

theorem dump_rules (a : Authorizer) : a.dump.rules = a.declarers.map fun b =>
    ⟨b.label, (a.world.rules.filter (·.block = b)).map (fun e => a.symbols.renderRule e.rule) ++
      if b = .authorizer then a.pending.map Rule.display else []⟩ := by
  let statements : List (BlockId × String) :=
    a.world.rules.map (fun e => (e.block, a.symbols.renderRule e.rule)) ++
      a.pending.map fun r => (.authorizer, r.display)
  have labelled : a.dump.rules = Group.collect (statements.map fun s => (s.1.label, s.2)) := by
    simp only [dump, statements, List.map_append, List.map_map, Function.comp_def]
  have declared : statements.map (·.1) =
      a.world.rules.map RuleEntry.block ++ a.pending.map fun _ => BlockId.authorizer := by
    simp only [statements, List.map_append, List.map_map, Function.comp_def]
  rw [labelled, Group.collect_map BlockId.label_injective, declared]
  refine List.map_congr_left fun b _ => congrArg (Group.mk b.label) ?_
  have waiting : (a.pending.map fun r => (BlockId.authorizer, r.display)).filter (·.1 = b) =
      if b = .authorizer then a.pending.map fun r => (BlockId.authorizer, r.display) else [] := by
    split
    · simp [*]
    · simp [Ne.symm ‹_›]
  rw [List.filter_append, List.map_append, waiting, List.filter_map, List.map_map]
  split
  · rw [List.map_map]
    rfl
  · rfl

/-- What the dump shows of the checks of the authorizer: each is taken into a table of its own that
has grown out of that of the session. -/
theorem dump_checks (a : Authorizer) : ∃ own, a.dump.checks =
    ((a.blocks.getD []).zipIdx.map fun (b, i) =>
      ⟨(BlockId.block i).label, b.checks.map a.symbols.renderCheck⟩) ++
        [⟨BlockId.authorizer.label, own⟩] ∧
    List.Forall₂ (fun line (c : Check String PublicKey) => ∃ t, a.symbols.Grows t ∧
      line = (c.intern.run t).2.renderCheck (c.intern.run t).1) own a.checks := by
  refine ⟨_, rfl, ?_⟩
  let line (c : Check String PublicKey) : StateM Symbols String := do
    let c ← c.intern
    return (← get).renderCheck c
  obtain ⟨-, lines⟩ :=
    forall₂_mapM_run line (fun c t => (enters_check c).grows t) a.checks a.symbols
  exact lines.imp fun line c ⟨t, later, _, same⟩ => ⟨t, later, same.symm⟩

/-- A dump loses and repeats nothing, after any steps. Every stored entry is shown once, among those
of its origin and in the order in which they came, and the origins stand in increasing order. Every
rule is shown once, among those of the block or authorizer that declares it, in the order in which
they came into the world; behind those of the authorizer stand the ones that wait. The rules of the
authorizer that are in the world are the accepted ones that do not wait, and those of blocks are
what the blocks of the accepted token declare, whatever has been evaluated and however that ended.
Every block has its group of checks, and then comes that of the authorizer with the accepted checks,
and last the accepted policies. -/
theorem dump_complete [Patterns] (limits : RunLimits) (xs : List Step) :
    let a := (ofLimits limits).steps xs
    let told := (ofLimits limits).acceptedCalls xs
    (a.world.facts.toList.Nodup ∧
      a.dump.facts = (Sorted.ofList (a.world.facts.toList.map (·.origin))).map fun o =>
        ⟨o.label, (a.world.facts.toList.filter (·.origin = o)).map
          fun e => a.symbols.renderAtom e.fact⟩) ∧
    (a.dump.rules = (a.world.rules.map RuleEntry.block ++
        a.pending.map fun _ => BlockId.authorizer).eraseDups.map fun b =>
      ⟨b.label, (a.world.rules.filter (·.block = b)).map (fun e => a.symbols.renderRule e.rule) ++
        if b = .authorizer then a.pending.map Rule.display else []⟩) ∧
    (∃ loaded, told.filterMap Call.rule? = loaded ++ a.pending ∧
      List.Forall₂ (fun (e : RuleEntry) r => Taken r.intern a.symbols e.rule)
        (a.world.rules.filter (·.block = .authorizer)) loaded) ∧
    List.Forall₂ (fun (e : RuleEntry) d =>
        e.block = .block d.1 ∧ Copied Rule.resolve a.symbols d.2.1 e.rule d.2.2)
      (a.world.rules.filter (·.block ≠ .authorizer)) (declaredRules (tokenBlocks told)) ∧
    (∃ groups own, a.dump.checks = groups ++ [⟨BlockId.authorizer.label, own⟩] ∧
      List.Forall₂ (fun (g : Group) p => g.origin = (BlockId.block p.2).label ∧
          List.Forall₂ (fun line c => ∃ d, Copied Check.resolve a.symbols p.1.symbols d c ∧
            line = a.symbols.renderCheck d) g.statements p.1.checks)
        groups (tokenBlocks told).zipIdx ∧
      List.Forall₂ (fun line (c : Check String PublicKey) => ∃ t, a.symbols.Grows t ∧
        line = (c.intern.run t).2.renderCheck (c.intern.run t).1)
        own (told.filterMap Call.check?)) ∧
    a.dump.policies = (told.filterMap Call.policy?).map Policy.display := by
  intro a told
  have h : a.Recorded told := (Recorded.initial limits).steps Symbols.sound_empty xs
  refine ⟨⟨a.world.facts.nodup, a.dump_facts⟩, a.dump_rules, ⟨a.rules, h.rules, h.own⟩, h.foreign,
    ?_, ?_⟩
  · obtain ⟨own, checks, lines⟩ := a.dump_checks
    refine ⟨_, own, checks, ?_, h.checks ▸ lines⟩
    rw [List.forall₂_map_left_iff]
    refine (forall₂_zipIdx h.loaded 0).imp fun p q both => ?_
    obtain ⟨copied, place⟩ := both
    refine ⟨congrArg (fun i => (BlockId.block i).label) place, ?_⟩
    exact List.forall₂_map_left_iff.2 (copied.imp fun d c same => ⟨d, same, rfl⟩)
  · rw [h.policies]
    rfl

end Authorizer

end Warrant
