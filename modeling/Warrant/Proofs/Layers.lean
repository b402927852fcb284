import Warrant.Proofs.Numbering

/-! Strings and ids determine each other in a table and in the layer on top of it.
What is taken into the layer could as well be taken into the table (`Scratch.insertAll_flat`), so
one run over one table tells about both: it keeps the table sound and only appends to it, hence what
has been given an id keeps it. The layer leaves the table alone, and its own ids come after those of
the table. -/

namespace Warrant

namespace Symbols

/-- What is taken into a table. -/
inductive Insertion where
  | string (text : String)
  | key (key : PublicKey)
  deriving DecidableEq

/-- Takes strings and keys in, one after the other, and gives the strings with their ids. -/
def insertAll : List Insertion → StateM Symbols (List (String × Nat))
  | [] => pure []
  | .string s :: rest => return (s, ← intern s) :: (← insertAll rest)
  | .key k :: rest => do
    discard (internKey k)
    insertAll rest

variable {t : Symbols} {s : String} {i : Nat}

theorem insertAll_string (s : String) (rest : List Insertion) (t : Symbols) :
    insertAll (.string s :: rest) t =
      ((s, (intern s t).1) :: (insertAll rest (intern s t).2).1,
        (insertAll rest (intern s t).2).2) := rfl

theorem insertAll_key (k : PublicKey) (rest : List Insertion) (t : Symbols) :
    insertAll (.key k :: rest) t = insertAll rest (internKey k t).2 := rfl

theorem sound_insertAll (history : List Insertion) (sound : t.Sound) :
    (insertAll history t).2.Sound := by
  induction history generalizing t with
  | nil => exact sound
  | cons step rest ih =>
    cases step with
    | string s => exact ih (sound.intern s).1
    | key k => exact ih (sound.internKey k).1

theorem grows_insertAll (history : List Insertion) (t : Symbols) :
    t.Grows (insertAll history t).2 := by
  induction history generalizing t with
  | nil => exact .refl t
  | cons step rest ih =>
    cases step with
    | string s => exact (intern_id? s t).1.trans (ih _)
    | key k => exact (internKey_idxOf? k t).1.trans (ih _)

/-- Each string is found under the id that it was given. -/
theorem id?_insertAll (history : List Insertion) (t : Symbols) :
    ∀ p ∈ (insertAll history t).1, (insertAll history t).2.id? p.1 = some p.2 := by
  induction history generalizing t with
  | nil => nofun
  | cons step rest ih =>
    cases step with
    | string s =>
      rw [insertAll_string]
      intro p hp
      rcases List.mem_cons.1 hp with rfl | hp
      · exact (grows_insertAll rest _).id? (intern_id? s t).2
      · exact ih _ p hp
    | key k => exact ih _

/-- A string is found if every table knows it or this one holds it. -/
theorem isSome_id?_iff : (t.id? s).isSome ↔ s ∈ builtins ∨ s ∈ t.strings := by
  rw [id?, Option.orElse_eq_orElse, Option.orElse_eq_or, Option.isSome_or, Bool.or_eq_true,
    Option.isSome_map, List.isSome_idxOf?, List.isSome_idxOf?]

theorem isSome_id?_intern (r : String) :
    ((intern r t).2.id? s).isSome ↔ (t.id? s).isSome ∨ s = r := by
  unfold intern
  cases known : t.id? r with
  | some i =>
    refine ⟨.inl, ?_⟩
    rintro (found | rfl)
    · exact found
    · exact Option.isSome_of_mem known
  | none => simp only [isSome_id?_iff, List.mem_append, List.mem_singleton, or_assoc]

theorem isSome_id?_internKey (k : PublicKey) :
    ((internKey k t).2.id? s).isSome ↔ (t.id? s).isSome := by
  unfold internKey
  cases t.keys.idxOf? k with
  | some i => exact .rfl
  | none => exact .rfl

/-- Exactly what was known before and what has been taken in is found. -/
theorem isSome_id?_insertAll (history : List Insertion) (t : Symbols) :
    ((insertAll history t).2.id? s).isSome ↔ (t.id? s).isSome ∨ .string s ∈ history := by
  induction history generalizing t with
  | nil => exact (or_iff_left List.not_mem_nil).symm
  | cons step rest ih =>
    cases step with
    | string r =>
      rw [insertAll_string, ih, isSome_id?_intern, List.mem_cons, Insertion.string.injEq, or_assoc]
    | key k => simp [insertAll_key, ih, isSome_id?_internKey]

/-- Ids stand for the built-in names and for the strings of the table, those without a gap. -/
theorem isSome_text?_iff : (t.text? i).isSome ↔
    i < builtins.length ∨ firstLocal ≤ i ∧ i < firstLocal + t.strings.length := by
  have below := length_builtins_lt
  unfold text?
  split
  all_goals
    rw [Option.isSome_iff_ne_none, ne_eq, List.getElem?_eq_none_iff]
    omega

end Symbols

namespace Scratch

open Symbols (Insertion builtins firstLocal)

/-- Takes strings into a layer, one after the other, and gives them with their ids. -/
def insertAll : List String → StateM Scratch (List (String × Nat))
  | [] => pure []
  | s :: rest => return (s, ← intern s) :: (← insertAll rest)

variable {s : Scratch} {text : String} {i : Nat}

theorem insertAll_cons (text : String) (rest : List String) (s : Scratch) :
    insertAll (text :: rest) s =
      ((text, (s.intern text).1) :: (insertAll rest (s.intern text).2).1,
        (insertAll rest (s.intern text).2).2) := rfl

/-- Strings taken into the layer are taken into the one table. -/
theorem insertAll_flat (texts : List String) (s : Scratch) :
    Symbols.insertAll (texts.map .string) s.flat =
      ((insertAll texts s).1, (insertAll texts s).2.flat) := by
  induction texts generalizing s with
  | nil => rfl
  | cons text rest ih =>
    rw [List.map_cons, Symbols.insertAll_string, intern_flat, ih, insertAll_cons]

theorem base_intern (s : Scratch) (text : String) : (s.intern text).2.base = s.base := by
  unfold intern
  cases s.base.id? text with
  | some i => rfl
  | none => cases s.strings.idxOf? text <;> rfl

theorem base_insertAll (texts : List String) (s : Scratch) :
    (insertAll texts s).2.base = s.base := by
  induction texts generalizing s with
  | nil => rfl
  | cons text rest ih => exact (ih _).trans (base_intern s text)

theorem flat_inj {u : Scratch} (base : s.base = u.base) (flat : s.flat = u.flat) : s = u := by
  obtain ⟨b, l⟩ := s
  obtain ⟨c, r⟩ := u
  cases base
  have strings : b.strings ++ l = b.strings ++ r := congrArg Symbols.strings flat
  rw [List.append_cancel_left strings]

/-- A string that has an id is not taken in again. -/
theorem intern_known (known : s.flat.id? text = some i) : s.intern text = (i, s) := by
  have same := (intern_flat s text).symm.trans (Symbols.intern_known known)
  obtain ⟨id, flat⟩ := Prod.mk.inj same
  exact Prod.ext id (flat_inj (base_intern s text) flat)

theorem length_strings_flat (s : Scratch) :
    firstLocal + s.flat.strings.length = s.offset + s.strings.length := by
  rw [flat, List.length_append, offset, Nat.add_assoc]

end Scratch

section Reached

open Symbols (Insertion builtins firstLocal)

variable {history : List Insertion} {texts : List String} {given made : List (String × Nat)}
  {base : Symbols} {layer : Scratch}

theorem Symbols.sound_reached (taken : insertAll history .empty = (given, base)) : base.Sound := by
  have sound := sound_insertAll history sound_empty
  rwa [taken] at sound

theorem Symbols.id?_reached (taken : insertAll history .empty = (given, base)) :
    ∀ p ∈ given, base.id? p.1 = some p.2 := by
  have known := id?_insertAll history .empty
  rwa [taken] at known

namespace Scratch

theorem base_reached (above : insertAll texts { base } = (made, layer)) : layer.base = base := by
  have kept := base_insertAll texts { base }
  rwa [above] at kept

/-- The table and the layer are what insertions into the table alone come to. -/
theorem flat_reached (above : insertAll texts { base } = (made, layer)) :
    Symbols.insertAll (texts.map .string) base = (made, layer.flat) := by
  have run := insertAll_flat texts { base }
  rw [above] at run
  simpa [flat] using run

theorem grows_reached (above : insertAll texts { base } = (made, layer)) :
    base.Grows layer.flat := by
  have grows := Symbols.grows_insertAll (texts.map .string) base
  rwa [flat_reached above] at grows

theorem sound_reached (taken : Symbols.insertAll history .empty = (given, base))
    (above : insertAll texts { base } = (made, layer)) : layer.flat.Sound := by
  have sound := Symbols.sound_insertAll (texts.map .string) (Symbols.sound_reached taken)
  rwa [flat_reached above] at sound

/-- Every string that has been given an id has it in the two layers together. -/
theorem id?_reached (taken : Symbols.insertAll history .empty = (given, base))
    (above : insertAll texts { base } = (made, layer)) :
    ∀ p ∈ given ++ made, layer.flat.id? p.1 = some p.2 := by
  have second := Symbols.id?_insertAll (texts.map .string) base
  rw [flat_reached above] at second
  intro p hp
  rcases List.mem_append.1 hp with hp | hp
  · exact (grows_reached above).id? (Symbols.id?_reached taken p hp)
  · exact second p hp

theorem isSome_id?_reached (taken : Symbols.insertAll history .empty = (given, base))
    (text : String) : (base.id? text).isSome ↔ text ∈ builtins ∨ .string text ∈ history := by
  have known := Symbols.isSome_id?_insertAll (s := text) history .empty
  rw [taken, Symbols.isSome_id?_iff (t := .empty)] at known
  simpa [Symbols.empty] using known

theorem isSome_id?_flat_reached (taken : Symbols.insertAll history .empty = (given, base))
    (above : insertAll texts { base } = (made, layer)) (text : String) :
    (layer.flat.id? text).isSome ↔ text ∈ builtins ∨ .string text ∈ history ∨ text ∈ texts := by
  have known := Symbols.isSome_id?_insertAll (s := text) (texts.map .string) base
  rw [flat_reached above, isSome_id?_reached taken] at known
  simpa [or_assoc] using known

/-- A string that the layer gives an id of its own has none in the table, where the id stands for
nothing. -/
theorem apart_of_reached (taken : Symbols.insertAll history .empty = (given, base))
    (above : insertAll texts { base } = (made, layer)) {p : String × Nat} (hp : p ∈ made) :
    base.id? p.1 = some p.2 ∨ base.id? p.1 = none ∧ base.text? p.2 = none := by
  have known := id?_reached taken above p (List.mem_append_right _ hp)
  have grows := grows_reached above
  cases low : base.id? p.1 with
  | some i => exact .inl ((grows.id? low).symm.trans known)
  | none =>
    refine .inr ⟨rfl, Option.eq_none_iff_forall_ne_some.2 fun s text => ?_⟩
    have same := (grows.text? text).symm.trans (Symbols.text?_of_id? known)
    cases same
    cases low.symm.trans ((Symbols.sound_reached taken).id?_eq_some_iff.2 text)

/-- What the two layers together read is read at any later time. -/
theorem text?_later (later : List String) (known : layer.flat.id? text = some i) :
    (insertAll later layer).2.text? i = some text := by
  have grows := Symbols.grows_insertAll (later.map .string) layer.flat
  rw [insertAll_flat] at grows
  rw [← text?_flat]
  exact grows.text? (Symbols.text?_of_id? known)

/-- Strings and ids determine each other in a table and in a layer over it, for good. What has been
given an id has it alone and is read from it at any later time. A table finds what it has taken in,
and its ids and those of the layer have no gap and nothing in common. What is known is not taken in
again, and the table does not change when the layer does. -/
theorem ids_of_insertions (taken : Symbols.insertAll history .empty = (given, base))
    (above : insertAll texts { base } = (made, layer)) :
    (∀ p ∈ given ++ made, ∀ q ∈ given ++ made, p.2 = q.2 ↔ p.1 = q.1) ∧
    (∀ later, ∀ p ∈ given, (Symbols.insertAll later base).2.text? p.2 = some p.1) ∧
    (∀ later, ∀ p ∈ given ++ made, (insertAll later layer).2.text? p.2 = some p.1) ∧
    (∀ s, (base.id? s).isSome ↔ s ∈ builtins ∨ .string s ∈ history) ∧
    (∀ s i, base.id? s = some i ↔ base.text? i = some s) ∧
    (∀ i, (base.text? i).isSome ↔ i < builtins.length ∨ firstLocal ≤ i ∧ i < layer.offset) ∧
    (∀ i, (layer.text? i).isSome ↔
      i < builtins.length ∨ firstLocal ≤ i ∧ i < layer.offset + layer.strings.length) ∧
    (∀ p ∈ made, base.id? p.1 = some p.2 ∨ base.id? p.1 = none ∧ base.text? p.2 = none) ∧
    (∀ s, s ∈ builtins ∨ .string s ∈ history → (Symbols.intern s base).2 = base) ∧
    (∀ s, s ∈ builtins ∨ .string s ∈ history ∨ s ∈ texts → (layer.intern s).2 = layer) ∧
    layer.base = base := by
  have known := id?_reached taken above
  have kept := base_reached above
  refine ⟨fun p hp q hq => ⟨fun same => ?_, fun same => ?_⟩, fun later p hp => ?_,
    fun later p hp => text?_later later (known p hp), isSome_id?_reached taken,
    fun s i => (Symbols.sound_reached taken).id?_eq_some_iff, fun i => ?_, fun i => ?_,
    fun p hp => apart_of_reached taken above hp, fun s found => ?_, fun s found => ?_, kept⟩
  · have first := Symbols.text?_of_id? (known p hp)
    rw [same, Symbols.text?_of_id? (known q hq)] at first
    exact (Option.some.inj first).symm
  · have first := known p hp
    rw [same, known q hq] at first
    exact (Option.some.inj first).symm
  · exact (Symbols.grows_insertAll later base).text?
      (Symbols.text?_of_id? (Symbols.id?_reached taken p hp))
  · rw [Symbols.isSome_text?_iff, offset, kept]
  · rw [← text?_flat, Symbols.isSome_text?_iff, length_strings_flat]
  · obtain ⟨i, id⟩ := Option.isSome_iff_exists.1 ((isSome_id?_reached taken s).2 found)
    rw [Symbols.intern_known id]
  · obtain ⟨i, id⟩ := Option.isSome_iff_exists.1 ((isSome_id?_flat_reached taken above s).2 found)
    rw [intern_known id]

/-- A name that every table knows, a string and a key that come twice, and a layer that is given a
string of the table and one of its own twice. -/
theorem ids_of_insertions_doubled :
    let key : PublicKey := ⟨.ed25519, [7]⟩
    let history : List Insertion :=
      [.string "read", .key key, .string "alice", .string "bob", .key key, .string "alice"]
    let base : Symbols := { strings := ["alice", "bob"], keys := [key] }
    let layer : Scratch := { base, strings := ["alicebob"] }
    Symbols.insertAll history .empty =
      ([("read", 2), ("alice", 1024), ("bob", 1025), ("alice", 1024)], base) ∧
    insertAll ["bob", "alicebob", "read", "alicebob"] { base } =
      ([("bob", 1025), ("alicebob", 1026), ("read", 2), ("alicebob", 1026)], layer) ∧
    (insertAll ["carol"] layer).2.text? 1026 = some "alicebob" := by
  intro key history base layer
  have taken : Symbols.insertAll history .empty =
      ([("read", 2), ("alice", 1024), ("bob", 1025), ("alice", 1024)], base) := rfl
  have above : insertAll ["bob", "alicebob", "read", "alicebob"] { base } =
      ([("bob", 1025), ("alicebob", 1026), ("read", 2), ("alicebob", 1026)], layer) := rfl
  obtain ⟨-, -, read, -⟩ := ids_of_insertions taken above
  exact ⟨taken, above, read ["carol"] ("alicebob", 1026) (by decide)⟩

end Scratch

end Reached

end Warrant
