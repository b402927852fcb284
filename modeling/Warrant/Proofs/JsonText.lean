import Mathlib.Data.List.TakeWhile
import Mathlib.Tactic.IntervalCases
import Std.Data.String.ToNat
import Warrant.Json.Read
import Warrant.Proofs.Unification

/-! JSON text reads back as the value that it is the text of.
Every value but `Json.other`, which stands for what has nothing to read in it, is got back from its
text, however its strings are escaped and however deep it nests (`read?_render`). Lines and
indentation are blanks to the reader. A value is read up to what follows it, which must not go on
like a number; after a value comes a comma, a new line or the end of the text. -/

namespace Warrant.Json

/-! Blanks. -/

section Blanks

variable {cs ds : List Char}

theorem skipBlanks_cons {c : Char} (h : isBlank c = false) (cs : List Char) :
    skipBlanks (c :: cs) = c :: cs := by
  simp [skipBlanks, h]

@[simp] theorem skipBlanks_newLine (depth : Nat) (cs : List Char) :
    skipBlanks (newLine depth ++ cs) = skipBlanks cs := by
  have blank : ∀ c ∈ newLine depth, isBlank c := by
    intro c hc
    rcases List.mem_cons.1 hc with rfl | hc
    · rfl
    · rw [List.eq_of_mem_replicate hc]
      rfl
  exact List.dropWhile_append_of_pos blank

theorem value?_congr (same : skipBlanks cs = skipBlanks ds) (fuel : Nat) :
    value? fuel cs = value? fuel ds := by
  cases fuel with
  | zero => rw [value?, value?]
  | succ fuel => rw [value?, value?, same]

theorem elements?_congr (same : skipBlanks cs = skipBlanks ds) (fuel : Nat) :
    elements? fuel cs = elements? fuel ds := by
  cases fuel with
  | zero => rw [elements?, elements?]
  | succ fuel => rw [elements?, elements?, value?_congr same]

theorem fields?_congr (same : skipBlanks cs = skipBlanks ds) (fuel : Nat) :
    fields? fuel cs = fields? fuel ds := by
  cases fuel with
  | zero => rw [fields?, fields?]
  | succ fuel => rw [fields?, fields?, same]

end Blanks

/-! Strings. -/

theorem hexValue?_hexDigit {n : Nat} (h : n < 16) : hexValue? (Text.hexDigit n) = some n := by
  interval_cases n <;> rfl

theorem units_plain {c : Char} (quote : c ≠ '"') (backslash : c ≠ '\\') (control : ¬ c < ' ')
    (cs : List Char) :
    units (c :: cs) = (units cs).map fun (numbers, rest) => (c.toNat :: numbers, rest) := by
  rw [units]
  · cases units cs <;> simp [control, backslash]
  all_goals simp_all

/-- What a character is escaped as is read as the number of the character. -/
theorem units_escape (c : Char) (cs : List Char) :
    units (escape c ++ cs) = (units cs).map fun (numbers, rest) => (c.toNat :: numbers, rest) := by
  unfold escape
  -- the last case is the one without an escape of its own, by number or as it is
  split
  case h_8 quote backslash _ _ _ _ _ =>
    split
    case isTrue control =>
      have small : c.toNat < 32 := control
      have zero : hexValue? '0' = some 0 := rfl
      have number : c.toNat / 16 * 16 + c.toNat % 16 = c.toNat := by omega
      simp only [List.cons_append, List.nil_append]
      rw [units, hexValue?_hexDigit (by omega), hexValue?_hexDigit (by omega), zero]
      cases units cs <;> simp [number]
    case isFalse control => exact units_plain quote backslash control cs
  all_goals
    simp only [List.cons_append, List.nil_append]
    rw [units]
    · cases units cs <;> rfl
    · simp

theorem units_flatMap_escape (text rest : List Char) :
    units (text.flatMap escape ++ '"' :: rest) = some (text.map Char.toNat, rest) := by
  induction text with
  | nil => rfl
  | cons c text ih =>
    rw [List.flatMap_cons, List.append_assoc, units_escape, ih]
    rfl

/-- No character of a string is half of a surrogate pair. -/
theorem characters_map_toNat (cs : List Char) : characters (cs.map Char.toNat) = some cs := by
  induction cs with
  | nil => rfl
  | cons c rest ih =>
    have valid : c.toNat.isValidChar := c.valid
    cases rest with
    | nil => simp [characters, valid]
    | cons d rest =>
      simp only [List.map_cons] at ih ⊢
      rw [characters, if_pos valid, ih, Char.ofNat_toNat]
      rfl

theorem string?_quoted (s : String) (rest : List Char) :
    string? (s.toList.flatMap escape ++ '"' :: rest) = some (some s, rest) := by
  simp [string?, units_flatMap_escape, characters_map_toNat]

theorem quote_append (s : String) (rest : List Char) :
    quote s ++ rest = '"' :: (s.toList.flatMap escape ++ '"' :: rest) := by
  simp [quote]

/-! Numbers. -/

/-- What may follow a number: nothing that would go on with it. -/
def Ends (cs : List Char) : Prop :=
  cs.head?.all fun c => !(c.isDigit || c == '.' || c == 'e' || c == 'E')

section Numbers

variable {rest : List Char}

theorem ends_cons_iff {c : Char} :
    Ends (c :: rest) ↔ c.isDigit = false ∧ c ≠ '.' ∧ c ≠ 'e' ∧ c ≠ 'E' := by
  simp [Ends, and_assoc]

theorem Ends.fraction? (ends : Ends rest) : fraction? rest = some (false, rest) := by
  unfold Json.fraction?
  split
  · exact absurd rfl (ends_cons_iff.1 ends).2.1
  · rfl

theorem Ends.exponent? (ends : Ends rest) : exponent? rest = some (false, rest) := by
  cases rest with
  | nil => rfl
  | cons c rest =>
    obtain ⟨-, -, lower, upper⟩ := ends_cons_iff.1 ends
    simp [Json.exponent?, lower, upper]

theorem isDigit_of_mem_toDigits {n : Nat} {c : Char} (h : c ∈ Nat.toDigits 10 n) : c.isDigit :=
  Nat.isDigit_of_mem_toDigits (by decide) (by decide) h

theorem exists_toDigits_eq_cons (n : Nat) :
    ∃ c cs, Nat.toDigits 10 n = c :: cs ∧ c.isDigit := by
  obtain ⟨c, cs, digits⟩ := List.exists_cons_of_ne_nil (Nat.toDigits_ne_nil (b := 10) (n := n))
  exact ⟨c, cs, digits, isDigit_of_mem_toDigits (digits ▸ List.mem_cons_self ..)⟩

/-- Only zero itself is written with a zero before its other digits. -/
theorem head?_toDigits {n : Nat} (h : 0 < n) : (Nat.toDigits 10 n).head? ≠ some '0' := by
  induction n using Nat.strong_induction_on with
  | _ n ih =>
    rcases Nat.lt_or_ge n 10 with small | large
    · rw [Nat.toDigits_of_lt_base small]
      interval_cases n <;> decide
    · rw [Nat.toDigits_of_base_le (by decide) large, List.head?_append,
        Option.or_of_isSome (List.isSome_head?.2 Nat.toDigits_ne_nil)]
      exact ih (n / 10) (by omega) (by omega)

theorem digits?_toDigits (n : Nat) (ends : Ends rest) :
    digits? (Nat.toDigits 10 n ++ rest) = some (Nat.toDigits 10 n, rest) := by
  have digits : ∀ c ∈ Nat.toDigits 10 n, c.isDigit := fun _ => isDigit_of_mem_toDigits
  have stop : rest.takeWhile Char.isDigit = [] ∧ rest.dropWhile Char.isDigit = rest := by
    cases rest with
    | nil => exact ⟨rfl, rfl⟩
    | cons c rest => simp [(ends_cons_iff.1 ends).1]
  rw [digits?, List.takeWhile_append_of_pos digits, List.dropWhile_append_of_pos digits, stop.1,
    stop.2, List.append_nil]
  simp [Nat.toDigits_ne_nil]

theorem foldl_toDigits (n : Nat) :
    (Nat.toDigits 10 n).foldl (fun n c => n * 10 + (c.toNat - '0'.toNat)) 0 = n := by
  simp only [Nat.mul_comm _ 10]
  rw [← Nat.ofDigitChars_eq_foldl, Nat.ofDigitChars_ten_toDigits]

/-- Digits after a sign are read as the number that they are written for, but minus zero is no
integer. -/
theorem number?_eq {cs : List Char} {n : Nat} {negative : Bool}
    (sign : (cs.head? == some '-') = negative)
    (unsigned : (if negative then cs.drop 1 else cs) = Nat.toDigits 10 n ++ rest)
    (proper : (negative && n == 0) = false) (ends : Ends rest) :
    number? cs = some (.int (if negative then -n else n), rest) := by
  have padded : ((Nat.toDigits 10 n).head? == some '0' &&
      decide (1 < (Nat.toDigits 10 n).length)) = false := by
    rcases Nat.eq_zero_or_pos n with rfl | positive
    · rfl
    · simp [head?_toDigits positive]
  simp only [number?, sign, unsigned, digits?_toDigits n ends, Option.bind_eq_bind,
    Option.bind_some, padded, ends.fraction?, ends.exponent?, foldl_toDigits, proper]
  rfl

theorem toList_toString_ofNat (n : Nat) :
    (toString (Int.ofNat n)).toList = Nat.toDigits 10 n := by
  simp [toString, Int.repr, Nat.repr_eq_ofList_toDigits]

theorem toList_toString_negSucc (n : Nat) :
    (toString (Int.negSucc n)).toList = '-' :: Nat.toDigits 10 (n + 1) := by
  simp [toString, Int.repr, Nat.repr_eq_ofList_toDigits]

theorem exists_toString_eq_cons (i : Int) :
    ∃ c cs, (toString i).toList = c :: cs ∧ (c = '-' ∨ c.isDigit) := by
  cases i with
  | ofNat n =>
    obtain ⟨c, cs, digits, first⟩ := exists_toDigits_eq_cons n
    exact ⟨c, cs, by rw [toList_toString_ofNat, digits], .inr first⟩
  | negSucc n => exact ⟨'-', _, toList_toString_negSucc n, .inl rfl⟩

theorem number?_toString (i : Int) (ends : Ends rest) :
    number? ((toString i).toList ++ rest) = some (.int i, rest) := by
  cases i with
  | ofNat n =>
    have unsigned : ((Nat.toDigits 10 n ++ rest).head? == some '-') = false := by
      obtain ⟨c, cs, digits, first⟩ := exists_toDigits_eq_cons n
      have other : c ≠ '-' := by
        rintro rfl
        cases first
      simp [digits, other]
    rw [toList_toString_ofNat]
    exact number?_eq unsigned rfl rfl ends
  | negSucc n =>
    rw [toList_toString_negSucc]
    exact number?_eq (n := n + 1) rfl rfl rfl ends

theorem isBlank_of_number {c : Char} (number : c = '-' ∨ c.isDigit) : isBlank c = false := by
  cases blank : isBlank c
  · rfl
  · simp only [isBlank, Bool.or_eq_true, beq_iff_eq] at blank
    rcases number with rfl | digit
    · simp at blank
    · rcases blank with ((rfl | rfl) | rfl) | rfl <;> cases digit

theorem value?_number {c : Char} (number : c = '-' ∨ c.isDigit) (fuel : Nat) (cs : List Char) :
    value? (fuel + 1) (c :: cs) = number? (c :: cs) := by
  rw [value?, skipBlanks_cons (isBlank_of_number number)]
  -- every other reading starts with a character that is neither a sign nor a digit
  split
  case h_7 => rfl
  all_goals
    rename_i same
    cases same
    rcases number with other | other <;> cases other

end Numbers

/-! Arrays and objects.
Each step is one element or one field; what follows it is a comma or the closing bracket. -/

section Steps

variable {fuel : Nat} {cs more tail : List Char} {v : Json} {name : String}

theorem elements?_last (read : value? fuel cs = some (v, more))
    (last : skipBlanks more = ']' :: tail) : elements? (fuel + 1) cs = some ([v], tail) := by
  simp [elements?, read, last]

theorem elements?_more (read : value? fuel cs = some (v, more))
    (comma : skipBlanks more = ',' :: tail) : elements? (fuel + 1) cs =
      (elements? fuel tail).map fun (vs, rest) => (v :: vs, rest) := by
  simp [elements?, read, comma]

theorem value?_space (fuel : Nat) (cs : List Char) :
    value? fuel (' ' :: cs) = value? fuel cs :=
  have same : skipBlanks (' ' :: cs) = skipBlanks cs := rfl
  value?_congr same fuel

theorem fields?_last (read : value? fuel cs = some (v, more))
    (last : skipBlanks more = '\x7d' :: tail) :
    fields? (fuel + 1) (quote name ++ (':' :: ' ' :: cs)) = some ([(some name, v)], tail) := by
  simp [fields?, quote_append, skipBlanks_cons (c := '"') rfl, skipBlanks_cons (c := ':') rfl,
    string?_quoted, value?_space, read, last]

theorem fields?_more (read : value? fuel cs = some (v, more))
    (comma : skipBlanks more = ',' :: tail) :
    fields? (fuel + 1) (quote name ++ (':' :: ' ' :: cs)) =
      (fields? fuel tail).map fun (fields, rest) => ((some name, v) :: fields, rest) := by
  simp [fields?, quote_append, skipBlanks_cons (c := '"') rfl, skipBlanks_cons (c := ':') rfl,
    string?_quoted, value?_space, read, comma]

end Steps

/-- Holds no `Json.other`. -/
inductive Readable : Json → Prop
  | null : Readable .null
  | bool (b : Bool) : Readable (.bool b)
  | int (i : Int) : Readable (.int i)
  | str (s : String) : Readable (.str s)
  | arr {elements : List Json} (all : ∀ v ∈ elements, v.Readable) : Readable (.arr elements)
  | obj {fields : List (String × Json)} (all : ∀ f ∈ fields, f.2.Readable) : Readable (.obj fields)

/-- With fuel for twice its length, the text of the value reads back at any depth of nesting. -/
def ReadsBack (v : Json) : Prop :=
  ∀ depth fuel rest, 2 * (v.print depth).length ≤ fuel → Ends rest →
    value? fuel (v.print depth ++ rest) = some (v, rest)

section Nested

variable (depth outer : Nat)

theorem ends_printRest (vs : List Json) (cs : List Char) :
    Ends (printRest depth vs ++ (newLine outer ++ cs)) := by
  cases vs <;> rfl

theorem ends_printFields (fields : List (String × Json)) (cs : List Char) :
    Ends (printFields depth fields ++ (newLine outer ++ cs)) := by
  rcases fields with _ | ⟨⟨name, v⟩, rest⟩ <;> rfl

theorem printRest_cons (v : Json) (rest : List Json) (cs : List Char) :
    printRest depth (v :: rest) ++ cs =
      ',' :: (newLine depth ++ (v.print depth ++ (printRest depth rest ++ cs))) := by
  simp [printRest]

theorem printFields_cons (name : String) (v : Json) (rest : List (String × Json))
    (cs : List Char) : printFields depth ((name, v) :: rest) ++ cs = ',' :: (newLine depth ++
      (quote name ++ (':' :: ' ' :: (v.print depth ++ (printFields depth rest ++ cs))))) := by
  simp [printFields]

theorem print_arr (first : Json) (rest : List Json) (cs : List Char) :
    (Json.arr (first :: rest)).print depth ++ cs = '[' :: (newLine (depth + 1) ++
      (first.print (depth + 1) ++ (printRest (depth + 1) rest ++
        (newLine depth ++ ']' :: cs)))) := by
  simp [print]

theorem print_obj (name : String) (first : Json) (rest : List (String × Json)) (cs : List Char) :
    (Json.obj ((name, first) :: rest)).print depth ++ cs = '\x7b' :: (newLine (depth + 1) ++
      (quote name ++ (':' :: ' ' :: (first.print (depth + 1) ++
        (printFields (depth + 1) rest ++ (newLine depth ++ '\x7d' :: cs)))))) := by
  simp [print]

/-- The elements of an array read back up to its closing bracket. -/
theorem elements?_print {first : Json} {rest : List Json}
    (each : ∀ v ∈ first :: rest, v.ReadsBack) (fuel : Nat) (cs : List Char)
    (enough : 2 * (first.print depth ++ printRest depth rest).length < fuel) :
    elements? fuel (first.print depth ++ (printRest depth rest ++ (newLine outer ++ ']' :: cs))) =
      some (first :: rest, cs) := by
  induction rest generalizing first fuel with
  | nil =>
    obtain ⟨fuel, rfl⟩ : ∃ n, fuel = n + 1 := ⟨fuel - 1, by omega⟩
    rw [printRest, List.append_nil] at enough
    have read := each first (List.mem_cons_self ..) depth fuel _ (by omega)
      (ends_printRest depth outer [] (']' :: cs))
    exact elements?_last read (skipBlanks_newLine outer _)
  | cons second rest ih =>
    obtain ⟨fuel, rfl⟩ : ∃ n, fuel = n + 1 := ⟨fuel - 1, by omega⟩
    obtain ⟨here, later⟩ := List.forall_mem_cons.1 each
    rw [List.length_append] at enough
    have read := here depth fuel _ (by omega)
      (ends_printRest depth outer (second :: rest) (']' :: cs))
    -- the comma pays for the step from one element to the next
    have longer := congrArg List.length (printRest_cons depth second rest [])
    simp only [List.append_nil, List.length_cons, List.length_append] at longer
    rw [elements?_more read (by rw [printRest_cons, skipBlanks_cons rfl]),
      elements?_congr (skipBlanks_newLine depth _),
      ih later fuel (by rw [List.length_append]; omega)]
    rfl

/-- The fields of an object read back up to its closing brace. -/
theorem fields?_print {name : String} {first : Json} {rest : List (String × Json)}
    (here : first.ReadsBack) (later : ∀ f ∈ rest, f.2.ReadsBack) (fuel : Nat) (cs : List Char)
    (enough : 2 * (first.print depth ++ printFields depth rest).length < fuel) :
    fields? fuel (quote name ++ (':' :: ' ' ::
        (first.print depth ++ (printFields depth rest ++ (newLine outer ++ '\x7d' :: cs))))) =
      some (((name, first) :: rest).map fun f => (some f.1, f.2), cs) := by
  induction rest generalizing name first fuel with
  | nil =>
    obtain ⟨fuel, rfl⟩ : ∃ n, fuel = n + 1 := ⟨fuel - 1, by omega⟩
    rw [printFields, List.append_nil] at enough
    have read := here depth fuel _ (by omega) (ends_printFields depth outer [] ('\x7d' :: cs))
    exact fields?_last read (skipBlanks_newLine outer _)
  | cons second rest ih =>
    obtain ⟨fuel, rfl⟩ : ∃ n, fuel = n + 1 := ⟨fuel - 1, by omega⟩
    obtain ⟨other, second⟩ := second
    have next : second.ReadsBack := later (other, second) (List.mem_cons_self ..)
    replace later : ∀ f ∈ rest, f.2.ReadsBack := fun f hf => later f (List.mem_cons_of_mem _ hf)
    rw [List.length_append] at enough
    have read := here depth fuel _ (by omega)
      (ends_printFields depth outer ((other, second) :: rest) ('\x7d' :: cs))
    have longer := congrArg List.length (printFields_cons depth other second rest [])
    simp only [List.append_nil, List.length_cons, List.length_append] at longer
    rw [fields?_more read (by rw [printFields_cons, skipBlanks_cons rfl]),
      fields?_congr (skipBlanks_newLine depth _),
      ih next later fuel (by rw [List.length_append]; omega)]
    rfl

end Nested

theorem object_map_some (fields : List (String × Json)) :
    object (fields.map fun f => (some f.1, f.2)) = .obj fields := by
  rw [object, mapM_eq_some_iff.2 (List.forall₂_map_left_iff.2 (List.forall₂_same.2 ?_))]
  exact fun _ _ => rfl

/-- The text of a value starts with something that neither is blank nor ends an array. -/
theorem exists_print_eq_cons (v : Json) (depth : Nat) :
    ∃ c cs, v.print depth = c :: cs ∧ isBlank c = false ∧ c ≠ ']' := by
  cases v with
  | int i =>
    obtain ⟨c, cs, text, number⟩ := exists_toString_eq_cons i
    refine ⟨c, cs, by rw [print, text], isBlank_of_number number, ?_⟩
    rintro rfl
    rcases number with other | other <;> cases other
  | bool b => cases b <;> exact ⟨_, _, rfl, rfl, by simp⟩
  | arr elements => cases elements <;> exact ⟨_, _, rfl, rfl, by simp⟩
  | obj fields => rcases fields with _ | ⟨⟨name, v⟩, rest⟩ <;> exact ⟨_, _, rfl, rfl, by simp⟩
  | null | str | other => exact ⟨_, _, rfl, rfl, by simp⟩

/-- No text is empty, so that its fuel is enough for a first step. -/
theorem readsBack_of_step {v : Json} (step : ∀ depth fuel rest,
      2 * (v.print depth).length ≤ fuel + 1 → Ends rest →
      value? (fuel + 1) (v.print depth ++ rest) = some (v, rest)) : v.ReadsBack := by
  intro depth fuel rest enough ends
  obtain ⟨c, cs, text, -⟩ := exists_print_eq_cons v depth
  cases fuel with
  | zero =>
    rw [text] at enough
    cases enough
  | succ fuel => exact step depth fuel rest enough ends

theorem value?_array {v : Json} {depth inner fuel : Nat} {cs tail : List Char} {vs : List Json}
    (read : elements? fuel (v.print inner ++ cs) = some (vs, tail)) :
    value? (fuel + 1) ('[' :: (newLine depth ++ (v.print inner ++ cs))) = some (.arr vs, tail) := by
  obtain ⟨c, text, starts, blank, other⟩ := exists_print_eq_cons v inner
  rw [starts, List.cons_append] at read ⊢
  rw [value?, skipBlanks_cons rfl]
  simp [skipBlanks_cons blank, other, read]

theorem value?_object {name : String} {depth fuel : Nat} {cs tail : List Char}
    {fields : List (String × Json)}
    (read : fields? fuel (quote name ++ cs) = some (fields.map fun f => (some f.1, f.2), tail)) :
    value? (fuel + 1) ('\x7b' :: (newLine depth ++ (quote name ++ cs))) =
      some (.obj fields, tail) := by
  rw [quote_append] at read ⊢
  rw [value?, skipBlanks_cons rfl]
  simp [skipBlanks_cons (c := '"') rfl, read, object_map_some]

theorem Readable.readsBack {v : Json} (readable : v.Readable) : v.ReadsBack := by
  induction readable with
  | null => exact readsBack_of_step fun _ _ _ _ _ => rfl
  | bool b => cases b <;> exact readsBack_of_step fun _ _ _ _ _ => rfl
  | int i =>
    refine readsBack_of_step fun depth fuel rest _ ends => ?_
    obtain ⟨c, cs, text, number⟩ := exists_toString_eq_cons i
    have read := number?_toString i ends
    rw [print]
    rw [text, List.cons_append] at read ⊢
    rw [value?_number number, read]
  | str s =>
    refine readsBack_of_step fun depth fuel rest _ _ => ?_
    rw [print, quote_append, value?, skipBlanks_cons rfl]
    simp [string?_quoted]
  | @arr elements _ each =>
    refine readsBack_of_step fun depth fuel rest enough _ => ?_
    cases elements with
    | nil => rfl
    | cons first others =>
      have inside :
          2 * (first.print (depth + 1) ++ printRest (depth + 1) others).length < fuel := by
        simp only [print, List.length_cons, List.length_append] at enough ⊢
        omega
      rw [print_arr]
      exact value?_array (elements?_print (depth + 1) depth each fuel rest inside)
  | @obj fields _ each =>
    refine readsBack_of_step fun depth fuel rest enough _ => ?_
    cases fields with
    | nil => rfl
    | cons field others =>
      obtain ⟨name, first⟩ := field
      have here : first.ReadsBack := each (name, first) (List.mem_cons_self ..)
      have later : ∀ f ∈ others, f.2.ReadsBack := fun f hf => each f (List.mem_cons_of_mem _ hf)
      have inside :
          2 * (first.print (depth + 1) ++ printFields (depth + 1) others).length < fuel := by
        simp only [print, List.length_cons, List.length_append] at enough ⊢
        omega
      rw [print_obj]
      exact value?_object (fields?_print (depth + 1) depth here later fuel rest inside)

/-- A value comes back from its text, which has fuel enough to be read to its end. -/
theorem read?_render {v : Json} (readable : v.Readable) : read? v.render = some v := by
  have text : v.render.toList = v.print 0 := String.toList_ofList
  have read := readable.readsBack 0 (2 * (v.print 0).length + 1) [] (by omega) rfl
  rw [List.append_nil] at read
  simp only [read?, text, read, Option.bind_eq_bind, Option.bind_some]
  exact if_pos rfl

-- `Json.other` has no text of its own, so that it cannot come back.
example : read? (render .other) = some .null := by rfl

end Warrant.Json
