import Upkeep.Data.Json
import Upkeep.Proofs.Data.Fields
import Mathlib.Algebra.Ring.Int.Defs

/-! # JSON — what is rendered is read back

    A value without doubles is rendered to a text that says all of it: reading
    the text gives the value (`parse?_render`), so two values are never rendered
    alike (`render_injective`).

    Each reader is shown to take exactly what its writer has written and to leave
    what stands behind.  Characters, numbers and texts are settled first; a value
    then goes by its parts, one level down for each list or record. -/

namespace Upkeep

namespace Json

variable {c : Char} {rest : List Char}

/-! ## Texts -/

/-- The escape of a control character is worth what the character is. -/
theorem hexFour?_escape {n : Nat} (h : n < 32) (rest : List Char) :
    hexFour? ('0' :: '0' :: hexDigit (n / 16) :: hexDigit n :: rest) = some (n, rest) := by
  have hdigits : ∀ n < 32, hexValue? '0' = some 0 ∧ hexValue? (hexDigit (n / 16)) = some (n / 16) ∧
      hexValue? (hexDigit n) = some (n % 16) := by decide
  obtain ⟨hzero, hhigh, hlow⟩ := hdigits n h
  have hvalue : ((0 * 16 + 0) * 16 + n / 16) * 16 + n % 16 = n := by omega
  simp only [hexFour?, hzero, hhigh, hlow, hvalue]

/-- A character inside a text is read as it was written. -/
theorem readString?_escapeChar (fuel : Nat) (read : List Char) (c : Char) (rest : List Char) :
    readString? (fuel + 1) read (escapeChar c ++ rest) = readString? fuel (c :: read) rest := by
  rw [escapeChar]
  split
  · next h => subst h; rfl
  split
  · next h => subst h; rfl
  split
  · next h => subst h; rfl
  split
  · next h => subst h; rfl
  split
  · next h => subst h; rfl
  split
  · next h => subst h; rfl
  split
  · next h => subst h; rfl
  next hquote hbackslash _ _ _ _ _ =>
  split
  · -- a control character without an escape of its own
    next hcontrol =>
    have hunit : readUnit? ('0' :: '0' :: hexDigit (c.toNat / 16) :: hexDigit c.toNat :: rest)
        = some (c, rest) := by
      rw [readUnit?, hexFour?_escape hcontrol]
      dsimp only
      rw [if_neg (by simp; omega), if_neg (by simp; omega), Char.ofNat_toNat]
    show readString? (fuel + 1) read ('\\' :: 'u' :: ('0' :: '0' :: hexDigit (c.toNat / 16)
      :: hexDigit c.toNat :: rest)) = _
    rw [readString?, hunit]
  · next hplain =>
    show readString? (fuel + 1) read (c :: rest) = _
    rw [readString?]
    · rw [if_neg hplain]
    · exact fun h => hquote h
    · exact fun _ h => absurd h hbackslash
    · exact fun _ _ h => absurd h hbackslash

/-- A text is read up to its closing quote. -/
theorem readString?_escaped (text read rest : List Char) {fuel : Nat} (h : text.length < fuel) :
    readString? fuel read (text.flatMap escapeChar ++ '"' :: rest)
      = some (String.ofList (read.reverse ++ text), rest) := by
  induction text generalizing read fuel with
  | nil =>
      obtain ⟨fuel, rfl⟩ := Nat.exists_eq_add_one_of_ne_zero (Nat.ne_of_gt h)
      rw [List.append_nil]
      rfl
  | cons c text ih =>
      obtain ⟨fuel, rfl⟩ := Nat.exists_eq_add_one_of_ne_zero (Nat.ne_zero_of_lt h)
      rw [List.flatMap_cons, List.append_assoc, readString?_escapeChar,
        ih (c :: read) (Nat.lt_of_succ_lt_succ h), List.reverse_cons, List.append_assoc]
      rfl

/-- Escaping leaves no character out. -/
theorem length_le_escaped (text : List Char) : text.length ≤ (text.flatMap escapeChar).length := by
  have hone (c : Char) : 1 ≤ (escapeChar c).length := by
    rw [escapeChar]
    repeat' split
    all_goals simp
  induction text with
  | nil => exact Nat.le_refl _
  | cons c text ih =>
      have := hone c
      rw [List.flatMap_cons, List.length_append, List.length_cons]
      omega

theorem toList_renderText (s : String) :
    (renderText s).toList = '"' :: (s.toList.flatMap escapeChar ++ ['"']) := by
  simp [renderText]

/-- A rendered text is read behind its opening quote, given fuel for all that is there. -/
theorem readString?_rendered (s : String) (rest : List Char) :
    readString? ((s.toList.flatMap escapeChar ++ '"' :: rest).length + 1) []
      (s.toList.flatMap escapeChar ++ '"' :: rest) = some (s, rest) := by
  have hfuel := length_le_escaped s.toList
  rw [readString?_escaped s.toList [] rest (by rw [List.length_append]; omega)]
  simp

/-! ## Numbers -/

/-- What may stand behind a value: nothing, or what goes on with a list or a record. -/
def Closes (rest : List Char) : Prop := ∀ c ∈ rest.head?, c = ',' ∨ c = ']' ∨ c = '\x7d'

theorem closes_nil : Closes [] := by
  intro c hc
  cases hc

theorem closes_cons (h : c = ',' ∨ c = ']' ∨ c = '\x7d') : Closes (c :: rest) :=
  fun _ hd => Option.some.inj hd ▸ h

/-- A decimal digit is a digit. -/
theorem asciiDigit_digitChar {n : Nat} (h : n < 10) : asciiDigit (Nat.digitChar n) = true := by
  have hall : ∀ n < 10, asciiDigit (Nat.digitChar n) = true := by decide
  exact hall n h

theorem asciiDigit_of_mem {n : Nat} (h : c ∈ Nat.toDigits 10 n) : asciiDigit c = true := by
  induction n using Nat.base_induction 10 (by decide) with
  | single n hn =>
      rw [Nat.toDigits_of_lt_base hn, List.mem_singleton] at h
      rw [h]
      exact asciiDigit_digitChar hn
  | digit n d hd hn ih =>
      rw [← Nat.toDigits_append_toDigits (by decide) hn hd, List.mem_append] at h
      rcases h with hfirst | hlast
      · exact ih hfirst
      · rw [Nat.toDigits_of_lt_base hd, List.mem_singleton] at hlast
        rw [hlast]
        exact asciiDigit_digitChar hd

/-- No number but zero begins with the digit zero. -/
theorem head?_toDigits {n : Nat} (h : 0 < n) : (Nat.toDigits 10 n).head? ≠ some '0' := by
  induction n using Nat.base_induction 10 (by decide) with
  | single n hn =>
      have hall : ∀ n < 10, 0 < n → Nat.digitChar n ≠ '0' := by decide
      rw [Nat.toDigits_of_lt_base hn]
      exact fun heq => hall n hn h (Option.some.inj heq)
  | digit n d hd hn ih =>
      rw [← Nat.toDigits_append_toDigits (by decide) hn hd, List.head?_append]
      obtain ⟨first, more, hdigits⟩ := List.exists_cons_of_ne_nil (@Nat.toDigits_ne_nil n 10)
      have hfirst := ih hn
      rw [hdigits] at hfirst ⊢
      exact hfirst

theorem digitsValue_toDigits (n : Nat) : digitsValue (Nat.toDigits 10 n) = n := by
  have hstep : (fun n (c : Char) => n * 10 + (c.toNat - 48))
      = fun n c => 10 * n + (c.toNat - '0'.toNat) := by
    funext n c
    rw [Nat.mul_comm]
    rfl
  rw [digitsValue, hstep, ← Nat.ofDigitChars_eq_foldl, Nat.ofDigitChars_ten_toDigits]

/-- The digits of a number are told apart from what stands behind it. -/
theorem span_toDigits (n : Nat) (hrest : Closes rest) :
    (Nat.toDigits 10 n ++ rest).takeWhile asciiDigit = Nat.toDigits 10 n ∧
      (Nat.toDigits 10 n ++ rest).dropWhile asciiDigit = rest := by
  have hdigits : ∀ c ∈ Nat.toDigits 10 n, asciiDigit c = true := fun _ => asciiDigit_of_mem
  have hbehind : rest.takeWhile asciiDigit = [] ∧ rest.dropWhile asciiDigit = rest := by
    cases rest with
    | nil => exact ⟨rfl, rfl⟩
    | cons c rest =>
        have hc : asciiDigit c = false := by
          rcases hrest c rfl with rfl | rfl | rfl
          · rfl
          · rfl
          · rfl
        rw [List.takeWhile_cons, List.dropWhile_cons, hc]
        exact ⟨rfl, rfl⟩
  rw [List.takeWhile_append_of_pos hdigits, List.dropWhile_append_of_pos hdigits, hbehind.1,
    hbehind.2, List.append_nil]
  exact ⟨rfl, rfl⟩

/-- A whole number has no fraction. -/
theorem readFraction_closes (hrest : Closes rest) : readFraction rest = ([], false, rest) := by
  rw [readFraction]
  rintro more rfl
  rcases hrest '.' rfl with h | h | h
  · exact absurd h (by decide)
  · exact absurd h (by decide)
  · exact absurd h (by decide)

/-- Nor has it an exponent. -/
theorem readExponent?_closes (hrest : Closes rest) : readExponent? rest = some (0, rest) := by
  cases rest with
  | nil => rfl
  | cons c rest =>
      rcases hrest c rfl with rfl | rfl | rfl
      · rfl
      · rfl
      · rfl

/-- The digits of a number are read as the number, with the sign before them. -/
theorem readMagnitude?_toDigits (negative : Bool) (n : Nat) (hrest : Closes rest) :
    readMagnitude? negative (Nat.toDigits 10 n ++ rest) = (ofWhole? negative n).map (·, rest) := by
  obtain ⟨hwhole, hafter⟩ := span_toDigits n hrest
  have hlead : ¬((Nat.toDigits 10 n).isEmpty || ((Nat.toDigits 10 n).head? = some '0' &&
      1 < (Nat.toDigits 10 n).length)) = true := by
    rw [List.isEmpty_eq_false_iff.mpr Nat.toDigits_ne_nil, Bool.false_or, Bool.and_eq_true,
      decide_eq_true_eq, decide_eq_true_eq]
    rintro ⟨hzero, hlong⟩
    rcases Nat.eq_zero_or_pos n with rfl | hpos
    · exact absurd hlong (by decide)
    · exact head?_toDigits hpos hzero
  rw [readMagnitude?, hwhole, hafter, if_neg hlead, readFraction_closes hrest]
  simp [readExponent?_closes hrest, digitsValue_toDigits]

/-- The numbers that fit are whole again when they are read. -/
theorem ofWhole?_nat {n : Nat} (h : n < 2 ^ 64) : ofWhole? false n = some (.int n) := by
  have hfits : n < Nat.pow 2 64 := h
  rw [ofWhole?, if_neg Bool.false_ne_true, if_pos hfits]

theorem ofWhole?_neg {n : Nat} (h : n + 1 ≤ 2 ^ 63) :
    ofWhole? true (n + 1) = some (.int (Int.negSucc n)) := by
  rw [ofWhole?, if_pos rfl, if_neg]
  · rfl
  · show ¬(decide (n + 1 = 0) || decide (2 ^ 63 < n + 1)) = true
    rw [Bool.or_eq_true, decide_eq_true_eq, decide_eq_true_eq]
    omega

theorem toList_render_ofNat (n : Nat) :
    (render (.int (Int.ofNat n))).toList = Nat.toDigits 10 n := Nat.toList_repr

theorem toList_render_negSucc (n : Nat) :
    (render (.int (Int.negSucc n))).toList = '-' :: Nat.toDigits 10 (n + 1) := by
  show ("-" ++ Nat.repr (n + 1)).toList = _
  rw [String.toList_append, Nat.toList_repr]
  rfl

/-- A number begins with a minus sign or a digit. -/
theorem head_render_int (n : Int) :
    ∃ c more, (render (.int n)).toList = c :: more ∧ (c = '-' ∨ asciiDigit c = true) := by
  cases n with
  | ofNat n =>
      obtain ⟨c, more, hcons⟩ := List.exists_cons_of_ne_nil (@Nat.toDigits_ne_nil n 10)
      have hmem : c ∈ Nat.toDigits 10 n := hcons ▸ List.mem_cons_self
      exact ⟨c, more, (toList_render_ofNat n).trans hcons, Or.inr (asciiDigit_of_mem hmem)⟩
  | negSucc n => exact ⟨'-', _, toList_render_negSucc n, Or.inl rfl⟩

/-- A whole number that fits is read as it was written. -/
theorem readNumber?_render {n : Int} (hlow : -2 ^ 63 ≤ n) (hhigh : n < 2 ^ 64)
    (hrest : Closes rest) :
    readNumber? ((render (.int n)).toList ++ rest) = some (.int n, rest) := by
  cases n with
  | ofNat n =>
      obtain ⟨first, more, hcons⟩ := List.exists_cons_of_ne_nil (@Nat.toDigits_ne_nil n 10)
      have hmem : first ∈ Nat.toDigits 10 n := hcons ▸ List.mem_cons_self
      have hsign : first ≠ '-' := by
        rintro rfl
        exact absurd (asciiDigit_of_mem hmem) (by decide)
      have hread : readNumber? (Nat.toDigits 10 n ++ rest)
          = readMagnitude? false (Nat.toDigits 10 n ++ rest) := by
        rw [hcons, List.cons_append, readNumber?]
        exact fun _ heq => absurd (List.head_eq_of_cons_eq heq) hsign
      rw [toList_render_ofNat, hread, readMagnitude?_toDigits false n hrest,
        ofWhole?_nat (Int.ofNat_lt.mp hhigh)]
      rfl
  | negSucc n =>
      rw [toList_render_negSucc, List.cons_append, readNumber?,
        readMagnitude?_toDigits true (n + 1) hrest, ofWhole?_neg (by omega)]
      rfl

/-! ## Values -/

/-- A value that JSON text can say: it has no double in it, its whole numbers are in range, its
    fields are in order, and its lists and records are at most `depth` deep in one another. -/
inductive Plain : Nat → Data → Prop
  | null (depth : Nat) : Plain depth .null
  | bool (depth : Nat) (b : Bool) : Plain depth (.bool b)
  | int (depth : Nat) {n : Int} (low : -2 ^ 63 ≤ n) (high : n < 2 ^ 64) : Plain depth (.int n)
  | text (depth : Nat) (s : String) : Plain depth (.text s)
  | list {depth : Nat} {items : List Data} (each : ∀ item ∈ items, Plain depth item) :
      Plain (depth + 1) (.list items)
  | record {depth : Nat} {fields : List (String × Data)} (ordered : Fields.Ordered fields)
      (each : ∀ field ∈ fields, Plain depth field.2) : Plain (depth + 1) (.record fields)

variable {depth : Nat} {value : Data}

theorem plain_textOrNull (depth : Nat) (s : Option String) : Plain depth (.textOrNull s) := by
  cases s with
  | none => exact .null depth
  | some s => exact .text depth s

theorem plain_texts (depth : Nat) (items : List String) : Plain (depth + 1) (.texts items) := by
  refine .list fun item hitem => ?_
  obtain ⟨s, -, rfl⟩ := List.mem_map.mp hitem
  exact .text depth s

theorem plain_ofFields {fields : List (String × Data)}
    (each : ∀ field ∈ fields, Plain depth field.2) : Plain (depth + 1) (.ofFields fields) :=
  .record (Fields.ordered_ofList fields) fun field hfield =>
    each field (Fields.mem_of_mem_ofList hfield)

theorem renderItems_eq (items : List Data) : renderItems items = items.map render := by
  induction items with
  | nil => rfl
  | cons item items ih => rw [renderItems, ih, List.map_cons]

theorem renderFields_eq (fields : List (String × Data)) :
    renderFields fields = fields.map fun field => renderText field.1 ++ ":" ++ render field.2 := by
  induction fields with
  | nil => rfl
  | cons field fields ih => rw [renderFields, ih, List.map_cons]

/-- What stands between the brackets. -/
def innerItems (items : List Data) : List Char :=
  [','].intercalate (items.map fun item => (render item).toList)

/-- What stands between the braces. -/
def innerFields (fields : List (String × Data)) : List Char :=
  [','].intercalate (fields.map fun field =>
    (renderText field.1).toList ++ ':' :: (render field.2).toList)

theorem toList_render_list (items : List Data) :
    (render (.list items)).toList = '[' :: (innerItems items ++ [']']) := by
  simp [render, renderItems_eq, innerItems, Function.comp_def]

theorem toList_render_record (fields : List (String × Data)) :
    (render (.record fields)).toList = '\x7b' :: (innerFields fields ++ ['\x7d']) := by
  simp [render, renderFields_eq, innerFields, Function.comp_def]

theorem innerItems_singleton (item : Data) : innerItems [item] = (render item).toList := by
  simp [innerItems]

theorem innerItems_cons_cons (item next : Data) (more : List Data) :
    innerItems (item :: next :: more)
      = (render item).toList ++ ',' :: innerItems (next :: more) := by
  simp [innerItems, List.intercalate_cons_cons]

theorem innerFields_singleton (field : String × Data) :
    innerFields [field] = (renderText field.1).toList ++ ':' :: (render field.2).toList := by
  simp [innerFields]

theorem innerFields_cons_cons (field next : String × Data) (more : List (String × Data)) :
    innerFields (field :: next :: more)
      = (renderText field.1).toList ++ ':' :: ((render field.2).toList
        ++ ',' :: innerFields (next :: more)) := by
  simp [innerFields, List.intercalate_cons_cons]

/-- A character that a value begins with: it is not blank, and it closes no list. -/
def Opens (c : Char) : Prop := c ≠ ' ' ∧ c ≠ '\n' ∧ c ≠ '\t' ∧ c ≠ '\r' ∧ c ≠ ']'

instance (c : Char) : Decidable (Opens c) :=
  inferInstanceAs (Decidable (c ≠ ' ' ∧ c ≠ '\n' ∧ c ≠ '\t' ∧ c ≠ '\r' ∧ c ≠ ']'))

theorem skipBlanks_opens (h : Opens c) : skipBlanks (c :: rest) = c :: rest := by
  obtain ⟨hspace, hfeed, htab, hreturn, -⟩ := h
  simp [skipBlanks, hspace, hfeed, htab, hreturn]

theorem opens_of_number (h : c = '-' ∨ asciiDigit c = true) : Opens c := by
  refine ⟨?_, ?_, ?_, ?_, ?_⟩
  all_goals
    rintro rfl
    exact absurd h (by decide)

/-- The text of a value that JSON text can say begins with such a character. -/
theorem Plain.opens (h : Plain depth value) :
    ∃ c more, (render value).toList = c :: more ∧ Opens c := by
  cases h with
  | null => exact ⟨'n', _, rfl, by decide⟩
  | bool _ b =>
      cases b with
      | true => exact ⟨'t', _, rfl, by decide⟩
      | false => exact ⟨'f', _, rfl, by decide⟩
  | int =>
      obtain ⟨c, more, hcons, hc⟩ := head_render_int _
      exact ⟨c, more, hcons, opens_of_number hc⟩
  | text _ s => exact ⟨'"', _, toList_renderText s, by decide⟩
  | list => exact ⟨'[', _, toList_render_list _, by decide⟩
  | record => exact ⟨'\x7b', _, toList_render_record _, by decide⟩

/-- At this depth the value is read from its text, whatever stands behind it. -/
def ReadBack (depth : Nat) (value : Data) : Prop :=
  ∀ fuel rest, Closes rest → (render value).toList.length ≤ fuel →
    readValue? fuel depth ((render value).toList ++ rest) = some (value, rest)

/-- Items that are read back are read up to the bracket. -/
theorem readItems?_inner {items : List Data} (some_item : items ≠ [])
    (each : ∀ item ∈ items, ReadBack depth item) (read : List Data) (rest : List Char) {fuel : Nat}
    (hfuel : (innerItems items).length < fuel) :
    readItems? fuel depth read (innerItems items ++ ']' :: rest)
      = some (.list (read.reverse ++ items), rest) := by
  induction items generalizing read fuel with
  | nil => exact absurd rfl some_item
  | cons item items ih =>
      obtain ⟨fuel, rfl⟩ := Nat.exists_eq_add_one_of_ne_zero (Nat.ne_zero_of_lt hfuel)
      have hitem := each item List.mem_cons_self
      cases items with
      | nil =>
          rw [innerItems_singleton] at hfuel ⊢
          rw [readItems?, hitem fuel (']' :: rest) (closes_cons (Or.inr (Or.inl rfl)))
            (Nat.le_of_lt_succ hfuel), ← List.reverse_cons]
          rfl
      | cons next more =>
          rw [innerItems_cons_cons, List.length_append, List.length_cons] at hfuel
          have hinner : (innerItems (next :: more)).length < fuel := by omega
          rw [innerItems_cons_cons, List.append_assoc, List.cons_append, readItems?,
            hitem fuel (',' :: _) (closes_cons (Or.inl rfl)) (by omega)]
          have hmore := ih (List.cons_ne_nil _ _)
            (fun item hmem => each item (List.mem_cons_of_mem _ hmem)) (item :: read) hinner
          rw [List.reverse_cons, List.append_assoc] at hmore
          exact hmore

/-- Behind a field whose value is read there is a comma and more, -/
theorem readFields?_next (name : String) {fuel : Nat} {behind : List Char}
    {read : List (String × Data)}
    (hvalue : readValue? fuel depth behind = some (value, ',' :: rest)) :
    readFields? (fuel + 1) depth read ((renderText name).toList ++ ':' :: behind)
      = readFields? fuel depth ((name, value) :: read) rest := by
  rw [toList_renderText, List.cons_append, List.append_assoc, List.singleton_append, readFields?]
  have hquote : Opens '"' := by decide
  have hcolon : Opens ':' := by decide
  have hcomma : Opens ',' := by decide
  simp only [skipBlanks_opens hquote, readString?_rendered, skipBlanks_opens hcolon, hvalue,
    skipBlanks_opens hcomma]

/-- or the brace. -/
theorem readFields?_last (name : String) {fuel : Nat} {behind : List Char}
    {read : List (String × Data)}
    (hvalue : readValue? fuel depth behind = some (value, '\x7d' :: rest)) :
    readFields? (fuel + 1) depth read ((renderText name).toList ++ ':' :: behind)
      = some (.ofFields ((name, value) :: read).reverse, rest) := by
  rw [toList_renderText, List.cons_append, List.append_assoc, List.singleton_append, readFields?]
  have hquote : Opens '"' := by decide
  have hcolon : Opens ':' := by decide
  have hbrace : Opens '\x7d' := by decide
  simp only [skipBlanks_opens hquote, readString?_rendered, skipBlanks_opens hcolon, hvalue,
    skipBlanks_opens hbrace]

/-- Fields that are read back are read up to the brace, and put in order. -/
theorem readFields?_inner {fields : List (String × Data)} (some_field : fields ≠ [])
    (each : ∀ field ∈ fields, ReadBack depth field.2) (read : List (String × Data))
    (rest : List Char) {fuel : Nat} (hfuel : (innerFields fields).length < fuel) :
    readFields? fuel depth read (innerFields fields ++ '\x7d' :: rest)
      = some (.ofFields (read.reverse ++ fields), rest) := by
  induction fields generalizing read fuel with
  | nil => exact absurd rfl some_field
  | cons field fields ih =>
      obtain ⟨fuel, rfl⟩ := Nat.exists_eq_add_one_of_ne_zero (Nat.ne_zero_of_lt hfuel)
      obtain ⟨name, value⟩ := field
      have hvalue := each (name, value) List.mem_cons_self
      cases fields with
      | nil =>
          rw [innerFields_singleton, List.length_append, List.length_cons] at hfuel
          have hlast := hvalue fuel ('\x7d' :: rest) (closes_cons (Or.inr (Or.inr rfl))) (by omega)
          rw [innerFields_singleton, List.append_assoc, List.cons_append,
            readFields?_last name hlast, ← List.reverse_cons]
      | cons next more =>
          rw [innerFields_cons_cons, List.length_append, List.length_cons, List.length_append,
            List.length_cons] at hfuel
          have hinner : (innerFields (next :: more)).length < fuel := by omega
          have hthis := hvalue fuel (',' :: (innerFields (next :: more) ++ '\x7d' :: rest))
            (closes_cons (Or.inl rfl)) (by omega)
          rw [innerFields_cons_cons, List.append_assoc, List.cons_append, List.append_assoc,
            List.cons_append, readFields?_next name hthis]
          have hmore := ih (List.cons_ne_nil _ _)
            (fun field hmem => each field (List.mem_cons_of_mem _ hmem))
            ((name, value) :: read) hinner
          rw [List.reverse_cons, List.append_assoc] at hmore
          exact hmore

/-- What begins as a number is read as one. -/
theorem readValue?_number (h : c = '-' ∨ asciiDigit c = true) (fuel : Nat) :
    readValue? (fuel + 1) depth (c :: rest) = readNumber? (c :: rest) := by
  have hother (d : Char) (hd : ¬(d = '-' ∨ asciiDigit d = true)) : c ≠ d := by
    rintro rfl
    exact hd h
  rw [readValue?.eq_def]
  dsimp only
  rw [skipBlanks_opens (opens_of_number h)]
  split
  · next heq => exact absurd (List.head_eq_of_cons_eq heq) (hother 'n' (by decide))
  · next heq => exact absurd (List.head_eq_of_cons_eq heq) (hother 't' (by decide))
  · next heq => exact absurd (List.head_eq_of_cons_eq heq) (hother 'f' (by decide))
  · next heq => exact absurd (List.head_eq_of_cons_eq heq) (hother '"' (by decide))
  · next heq => exact absurd (List.head_eq_of_cons_eq heq) (hother '[' (by decide))
  · next heq => exact absurd (List.head_eq_of_cons_eq heq) (hother '\x7b' (by decide))
  · rfl

/-- A text is read as a text. -/
theorem readBack_text (s : String) : ReadBack depth (.text s) := by
  intro fuel rest _ hfuel
  have htext : (render (.text s)).toList = '"' :: (s.toList.flatMap escapeChar ++ ['"']) :=
    toList_renderText s
  rw [htext] at hfuel ⊢
  obtain ⟨fuel, rfl⟩ := Nat.exists_eq_add_one_of_ne_zero (Nat.ne_zero_of_lt hfuel)
  rw [List.cons_append, List.append_assoc, List.singleton_append]
  show (readString? _ [] _).map (fun read => (Data.text read.1, read.2)) = _
  rw [readString?_rendered]
  rfl

/-- What opens no closed list is read as items. -/
theorem readValue?_items (h : Opens c) (fuel : Nat) :
    readValue? (fuel + 1) (depth + 2) ('[' :: c :: rest)
      = readItems? fuel (depth + 1) [] (c :: rest) := by
  rw [readValue?.eq_def]
  have hbracket : Opens '[' := by decide
  have hdepth : ¬ depth + 2 ≤ 1 := by omega
  simp only [skipBlanks_opens hbracket, skipBlanks_opens h, if_neg hdepth]
  split
  · next heq => exact absurd (List.head_eq_of_cons_eq heq) h.2.2.2.2
  · rfl

theorem innerItems_cons (item : Data) (items : List Data) :
    ∃ behind, innerItems (item :: items) = (render item).toList ++ behind := by
  cases items with
  | nil => exact ⟨[], by rw [innerItems_singleton, List.append_nil]⟩
  | cons next items => exact ⟨_, innerItems_cons_cons item next items⟩

theorem innerFields_cons (field : String × Data) (fields : List (String × Data)) :
    ∃ behind, innerFields (field :: fields) = '"' :: behind := by
  cases fields with
  | nil => exact ⟨_, by rw [innerFields_singleton, toList_renderText, List.cons_append]⟩
  | cons next fields =>
      exact ⟨_, by rw [innerFields_cons_cons, toList_renderText, List.cons_append]⟩

/-- A list of items that are read back one level down is read back. -/
theorem readBack_list {items : List Data} (each : ∀ item ∈ items, Plain depth item)
    (back : ∀ item ∈ items, ReadBack (depth + 1) item) : ReadBack (depth + 2) (.list items) := by
  intro fuel rest _ hfuel
  rw [toList_render_list] at hfuel ⊢
  obtain ⟨fuel, rfl⟩ := Nat.exists_eq_add_one_of_ne_zero (Nat.ne_zero_of_lt hfuel)
  rw [List.cons_append, List.append_assoc, List.singleton_append]
  have hinner : (innerItems items).length < fuel := by
    rw [List.length_cons, List.length_append, List.length_singleton] at hfuel
    omega
  cases items with
  | nil => rfl
  | cons item items =>
      have hread := readItems?_inner (List.cons_ne_nil _ _) back [] rest hinner
      obtain ⟨c, more, hcons, hopens⟩ := (each item List.mem_cons_self).opens
      obtain ⟨behind, hbehind⟩ := innerItems_cons item items
      rw [hbehind, hcons, List.cons_append, List.cons_append] at hread ⊢
      rw [readValue?_items hopens]
      exact hread

/-- A record of fields that are read back one level down is read back. -/
theorem readBack_record {fields : List (String × Data)} (ordered : Fields.Ordered fields)
    (back : ∀ field ∈ fields, ReadBack (depth + 1) field.2) :
    ReadBack (depth + 2) (.record fields) := by
  intro fuel rest _ hfuel
  rw [toList_render_record] at hfuel ⊢
  obtain ⟨fuel, rfl⟩ := Nat.exists_eq_add_one_of_ne_zero (Nat.ne_zero_of_lt hfuel)
  rw [List.cons_append, List.append_assoc, List.singleton_append]
  have hinner : (innerFields fields).length < fuel := by
    rw [List.length_cons, List.length_append, List.length_singleton] at hfuel
    omega
  cases fields with
  | nil => rfl
  | cons field fields =>
      have hread := readFields?_inner (List.cons_ne_nil _ _) back [] rest hinner
      rw [List.reverse_nil, List.nil_append, Data.ofFields, ordered.ofList_eq] at hread
      obtain ⟨behind, hbehind⟩ := innerFields_cons field fields
      rw [hbehind, List.cons_append] at hread ⊢
      exact hread

/-- A value that JSON text can say is read from its text as it is. -/
theorem readBack_of_plain (h : Plain depth value) : ReadBack (depth + 1) value := by
  induction h with
  | null depth =>
      intro fuel rest _ hfuel
      obtain ⟨fuel, rfl⟩ := Nat.exists_eq_add_one_of_ne_zero (Nat.ne_zero_of_lt hfuel)
      rfl
  | bool depth b =>
      intro fuel rest _ hfuel
      cases b with
      | true =>
          obtain ⟨fuel, rfl⟩ := Nat.exists_eq_add_one_of_ne_zero (Nat.ne_zero_of_lt hfuel)
          rfl
      | false =>
          obtain ⟨fuel, rfl⟩ := Nat.exists_eq_add_one_of_ne_zero (Nat.ne_zero_of_lt hfuel)
          rfl
  | @int depth n low high =>
      intro fuel rest hrest hfuel
      have hread := readNumber?_render low high hrest
      obtain ⟨c, more, hcons, hc⟩ := head_render_int n
      rw [hcons] at hfuel hread ⊢
      obtain ⟨fuel, rfl⟩ := Nat.exists_eq_add_one_of_ne_zero (Nat.ne_zero_of_lt hfuel)
      rw [List.cons_append, readValue?_number hc]
      exact hread
  | text depth s => exact readBack_text s
  | list each ih => exact readBack_list each ih
  | record ordered each ih => exact readBack_record ordered ih

/-- **ROUND TRIP**: a value that JSON text can say is what its text is parsed to. -/
theorem parse?_render (h : Plain 127 value) : parse? (render value) = some value := by
  have hread := readBack_of_plain h (2 * (render value).toList.length + 2) [] closes_nil
    (by omega)
  rw [List.append_nil] at hread
  rw [parse?, hread]
  rfl

/-- Values that are rendered alike are alike. -/
theorem render_injective {other : Data} (h : Plain 127 value) (hother : Plain 127 other)
    (heq : render value = render other) : value = other := by
  rw [← Option.some_inj, ← parse?_render h, heq, parse?_render hother]

end Json

end Upkeep
