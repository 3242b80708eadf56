import Upkeep.Text.Utf8
import Mathlib.Data.List.Basic

/-! # UTF-8 — characters and where they begin

    The first byte of a character says how the others may go on, and each of
    them only goes on.  So a text that was encoded is decoded as it was
    (`decodeLossy_encodeUtf8`), and there are as many characters in it as bytes
    that begin one.

    Any other bytes are decoded to no fewer characters than bytes in them begin
    one, and to more if the first of them goes on with a character that is not
    there (`starts_lt_length`).  So if bytes are cut into pieces and what the
    pieces are decoded to is no longer than the text, then no cut is inside of a
    character. -/

namespace Upkeep

/-- The number of bytes that begin a character. -/
def starts (bytes : Bytes) : Nat := bytes.countP fun b => !continues b

/-! ## One character -/

section Character

variable {n : Nat}

theorem toNat_ofNat_byte (h : n < 256) : (UInt8.ofNat n).toNat = n := by
  rw [UInt8.toNat_ofNat']
  exact Nat.mod_eq_of_lt h

/-- What a first byte announces, told by its number. -/
theorem leadByte_ofNat (h : n < 256) : leadByte (UInt8.ofNat n) =
    if n < 0x80 then some (0, n, 0x80, 0xBF)
    else if 0xC2 ≤ n ∧ n ≤ 0xDF then some (1, n - 0xC0, 0x80, 0xBF)
    else if n = 0xE0 then some (2, 0, 0xA0, 0xBF)
    else if n = 0xED then some (2, 0xD, 0x80, 0x9F)
    else if 0xE1 ≤ n ∧ n ≤ 0xEF then some (2, n - 0xE0, 0x80, 0xBF)
    else if n = 0xF0 then some (3, 0, 0x90, 0xBF)
    else if 0xF1 ≤ n ∧ n ≤ 0xF3 then some (3, n - 0xF0, 0x80, 0xBF)
    else if n = 0xF4 then some (3, 4, 0x80, 0x8F)
    else none := by
  have hn := toNat_ofNat_byte h
  have hlt (m : UInt8) : (UInt8.ofNat n < m) = (n < m.toNat) := by
    rw [UInt8.lt_iff_toNat_lt, hn]
  have hle (m : UInt8) : (UInt8.ofNat n ≤ m) = (n ≤ m.toNat) := by
    rw [UInt8.le_iff_toNat_le, hn]
  have hge (m : UInt8) : (m ≤ UInt8.ofNat n) = (m.toNat ≤ n) := by
    rw [UInt8.le_iff_toNat_le, hn]
  have heq (m : UInt8) : (UInt8.ofNat n = m) = (n = m.toNat) := by
    rw [← UInt8.toNat_inj, hn]
  simp only [leadByte, hn, hlt, hle, hge, heq, Bool.and_eq_true, decide_eq_true_eq]
  rfl

/-- A byte that fits is taken. -/
theorem tailBytes_ofNat {low high : UInt8} (h : n < 256) (hlow : low.toNat ≤ n)
    (hhigh : n ≤ high.toNat) (count code : Nat) (rest : Bytes) :
    tailBytes (count + 1) code low high (UInt8.ofNat n :: rest)
      = tailBytes count (code * 64 + (n - 0x80)) 0x80 0xBF rest := by
  have hn := toNat_ofNat_byte h
  have hfits : (low ≤ UInt8.ofNat n && UInt8.ofNat n ≤ high) = true := by
    rw [Bool.and_eq_true, decide_eq_true_eq, decide_eq_true_eq, UInt8.le_iff_toNat_le,
      UInt8.le_iff_toNat_le, hn]
    exact ⟨hlow, hhigh⟩
  rw [tailBytes, if_pos hfits, hn]

theorem continues_ofNat (h : n < 256) :
    continues (UInt8.ofNat n) = true ↔ 0x80 ≤ n ∧ n ≤ 0xBF := by
  rw [continues, toNat_ofNat_byte h, Bool.and_eq_true, decide_eq_true_eq, decide_eq_true_eq]

/-- A byte with any other number begins a character. -/
theorem not_continues_ofNat (h : n < 256) (hother : n < 0x80 ∨ 0xBF < n) :
    continues (UInt8.ofNat n) = false := by
  rw [Bool.eq_false_iff, Ne, continues_ofNat h]
  omega

/-- The byte that goes on with the last six bits of a number. -/
def tailByte (n : Nat) : UInt8 := UInt8.ofNat (n % 64 + 0x80)

theorem continues_tailByte (n : Nat) : continues (tailByte n) = true := by
  rw [tailByte, continues_ofNat (by omega)]
  omega

theorem tailBytes_tailByte (n count code : Nat) (rest : Bytes) :
    tailBytes (count + 1) code 0x80 0xBF (tailByte n :: rest)
      = tailBytes count (code * 64 + n % 64) 0x80 0xBF rest := by
  have hlow : (0x80 : UInt8).toNat ≤ n % 64 + 0x80 := Nat.le_add_left ..
  have hhigh : n % 64 + 0x80 ≤ (0xBF : UInt8).toNat := by
    show _ ≤ 0xBF
    omega
  rw [tailByte, tailBytes_ofNat (by omega) hlow hhigh, Nat.add_sub_cancel]

/-- The first byte begins a character, the others go on with it, and together they are read as
the character with this number. -/
structure Spells (n : Nat) (first : UInt8) (tail : Bytes) : Prop where
  begins : continues first = false
  continues : ∀ b ∈ tail, continues b = true
  read : ∀ rest, firstChar first (tail ++ rest) = (some (Char.ofNat n), rest)

theorem spells_one (h : n ≤ 0x7F) : Spells n (UInt8.ofNat n) [] := by
  refine ⟨?_, List.forall_mem_nil _, fun rest => ?_⟩
  · exact not_continues_ofNat (by omega) (by omega)
  · rw [firstChar, leadByte_ofNat (by omega), if_pos (by omega)]
    rfl

theorem spells_two (hlow : 0x7F < n) (hhigh : n ≤ 0x7FF) :
    Spells n (UInt8.ofNat (n / 64 % 0x20 + 0xC0)) [tailByte n] := by
  refine ⟨?_, ?_, fun rest => ?_⟩
  · exact not_continues_ofNat (by omega) (by omega)
  · exact fun b hb => List.mem_singleton.mp hb ▸ continues_tailByte n
  · have hcode : (n / 64 % 0x20 + 0xC0 - 0xC0) * 64 + n % 64 = n := by omega
    rw [firstChar, leadByte_ofNat (by omega), if_neg (by omega), if_pos (by omega)]
    dsimp only
    rw [List.singleton_append, tailBytes_tailByte, hcode]
    rfl

/-- The first byte of three confines the second one so that no surrogate and no number that two
bytes can hold is spelled. -/
theorem leadByte_three (hlow : 0x7FF < n) (hhigh : n ≤ 0xFFFF) (hscalar : n < 0xD800 ∨ 0xDFFF < n) :
    ∃ low high, leadByte (UInt8.ofNat (n / 4096 % 0x10 + 0xE0)) = some (2, n / 4096, low, high) ∧
      low.toNat ≤ n / 64 % 64 + 0x80 ∧ n / 64 % 64 + 0x80 ≤ high.toNat := by
  rw [leadByte_ofNat (by omega), if_neg (by omega), if_neg (by omega)]
  by_cases hfirst : n / 4096 = 0
  · rw [if_pos (by omega), hfirst]
    exact ⟨_, _, rfl, by show 0xA0 ≤ _; omega, by show _ ≤ 0xBF; omega⟩
  · rw [if_neg (by omega)]
    by_cases hsurrogate : n / 4096 = 0xD
    · rw [if_pos (by omega), hsurrogate]
      exact ⟨_, _, rfl, by show 0x80 ≤ _; omega, by show _ ≤ 0x9F; omega⟩
    · have hcode : n / 4096 % 0x10 + 0xE0 - 0xE0 = n / 4096 := by omega
      rw [if_neg (by omega), if_pos (by omega), hcode]
      exact ⟨_, _, rfl, by show 0x80 ≤ _; omega, by show _ ≤ 0xBF; omega⟩

theorem spells_three (hlow : 0x7FF < n) (hhigh : n ≤ 0xFFFF)
    (hscalar : n < 0xD800 ∨ 0xDFFF < n) :
    Spells n (UInt8.ofNat (n / 4096 % 0x10 + 0xE0)) [tailByte (n / 64), tailByte n] := by
  refine ⟨?_, ?_, fun rest => ?_⟩
  · exact not_continues_ofNat (by omega) (by omega)
  · simp [continues_tailByte]
  · obtain ⟨low, high, hlead, hfit, hfit'⟩ := leadByte_three hlow hhigh hscalar
    -- the first byte confines the second one, and the third one only has to go on
    have hcode : (n / 4096 * 64 + (n / 64 % 64 + 0x80 - 0x80)) * 64 + n % 64 = n := by omega
    rw [firstChar, hlead]
    dsimp only
    rw [List.cons_append, tailByte, tailBytes_ofNat (by omega) hfit hfit', List.singleton_append,
      tailBytes_tailByte, hcode]
    rfl

/-- The first byte of four confines the second one to numbers that need four bytes. -/
theorem leadByte_four (hlow : 0xFFFF < n) (hhigh : n < 0x110000) :
    ∃ low high, leadByte (UInt8.ofNat (n / 262144 % 0x08 + 0xF0))
        = some (3, n / 262144, low, high) ∧
      low.toNat ≤ n / 4096 % 64 + 0x80 ∧ n / 4096 % 64 + 0x80 ≤ high.toNat := by
  rw [leadByte_ofNat (by omega), if_neg (by omega), if_neg (by omega), if_neg (by omega),
    if_neg (by omega), if_neg (by omega)]
  by_cases hfirst : n / 262144 = 0
  · rw [if_pos (by omega), hfirst]
    exact ⟨_, _, rfl, by show 0x90 ≤ _; omega, by show _ ≤ 0xBF; omega⟩
  · rw [if_neg (by omega)]
    by_cases hlast : n / 262144 = 4
    · rw [if_neg (by omega), if_pos (by omega), hlast]
      exact ⟨_, _, rfl, by show 0x80 ≤ _; omega, by show _ ≤ 0x8F; omega⟩
    · have hcode : n / 262144 % 0x08 + 0xF0 - 0xF0 = n / 262144 := by omega
      rw [if_pos (by omega), hcode]
      exact ⟨_, _, rfl, by show 0x80 ≤ _; omega, by show _ ≤ 0xBF; omega⟩

theorem spells_four (hlow : 0xFFFF < n) (hhigh : n < 0x110000) :
    Spells n (UInt8.ofNat (n / 262144 % 0x08 + 0xF0))
      [tailByte (n / 4096), tailByte (n / 64), tailByte n] := by
  refine ⟨?_, ?_, fun rest => ?_⟩
  · exact not_continues_ofNat (by omega) (by omega)
  · simp [continues_tailByte]
  · obtain ⟨low, high, hlead, hfit, hfit'⟩ := leadByte_four hlow hhigh
    have hcode : ((n / 262144 * 64 + (n / 4096 % 64 + 0x80 - 0x80)) * 64 + n / 64 % 64) * 64
        + n % 64 = n := by omega
    rw [firstChar, hlead]
    dsimp only
    rw [List.cons_append, tailByte, tailBytes_ofNat (by omega) hfit hfit', List.cons_append,
      tailBytes_tailByte, List.singleton_append, tailBytes_tailByte, hcode]
    rfl

/-- **CHARACTER**: the bytes of a character spell it. -/
theorem encodeChar_spells (c : Char) :
    ∃ first tail, encodeChar c = first :: tail ∧ Spells c.toNat first tail := by
  have hscalar : c.toNat < 0xD800 ∨ (0xDFFF < c.toNat ∧ c.toNat < 0x110000) := c.valid
  rw [encodeChar, String.utf8EncodeChar]
  have hval : c.val.toNat = c.toNat := rfl
  simp only [hval]
  split
  · next hone => exact ⟨_, _, rfl, spells_one hone⟩
  · split
    · next hone htwo =>
      exact ⟨_, _, rfl, spells_two (by omega) htwo⟩
    · split
      · next htwo hthree => exact ⟨_, _, rfl, spells_three (by omega) hthree (by omega)⟩
      · exact ⟨_, _, rfl, spells_four (by omega) (by omega)⟩

end Character

/-! ## Encoded texts -/

theorem encodeUtf8_append (before text : List Char) :
    encodeUtf8 (before ++ text) = encodeUtf8 before ++ encodeUtf8 text := List.flatMap_append ..

/-- A byte below 0x80 is the whole of its character. -/
theorem char_of_ascii_byte {c : Char} {b : UInt8} (h : b ∈ encodeChar c)
    (hascii : b.toNat < 0x80) : Char.ofNat b.toNat = c := by
  obtain ⟨first, tail, hbytes, hspells⟩ := encodeChar_spells c
  rw [hbytes, List.mem_cons] at h
  rcases h with rfl | htail
  · have hlead : leadByte b = some (0, b.toNat, 0x80, 0xBF) := by
      rw [leadByte, if_pos]
      exact UInt8.lt_iff_toNat_lt.mpr hascii
    have hread := congrArg Prod.fst (hspells.read [])
    rw [firstChar, hlead, Char.ofNat_toNat] at hread
    exact Option.some.inj hread
  · have hcontinues := hspells.continues b htail
    rw [continues, Bool.and_eq_true, decide_eq_true_eq] at hcontinues
    omega

/-- So it is a character of the text. -/
theorem mem_of_ascii_byte {text : List Char} {b : UInt8} (h : b ∈ encodeUtf8 text)
    (hascii : b.toNat < 0x80) : Char.ofNat b.toNat ∈ text := by
  obtain ⟨c, hc, hb⟩ := List.mem_flatMap.mp h
  rwa [char_of_ascii_byte hb hascii]

theorem decodeSteps_cons (b : UInt8) (rest : Bytes) :
    decodeSteps (b :: rest) = (firstChar b rest).1 :: decodeSteps (firstChar b rest).2 := by
  rw [decodeSteps]

theorem decodeSteps_encodeUtf8 (text : List Char) :
    decodeSteps (encodeUtf8 text) = text.map some := by
  induction text with
  | nil =>
      show decodeSteps [] = []
      rw [decodeSteps]
  | cons c text ih =>
      obtain ⟨first, tail, hbytes, hspells⟩ := encodeChar_spells c
      show decodeSteps (encodeChar c ++ encodeUtf8 text) = some c :: text.map some
      rw [hbytes, List.cons_append, decodeSteps_cons, hspells.read, Char.ofNat_toNat, ih]

/-- **DECODING**: what was encoded is decoded as it was. -/
theorem decodeLossy_encodeUtf8 (text : List Char) : decodeLossy (encodeUtf8 text) = text := by
  rw [decodeLossy, decodeSteps_encodeUtf8, List.map_map]
  exact List.map_id text

/-- The bytes of a text are well formed. -/
theorem decodeUtf8?_encodeUtf8 (text : List Char) : decodeUtf8? (encodeUtf8 text) = some text := by
  rw [decodeUtf8?, decodeSteps_encodeUtf8]
  induction text with
  | nil => rfl
  | cons c text ih =>
      rw [List.map_cons, List.mapM_cons, ih]
      rfl

theorem encodeUtf8_injective {text other : List Char} (h : encodeUtf8 text = encodeUtf8 other) :
    text = other := by
  rw [← decodeLossy_encodeUtf8 text, h, decodeLossy_encodeUtf8]

theorem starts_append (before bytes : Bytes) :
    starts (before ++ bytes) = starts before + starts bytes := List.countP_append ..

theorem starts_cons (b : UInt8) (rest : Bytes) :
    starts (b :: rest) = starts rest + if continues b then 0 else 1 := by
  rw [starts, List.countP_cons]
  cases continues b with
  | true => rfl
  | false => rfl

theorem starts_of_continues {bytes : Bytes} (h : ∀ b ∈ bytes, continues b = true) :
    starts bytes = 0 := by
  rw [starts, List.countP_eq_zero]
  intro b hb
  rw [h b hb]
  exact Bool.false_ne_true

/-- There are as many characters as bytes that begin one. -/
theorem starts_encodeUtf8 (text : List Char) : starts (encodeUtf8 text) = text.length := by
  induction text with
  | nil => rfl
  | cons c text ih =>
      obtain ⟨first, tail, hbytes, hspells⟩ := encodeChar_spells c
      show starts (encodeChar c ++ encodeUtf8 text) = text.length + 1
      rw [starts_append, ih, hbytes, starts_cons, hspells.begins,
        starts_of_continues hspells.continues, Nat.add_comm]
      rfl

/-! ## Any bytes -/

/-- What is announced, if anything, are bytes that go on. -/
def Confined (lead : Option (Nat × Nat × UInt8 × UInt8)) : Prop :=
  ∀ found ∈ lead, 0x80 ≤ found.2.2.1.toNat ∧ found.2.2.2.toNat ≤ 0xBF

/-- Whatever a first byte announces are bytes that go on. -/
theorem leadByte_confined (b : UInt8) : Confined (leadByte b) := by
  have hsome {count code : Nat} {low high : UInt8} (hlow : 0x80 ≤ low.toNat)
      (hhigh : high.toNat ≤ 0xBF) : Confined (some (count, code, low, high)) := by
    intro found hfound
    obtain rfl := Option.some.inj hfound
    exact ⟨hlow, hhigh⟩
  rw [leadByte]
  repeat' split
  iterate 8 · exact hsome (by decide) (by decide)
  · exact fun _ hfound => nomatch hfound

/-- Of the bytes behind a first one only such are taken that go on. -/
theorem starts_tailBytes {low high : UInt8} (hlow : 0x80 ≤ low.toNat) (hhigh : high.toNat ≤ 0xBF)
    (count code : Nat) (bytes : Bytes) :
    starts (tailBytes count code low high bytes).2 = starts bytes := by
  induction count generalizing code low high bytes with
  | zero => rfl
  | succ count ih =>
      cases bytes with
      | nil => rfl
      | cons b rest =>
          rw [tailBytes]
          split
          · next hfits =>
            -- whatever fits goes on with the character, so nothing that begins one is taken
            rw [Bool.and_eq_true, decide_eq_true_eq, decide_eq_true_eq, UInt8.le_iff_toNat_le,
              UInt8.le_iff_toNat_le] at hfits
            have hcontinues : continues b = true := by
              rw [continues, Bool.and_eq_true, decide_eq_true_eq, decide_eq_true_eq]
              omega
            rw [ih (by decide) (by decide), starts_cons, hcontinues]
            rfl
          · rfl

theorem starts_firstChar (b : UInt8) (rest : Bytes) :
    starts (firstChar b rest).2 = starts rest := by
  rw [firstChar]
  cases hlead : leadByte b with
  | none => rfl
  | some found =>
      obtain ⟨count, code, low, high⟩ := found
      obtain ⟨hlow, hhigh⟩ := leadByte_confined b _ hlead
      exact starts_tailBytes hlow hhigh count code rest

/-- Bytes are decoded to as many characters as begin in them, or to more. -/
theorem starts_le_length (bytes : Bytes) : starts bytes ≤ (decodeLossy bytes).length := by
  rw [decodeLossy, List.length_map]
  fun_induction decodeSteps bytes with
  | case1 => exact Nat.le_refl _
  | case2 b rest hle ih =>
      -- what is taken with a byte begins no character, so the rest has as many as before
      rw [starts_firstChar] at ih
      rw [List.length_cons, starts_cons]
      split
      · omega
      · omega

/-- **TORN**: they are decoded to more if the first byte goes on with a character that is not
there. -/
theorem starts_lt_length {b : UInt8} (h : continues b = true) (rest : Bytes) :
    starts (b :: rest) < (decodeLossy (b :: rest)).length := by
  have hrest := starts_le_length (firstChar b rest).2
  rw [starts_firstChar, decodeLossy, List.length_map] at hrest
  rw [decodeLossy, List.length_map, decodeSteps_cons, List.length_cons, starts_cons, h]
  exact Nat.lt_succ_of_le hrest

end Upkeep
