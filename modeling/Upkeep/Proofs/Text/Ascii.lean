import Upkeep.Text.Lines
import Mathlib.Data.List.Basic

/-! # ASCII text — characters are bytes

    Offsets count bytes, and an offset inside of a character gives nothing.  In
    ASCII text every offset is one between characters, so a slice between two
    offsets is the text between them (`sliceBytes?_ascii`), and what stands
    behind it may be any text. -/

namespace Upkeep

/-- Text of ASCII characters. -/
def Ascii (text : List Char) : Prop := ∀ c ∈ text, c.toNat < 128

instance (text : List Char) : Decidable (Ascii text) :=
  List.decidableBAll (fun c : Char => c.toNat < 128) text

variable {before text rest : List Char} {c : Char}

/-- An ASCII character is one byte. -/
theorem utf8Size_ascii (h : c.toNat < 128) : c.utf8Size = 1 := by
  rw [Char.utf8Size, if_pos]
  show c.val.toNat ≤ 127
  exact Nat.le_of_lt_succ h

theorem Ascii.nil : Ascii [] := List.forall_mem_nil _

theorem Ascii.append (hbefore : Ascii before) (htext : Ascii text) : Ascii (before ++ text) := by
  intro c hc
  rcases List.mem_append.mp hc with hc | hc
  · exact hbefore c hc
  · exact htext c hc

theorem Ascii.head (h : Ascii (c :: text)) : c.toNat < 128 := h c List.mem_cons_self

theorem Ascii.tail (h : Ascii (c :: text)) : Ascii text := fun d hd =>
  h d (List.mem_cons_of_mem _ hd)

/-- Bytes before and behind add up. -/
theorem byteLength_append (before text : List Char) :
    byteLength (before ++ text) = byteLength before + byteLength text := by
  induction before with
  | nil => exact (Nat.zero_add _).symm
  | cons c before ih =>
      show c.utf8Size + byteLength (before ++ text)
        = (c.utf8Size + byteLength before) + byteLength text
      rw [ih, Nat.add_assoc]

/-- ASCII text has as many bytes as characters. -/
theorem byteLength_ascii (h : Ascii text) : byteLength text = text.length := by
  induction text with
  | nil => rfl
  | cons c text ih =>
      show c.utf8Size + byteLength text = text.length + 1
      rw [ih h.tail, utf8Size_ascii h.head, Nat.add_comm]

/-- Behind the bytes of a text stands what comes after it. -/
theorem dropBytes?_append (before rest : List Char) :
    dropBytes? (byteLength before) (before ++ rest) = some rest := by
  induction before with
  | nil =>
      show dropBytes? 0 rest = some rest
      rw [dropBytes?]
  | cons c before ih =>
      have hpos := c.utf8Size_pos
      have hsum : byteLength (c :: before) = c.utf8Size + byteLength before := rfl
      obtain ⟨n, hn⟩ := Nat.exists_eq_add_one_of_ne_zero
        (Nat.ne_of_gt (hsum ▸ Nat.add_pos_left hpos _))
      have hrest : n + 1 - c.utf8Size = byteLength before := by omega
      rw [hn, List.cons_append, dropBytes?, if_pos (by omega), hrest]
      exact ih

/-- What is dropped is the ASCII text in front. -/
theorem dropBytes?_ascii (h : Ascii before) (rest : List Char) :
    dropBytes? before.length (before ++ rest) = some rest := by
  rw [← byteLength_ascii h]
  exact dropBytes?_append before rest

/-- What is taken is the ASCII text in front. -/
theorem takeBytes?_ascii (h : Ascii text) (rest : List Char) :
    takeBytes? text.length (text ++ rest) = some text := by
  induction text with
  | nil =>
      show takeBytes? 0 rest = some []
      rw [takeBytes?]
  | cons c text ih =>
      have hone := utf8Size_ascii h.head
      rw [List.length_cons, List.cons_append, takeBytes?, hone, if_pos (Nat.le_add_left 1 _),
        Nat.add_sub_cancel, ih h.tail]
      rfl

/-- **SLICE**: between two offsets stands the text between them. -/
theorem sliceBytes?_ascii (hbefore : Ascii before) (htext : Ascii text) (rest : List Char) :
    sliceBytes? before.length (before ++ text).length (before ++ (text ++ rest)) = some text := by
  have hle : before.length ≤ (before ++ text).length := by
    rw [List.length_append]
    exact Nat.le_add_right _ _
  have hlength : (before ++ text).length - before.length = text.length := by
    rw [List.length_append, Nat.add_sub_cancel_left]
  rw [sliceBytes?, if_pos hle, dropBytes?_ascii hbefore, Option.bind_some, hlength,
    takeBytes?_ascii htext]

end Upkeep
