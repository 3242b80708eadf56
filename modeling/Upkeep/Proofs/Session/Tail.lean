import Upkeep.Proofs.Text.Ascii
import Upkeep.Proofs.Text.Utf8
import Upkeep.Session.Buffer

/-! # The tail — the end of what nobody has taken

    A wait that ends in vain tells the end of the text that is unread, at most so
    many bytes of it.  A cut at a fixed number of bytes may fall inside of a
    character, so the tail is the longest end that fits and begins where a
    character does (`lastBytes_longest`).

    The same end is found from the other side: of the offsets from which at most
    so many bytes are left, it begins at the first one that is a boundary of
    characters (`firstBoundary_longest`).  The end of the text is a boundary, so
    there is always one, and it is met by going from byte to byte
    (`seekBoundary_first`).  That is how a buffer finds its tail, so the tail is
    the longest end that fits (`Buffer.tail_eq`); it is read off, and nothing is
    taken. -/

namespace Upkeep

variable {limit : Nat} {text other : List Char}

/-! ## The longest beginning -/

theorem firstBytes_prefix (limit : Nat) (text : List Char) : firstBytes limit text <+: text := by
  induction text generalizing limit with
  | nil => exact List.prefix_refl []
  | cons c rest ih =>
      rw [firstBytes]
      split
      · exact (List.prefix_cons_inj c).mpr (ih _)
      · exact List.nil_prefix

theorem byteLength_cons (c : Char) (text : List Char) :
    byteLength (c :: text) = c.utf8Size + byteLength text := rfl

/-- A beginning that is taken fits. -/
theorem byteLength_firstBytes_le (limit : Nat) (text : List Char) :
    byteLength (firstBytes limit text) ≤ limit := by
  induction text generalizing limit with
  | nil => exact Nat.zero_le limit
  | cons c rest ih =>
      rw [firstBytes]
      split
      · next hfits =>
        have hrest := ih (limit - c.utf8Size)
        rw [byteLength_cons]
        omega
      · exact Nat.zero_le limit

/-- Every beginning that fits is a beginning of the one that is taken. -/
theorem prefix_firstBytes (h : other <+: text) (hfits : byteLength other ≤ limit) :
    other <+: firstBytes limit text := by
  induction text generalizing limit other with
  | nil => exact h
  | cons c rest ih =>
      cases other with
      | nil => exact List.nil_prefix
      | cons d other =>
          obtain ⟨rfl, hrest⟩ := List.cons_prefix_cons.mp h
          rw [byteLength_cons] at hfits
          rw [firstBytes, if_pos (by omega)]
          exact (List.prefix_cons_inj d).mpr (ih hrest (by omega))

/-! ## The longest end -/

theorem byteLength_reverse (text : List Char) : byteLength text.reverse = byteLength text := by
  induction text with
  | nil => rfl
  | cons c text ih =>
      rw [List.reverse_cons, byteLength_append, ih, byteLength_cons, Nat.add_comm]
      rfl

/-- An end of a text that is at most so many bytes long, and of which every other such end is an
    end. -/
structure LongestEnd (limit : Nat) (text ending : List Char) : Prop where
  isEnd : ending <:+ text
  fits : byteLength ending ≤ limit
  longest : ∀ other, other <:+ text → byteLength other ≤ limit → other <:+ ending

/-- **TAIL**: what is read from the end of a text is the longest end that fits. -/
theorem lastBytes_longest (limit : Nat) (text : List Char) :
    LongestEnd limit text (lastBytes limit text) := by
  constructor
  · have hprefix := firstBytes_prefix limit text.reverse
    rw [← List.reverse_suffix, List.reverse_reverse] at hprefix
    exact hprefix
  · rw [lastBytes, byteLength_reverse]
    exact byteLength_firstBytes_le limit text.reverse
  · intro other hother hfits
    rw [← List.reverse_prefix] at hother
    rw [← byteLength_reverse] at hfits
    have hprefix := prefix_firstBytes hother hfits
    rw [← List.reverse_suffix, List.reverse_reverse] at hprefix
    exact hprefix

namespace LongestEnd

variable {ending : List Char}

end LongestEnd

/-! ## Boundaries -/

/-- A character begins at an offset of the bytes, or the bytes end there. -/
def Boundary (bytes : Bytes) (offset : Nat) : Prop :=
  offset = bytes.length ∨ ∃ b, bytes[offset]? = some b ∧ continues b = false

/-- The first boundary that is met on the way from an offset on. -/
structure FirstBoundary (bytes : Bytes) (offset start : Nat) : Prop where
  reached : offset ≤ start
  boundary : Boundary bytes start
  first : ∀ other, offset ≤ other → other < start → ¬ Boundary bytes other

theorem length_encodeUtf8 (text : List Char) : (encodeUtf8 text).length = byteLength text := by
  induction text with
  | nil => rfl
  | cons c text ih =>
      have hchar : (encodeChar c).length = c.utf8Size := String.length_utf8EncodeChar c
      show (encodeChar c ++ encodeUtf8 text).length = _
      rw [List.length_append, hchar, ih, byteLength_cons]

/-- Between two texts there is a boundary. -/
theorem boundary_between (before text : List Char) :
    Boundary (encodeUtf8 (before ++ text)) (encodeUtf8 before).length := by
  rw [encodeUtf8_append]
  cases text with
  | nil => exact Or.inl (by rw [List.length_append]; rfl)
  | cons c text =>
      obtain ⟨first, tail, hbytes, hspells⟩ := encodeChar_spells c
      refine Or.inr ⟨first, ?_, hspells.begins⟩
      show (encodeUtf8 before ++ (encodeChar c ++ encodeUtf8 text))[_]? = some first
      rw [List.getElem?_append_right (Nat.le_refl _), Nat.sub_self, hbytes]
      rfl

/-- Every boundary is between two texts: a byte inside of a character goes on with it. -/
theorem split_of_boundary {offset : Nat} (h : Boundary (encodeUtf8 text) offset) :
    ∃ before behind, text = before ++ behind ∧ (encodeUtf8 before).length = offset := by
  rcases h with rfl | ⟨b, hb, hbegins⟩
  · exact ⟨text, [], (List.append_nil text).symm, rfl⟩
  · induction text generalizing offset with
    | nil => exact nomatch hb
    | cons c text ih =>
        obtain ⟨first, tail, hbytes, hspells⟩ := encodeChar_spells c
        have hsplit : encodeUtf8 (c :: text) = encodeChar c ++ encodeUtf8 text := rfl
        rw [hsplit] at hb
        by_cases hinside : offset < (encodeChar c).length
        · cases offset with
          | zero => exact ⟨[], c :: text, rfl, rfl⟩
          | succ offset =>
              rw [List.getElem?_append_left hinside, hbytes, List.getElem?_cons_succ] at hb
              rw [hspells.continues b (List.mem_of_getElem? hb)] at hbegins
              exact nomatch hbegins
        · rw [List.getElem?_append_right (Nat.le_of_not_lt hinside)] at hb
          obtain ⟨before, behind, rfl, hlength⟩ := ih hb
          refine ⟨c :: before, behind, rfl, ?_⟩
          show (encodeChar c ++ encodeUtf8 before).length = offset
          rw [List.length_append, hlength]
          omega

/-- **SEARCH**: the longest end that fits begins at the first boundary from which at most so many
    bytes are left. -/
theorem firstBoundary_longest {ending : List Char} (h : LongestEnd limit text ending) :
    ∃ start, FirstBoundary (encodeUtf8 text) ((encodeUtf8 text).length - limit) start ∧
      encodeUtf8 ending = (encodeUtf8 text).drop start := by
  obtain ⟨before, rfl⟩ := h.isEnd
  have hfits := h.fits
  have hbytes : encodeUtf8 (before ++ ending) = encodeUtf8 before ++ encodeUtf8 ending :=
    encodeUtf8_append before ending
  have hlength : (encodeUtf8 (before ++ ending)).length
      = (encodeUtf8 before).length + byteLength ending := by
    rw [hbytes, List.length_append, length_encodeUtf8 ending]
  refine ⟨(encodeUtf8 before).length, ⟨by omega, boundary_between before ending, ?_⟩, ?_⟩
  · intro offset hreached hearlier hboundary
    -- an end from an earlier boundary on would fit as well, and be a longer one
    obtain ⟨front, behind, hsplit, hfront⟩ := split_of_boundary hboundary
    have hbehind : byteLength behind + offset = (encodeUtf8 (before ++ ending)).length := by
      rw [hsplit, encodeUtf8_append, List.length_append, hfront, length_encodeUtf8, Nat.add_comm]
    have hlonger : behind <:+ ending := h.longest behind ⟨front, hsplit.symm⟩ (by omega)
    obtain ⟨between, rfl⟩ := hlonger
    rw [byteLength_append] at hlength
    omega
  · rw [hbytes, List.drop_left]

/-! ## The way to a boundary -/

/-- There is one first boundary. -/
theorem FirstBoundary.unique {bytes : Bytes} {offset start other : Nat}
    (h : FirstBoundary bytes offset start) (hother : FirstBoundary bytes offset other) :
    start = other := by
  rcases Nat.lt_trichotomy start other with hlt | heq | hgt
  · exact absurd h.boundary (hother.first start h.reached hlt)
  · exact heq
  · exact absurd hother.boundary (h.first other hother.reached hgt)

namespace Buffer

theorem isBoundary_iff {bytes : Bytes} {offset : Nat} :
    isBoundary bytes offset = true ↔ Boundary bytes offset := by
  rw [isBoundary, Boundary]
  cases hbyte : bytes[offset]? with
  | none => simp
  | some b =>
      have hlt : offset < bytes.length := (List.getElem?_eq_some_iff.mp hbyte).1
      simp [Nat.ne_of_lt hlt]

/-- **WAY**: going from byte to byte, the first boundary is met before the bytes are over. -/
theorem seekBoundary_first {bytes : Bytes} {steps offset : Nat} (hoffset : offset ≤ bytes.length)
    (hsteps : bytes.length ≤ offset + steps) :
    FirstBoundary bytes offset (seekBoundary bytes steps offset) := by
  induction steps generalizing offset with
  | zero =>
      have hend : offset = bytes.length := Nat.le_antisymm hoffset hsteps
      exact ⟨Nat.le_refl _, Or.inl hend, fun other hle hlt => absurd hle (Nat.not_le.mpr hlt)⟩
  | succ steps ih =>
      rw [seekBoundary]
      split
      · next hhere =>
        exact ⟨Nat.le_refl _, isBoundary_iff.mp hhere,
          fun other hle hlt => absurd hle (Nat.not_le.mpr hlt)⟩
      · next hnone =>
        rw [isBoundary_iff] at hnone
        have hinside : offset ≠ bytes.length := fun hend => hnone (Or.inl hend)
        have hnext : FirstBoundary bytes (offset + 1) (seekBoundary bytes steps (offset + 1)) :=
          ih (by omega) (by omega)
        refine ⟨Nat.le_of_succ_le hnext.reached, hnext.boundary, ?_⟩
        intro other hle hlt hother
        rcases Nat.eq_or_lt_of_le hle with rfl | hlater
        · exact hnone hother
        · exact hnext.first other hlater hlt hother

/-- The tail is the longest end that fits. -/
theorem tail_eq (buffer : Buffer) (limit : Nat) :
    buffer.tail limit = lastBytes limit buffer.unread := by
  have hlongest := lastBytes_longest limit buffer.unread
  obtain ⟨start, hfirst, hdrop⟩ := firstBoundary_longest hlongest
  obtain ⟨before, hsplit⟩ := hlongest.isEnd
  have hseek : seekBoundary (encodeUtf8 buffer.unread) limit
      ((encodeUtf8 buffer.unread).length - limit) = start :=
    (seekBoundary_first (Nat.sub_le _ _) (by omega)).unique hfirst
  -- as many bytes are left behind the boundary as the end has
  have hstart : start = byteLength before := by
    have hlength := congrArg List.length hdrop
    have hall := congrArg byteLength hsplit
    have hbound : start ≤ (encodeUtf8 buffer.unread).length := by
      rcases hfirst.boundary with hend | ⟨b, hb, -⟩
      · exact Nat.le_of_eq hend
      · exact Nat.le_of_lt (List.getElem?_eq_some_iff.mp hb).1
    rw [List.length_drop, length_encodeUtf8, length_encodeUtf8] at hlength
    rw [length_encodeUtf8] at hbound
    rw [byteLength_append] at hall
    omega
  rw [tail, hseek, hstart]
  conv_lhs => rw [← hsplit]
  rw [dropBytes?_append]
  rfl

end Buffer

/-! ## The tail of a buffer -/

end Upkeep
