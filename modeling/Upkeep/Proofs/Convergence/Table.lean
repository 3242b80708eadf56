import Upkeep.Convergence.Basic
import Upkeep.Proofs.Convergence.Columns
import Upkeep.Proofs.Data.Fields
import Upkeep.Proofs.Text.Lines

/-! # The table of slots — what is laid out is read

    `Row.Laid` says how a row stands under a rule: its slot before the second
    column, its kind in the second one and its state in the third one, whatever
    follows in others.  Rows may be short, slots may be indented and cells may be
    empty.  `Shows` says how a table stands in a text: behind any lines that are
    no header, and before the end or a blank line and anything.

    From such a text exactly the nodes of the rows are read
    (`ofTable_shows`), and the device has converged exactly if there are rows
    and all their states are accepted (`read_inverts_layout`). -/

namespace Upkeep

namespace Inventory

/-- A row of the table: a slot, which has a name, and the kind and the state of the node in it. -/
structure Row where
  slot : Cell
  kind : Cell
  state : Cell
  named : slot.text ≠ []

/-- The node of a row, under its slot. -/
def Row.entry (row : Row) : String × Node :=
  (row.slot.string, ⟨row.kind.string, row.state.string⟩)

/-- The state goes up to the fourth column, or to the end of the line if there is none. -/
def Rule.StateEnds (rule : Rule) (text behind : Text) : Prop :=
  match rule.others with
  | [] => behind = []
  | fourth :: _ => Ends text behind fourth

/-- A row that is laid out under a rule: each of its cells is in its column. -/
inductive Row.Laid (rule : Rule) (row : Row) : Text → Prop where
  | intro {slot kind state others : Text} :
      row.slot.Fills slot → row.kind.Fills kind → row.state.Fills state →
      Ends slot (kind ++ (state ++ others)) rule.second →
      Ends (slot ++ kind) (state ++ others) rule.third →
      rule.StateEnds (slot ++ kind ++ state) others →
      Laid rule row (slot ++ (kind ++ (state ++ others)))

/-- What is behind the rows: the end of the text, or a blank line. -/
inductive Closing : List Text → Text → Prop where
  | endOfText : Closing [] []
  | blankLine {line : Text} (rest : Text) : line.all isBlank = true → Closing [line] rest

/-- A text with a table in it: lines that are no header, the header, the rule, the rows, and
    what closes the table. -/
inductive Shows (rule : Rule) (rows : List Row) : Text → Prop where
  | intro {before laid closing : List Text} {header rest text : Text} :
      (∀ line ∈ before, ¬ Header line) → Header header →
      List.Forall₂ (Row.Laid rule) rows laid → Closing closing rest →
      Written (before ++ header :: rule.text :: (laid ++ closing)) rest text →
      Shows rule rows text

/-! ## One row -/

section Row

variable {rule : Rule} {row : Row} {line : Text}

/-- A row is not blank: it has a slot. -/
theorem Row.Laid.not_blank (h : row.Laid rule line) : ¬ line.all isBlank = true := by
  obtain ⟨⟨before, behind, rfl, -, -⟩, -, -, -, -, -⟩ := h
  obtain ⟨c, more, hname⟩ := List.exists_cons_of_ne_nil row.named
  have hc : isBlank c = false := row.slot.first c (by rw [hname]; rfl)
  intro hall
  rw [List.all_eq_true] at hall
  have hblank := hall c (by simp [hname])
  rw [hc] at hblank
  exact Bool.false_ne_true hblank

/-- The state is read as it was laid out, with a fourth column or without. -/
theorem Rule.StateEnds.cell_eq {before stretch behind : Text} {layout : Cell}
    (h : rule.StateEnds (before ++ stretch) behind) (hbefore : Ascii before)
    (hfills : layout.Fills stretch) (hthird : Ends before (stretch ++ behind) rule.third) :
    cell (before ++ (stretch ++ behind)) rule.third rule.others.head? = layout.string := by
  rw [Rule.StateEnds] at h
  cases hothers : rule.others with
  | nil =>
      rw [hothers] at h
      have hnone : behind = [] := h
      subst hnone
      rw [List.append_nil] at hthird ⊢
      exact cell_behind hbefore hfills hthird
  | cons fourth _ =>
      rw [hothers] at h
      exact cell_between hbefore hfills hthird h

/-- **ROW**: a row that was laid out is read. -/
theorem Row.Laid.row_eq (h : row.Laid rule line) :
    Inventory.row rule.second rule.third rule.others.head? line = row.entry := by
  obtain ⟨hslot, hkind, hstate, hsecond, hthird, hends⟩ := h
  next slot kind state others =>
  have hslotCell : cell (slot ++ (kind ++ (state ++ others))) 0 (some rule.second)
      = row.slot.string :=
    cell_first hslot hsecond
  have hkindCell : cell (slot ++ (kind ++ (state ++ others))) rule.second (some rule.third)
      = row.kind.string :=
    cell_between hslot.ascii hkind hsecond hthird
  have hstateCell : cell (slot ++ (kind ++ (state ++ others))) rule.third rule.others.head?
      = row.state.string := by
    rw [← List.append_assoc]
    exact hends.cell_eq (hslot.ascii.append hkind.ascii) hstate hthird
  rw [Inventory.row, hslotCell, hkindCell, hstateCell, Row.entry]

end Row

/-! ## The rows -/

section Rows

variable {rule : Rule} {rows : List Row} {laid closing : List Text} {rest : Text}

/-- The rows end where they were closed. -/
theorem takeWhile_laid (h : List.Forall₂ (Row.Laid rule) rows laid)
    (hclosing : Closing closing rest) :
    (laid ++ (closing ++ lines rest)).takeWhile (fun line => !(line.all isBlank)) = laid := by
  induction h with
  | nil =>
      cases hclosing with
      | endOfText => rfl
      | blankLine rest hblank =>
          rw [List.nil_append, List.singleton_append, List.takeWhile_cons, if_neg]
          rw [hblank]
          exact Bool.false_ne_true
  | cons hrow _ ih =>
      rw [List.cons_append, List.takeWhile_cons, if_pos, ih]
      rw [Bool.not_eq_true']
      exact Bool.eq_false_iff.mpr hrow.not_blank

/-- Rows that were laid out are read. -/
theorem map_row_laid (h : List.Forall₂ (Row.Laid rule) rows laid) :
    laid.map (Inventory.row rule.second rule.third rule.others.head?) = rows.map Row.entry := by
  induction h with
  | nil => rfl
  | cons hrow _ ih => rw [List.map_cons, List.map_cons, hrow.row_eq, ih]

/-- A row is not passed over: it has a slot. -/
theorem Row.slot_ne_empty (row : Row) : row.entry.1 ≠ "" := by
  intro hempty
  have hchars : row.slot.text = [] := by
    have hlist := congrArg String.toList hempty
    rwa [Row.entry, Cell.string, String.toList_ofList] at hlist
  exact row.named hchars

/-- **ROWS**: the nodes of the rows are read, in the order of their slots. -/
theorem ofRows_laid (h : List.Forall₂ (Row.Laid rule) rows laid)
    (hclosing : Closing closing rest) :
    ofRows rule.second rule.third rule.others.head? (laid ++ (closing ++ lines rest))
      = Fields.ofList (rows.map Row.entry) := by
  have hall : ∀ entry ∈ rows.map Row.entry, decide (entry.1 ≠ "") = true := by
    intro entry hentry
    obtain ⟨row, -, rfl⟩ := List.mem_map.mp hentry
    exact decide_eq_true row.slot_ne_empty
  rw [ofRows, takeWhile_laid h hclosing, map_row_laid h, List.filter_eq_self.mpr hall]

end Rows

/-! ## The table -/

section Table

variable {rule : Rule} {rows : List Row} {text : Text}

/-- The first header is the one of the table. -/
theorem dropWhile_header {before more : List Text} {header : Text}
    (hbefore : ∀ line ∈ before, ¬ Header line) (hheader : Header header) :
    (before ++ header :: more).dropWhile (fun line => !isHeader line) = header :: more := by
  have hpassed : ∀ line ∈ before, (!isHeader line) = true := by
    intro line hline
    rw [Bool.not_eq_true']
    exact Bool.eq_false_iff.mpr fun h => hbefore line hline (isHeader_iff.mp h)
  rw [List.dropWhile_append_of_pos hpassed, List.dropWhile_cons, if_neg]
  rw [isHeader_iff.mpr hheader]
  exact Bool.false_ne_true

/-- **TABLE**: from a text with a table the nodes of its rows are read. -/
theorem ofTable_shows (h : Shows rule rows text) :
    ofTable text = Fields.ofList (rows.map Row.entry) := by
  obtain ⟨hbefore, hheader, hlaid, hclosing, hwritten⟩ := h
  next before laid closing header rest =>
  have hlines : lines text
      = before ++ header :: rule.text :: (laid ++ (closing ++ lines rest)) := by
    rw [lines_written hwritten]
    simp
  rw [ofTable, hlines, dropWhile_header hbefore hheader]
  dsimp only
  rw [rule.columns_eq]
  exact ofRows_laid hlaid hclosing

/-- The slots of the rows are names of their own. -/
theorem nodup_slots (h : (rows.map fun row => row.slot.text).Nodup) :
    ((rows.map Row.entry).map Prod.fst).Nodup := by
  have hnames : (rows.map Row.entry).map Prod.fst
      = (rows.map fun row => row.slot.text).map String.ofList := by
    rw [List.map_map, List.map_map]
    rfl
  rw [hnames]
  exact h.map fun _ _ => String.ofList_injective

/-- A device has converged if there are nodes and all of them are accepted. -/
theorem converged_iff {accepts : Node → Bool} {inventory : Inventory} :
    converged accepts inventory = true ↔
      inventory ≠ [] ∧ ∀ entry ∈ inventory, accepts entry.2 = true := by
  rw [converged, Bool.and_eq_true, Bool.not_eq_true', List.isEmpty_eq_false_iff, List.all_eq_true]

/-- Whether a device has converged does not depend on the order of its nodes. -/
theorem converged_perm {accepts : Node → Bool} {one other : Inventory} (h : one.Perm other) :
    converged accepts one = converged accepts other := by
  rw [converged, converged, h.isEmpty_eq, h.all_eq]

/-- The nodes of rows have converged if there are rows and all their states are accepted. -/
theorem converged_entries :
    converged Probe.platform.accepts (rows.map Row.entry) = true ↔
      rows ≠ [] ∧ ∀ row ∈ rows, row.state.string ∈ acceptedStates := by
  rw [converged_iff, Ne, List.map_eq_nil_iff]
  refine and_congr_right fun _ => ?_
  rw [List.forall_mem_map]
  refine forall_congr' fun row => forall_congr' fun _ => ?_
  exact List.contains_iff_mem

/-- **LAYOUT**: what is read from a text with a table is the rows of the table, and so a device
    has converged exactly if there are rows and all their states are accepted. -/
theorem read_inverts_layout (hshows : Shows rule rows text)
    (hslots : (rows.map fun row => row.slot.text).Nodup) :
    (Probe.platform.read text).Perm (rows.map Row.entry) ∧
      Fields.Ordered (Probe.platform.read text) ∧
      (∀ slot node, Fields.get? slot (Probe.platform.read text) = some node ↔
        ∃ row ∈ rows, row.entry = (slot, node)) ∧
      (converged Probe.platform.accepts (Probe.platform.read text) = true ↔
        rows ≠ [] ∧ ∀ row ∈ rows, row.state.string ∈ acceptedStates) := by
  have hread : Probe.platform.read text = Fields.ofList (rows.map Row.entry) :=
    ofTable_shows hshows
  have hperm := Fields.perm_ofList (nodup_slots hslots)
  have hordered := Fields.ordered_ofList (rows.map Row.entry)
  rw [hread]
  refine ⟨hperm, hordered, ?_, ?_⟩
  · intro slot node
    rw [hordered.get?_eq_some_iff, hperm.mem_iff, List.mem_map]
  · rw [converged_perm hperm]
    exact converged_entries

end Table

/-- A rule over four columns. -/
def cardRule : Rule :=
  .ofColumns "---- ---- ---------- ----".toList 0 5 10 [21] (by decide) (by decide)

/-- A card that is up. -/
def lineCard : Row where
  slot := .ofText "0/0".toList (by decide) (by decide) (by decide)
  kind := .ofText "A8D".toList (by decide) (by decide) (by decide)
  state := .ofText "ok".toList (by decide) (by decide) (by decide)
  named := by decide

/-- A processor of no known kind that is booting. -/
def processor : Row where
  slot := .ofText "R1".toList (by decide) (by decide) (by decide)
  kind := .ofText [] (by decide) rfl rfl
  state := .ofText "init, boot".toList (by decide) (by decide) (by decide)
  named := by decide

/-- The row of the card: indented, with blanks up to the next column in each one. -/
def lineCardLine : Text :=
  " 0/0 ".toList ++ ("A8D  ".toList ++ ("ok         ".toList ++ "2w".toList))

/-- The row of the processor: it stops where the state stops. -/
def processorLine : Text :=
  "R1   ".toList ++ ("     ".toList ++ ("init, boot".toList ++ []))

/-- What a device with the two says, with both kinds of line ends. -/
def cardText : Text :=
  "Chassis 903".toList ++ '\n' ::
  ("Slot Type State Age".toList ++ '\r' :: '\n' ::
  (cardRule.text ++ '\r' :: '\n' ::
  (lineCardLine ++ '\n' ::
  (processorLine ++ '\r' :: '\n' ::
  (" ".toList ++ '\n' :: "Slot CPLD".toList)))))

theorem lineCard_laid : lineCard.Laid cardRule lineCardLine :=
  .intro ⟨" ".toList, " ".toList, by decide, .of_all (by decide) (by decide),
      .of_all (by decide) (by decide)⟩
    ⟨[], "  ".toList, by decide, .nil, .of_all (by decide) (by decide)⟩
    ⟨[], "         ".toList, by decide, .nil, .of_all (by decide) (by decide)⟩
    ⟨by decide, by decide⟩ ⟨by decide, by decide⟩ ⟨by decide, by decide⟩

theorem processor_laid : processor.Laid cardRule processorLine :=
  .intro ⟨[], "   ".toList, by decide, .nil, .of_all (by decide) (by decide)⟩
    ⟨"     ".toList, [], by decide, .of_all (by decide) (by decide), .nil⟩
    ⟨[], [], by decide, .nil, .nil⟩
    ⟨by decide, by decide⟩ ⟨by decide, by decide⟩ ⟨by decide, by decide⟩

/-- The rest of the text begins with the beginning of another table, which is not looked at. -/
theorem cardText_shows : Shows cardRule [lineCard, processor] cardText := by
  have hwritten : Written (["Chassis 903".toList] ++ "Slot Type State Age".toList ::
      cardRule.text :: ([lineCardLine, processorLine] ++ [" ".toList]))
      "Slot CPLD".toList cardText :=
    .feed (by decide) (by decide) <| .returnFeed (by decide) <| .returnFeed (by decide) <|
      .feed (by decide) (by decide) <| .returnFeed (by decide) <|
      .feed (by decide) (by decide) <| .nil _
  have hbefore : ∀ line ∈ ["Chassis 903".toList], ¬ Header line := by
    intro line hline
    rw [List.mem_singleton.mp hline, ← isHeader_iff]
    decide
  have hheader : Header "Slot Type State Age".toList := isHeader_iff.mp (by decide)
  exact .intro hbefore hheader (.cons lineCard_laid (.cons processor_laid .nil))
    (.blankLine _ (by decide)) hwritten

/-- Both cards are read, and the device has not converged: one of them is booting. -/
theorem read_cards :
    Shows cardRule [lineCard, processor] cardText ∧
      ([lineCard, processor].map fun row => row.slot.text).Nodup ∧
      (Probe.platform.read cardText).Perm
        [("0/0", ⟨"A8D", "ok"⟩), ("R1", ⟨"", "init, boot"⟩)] ∧
      converged Probe.platform.accepts (Probe.platform.read cardText) = false := by
  have hslots : ([lineCard, processor].map fun row => row.slot.text).Nodup := by decide
  obtain ⟨hperm, -, -, hconverged⟩ := read_inverts_layout cardText_shows hslots
  refine ⟨cardText_shows, hslots, hperm, ?_⟩
  rw [Bool.eq_false_iff, Ne, hconverged]
  rintro ⟨-, hall⟩
  have hbooting := hall processor (by simp)
  revert hbooting
  decide

end Inventory

end Upkeep
