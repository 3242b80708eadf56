import Upkeep.Dialogue.Install
import Upkeep.Proofs.Dialogue.Walk

/-! # Install dialogues — what the three tables let through

    A walk through one of these tables is short, so it is taken apart state by
    state, from the end of the table to its start.  What comes out is which lines
    a walk can queue, and which events can lead to the end.

    The prompt of the first table is any pattern, and it may have the text of one
    of the other two events.  So nothing here looks at which row comes first,
    only at which rows there are. -/

namespace Upkeep.Dialogue

variable {dialogue : Dialogue} {prompt : Pattern} {fired : List Fired} {start last : Int}

/-! ## Walks in general -/

/-- A walk is empty, or its first transition fires in the state that it starts from. -/
theorem Path.inv (h : Path dialogue start fired last) :
    (fired = [] ∧ last = start) ∨ ∃ first rest, fired = first :: rest ∧ first.state = start ∧
      first.First dialogue ∧ start ≠ final ∧ Path dialogue first.transition.next rest last := by
  cases h with
  | nil => exact Or.inl ⟨rfl, rfl⟩
  | cons hfirst going hrest => exact Or.inr ⟨_, _, rfl, rfl, hfirst, going, hrest⟩

/-- There is no way on from the end. -/
theorem Path.of_final (h : Path dialogue final fired last) : fired = [] ∧ last = final := by
  rcases h.inv with hnil | ⟨_, _, -, -, -, going, -⟩
  · exact hnil
  · exact absurd rfl going

/-- A transition that fires is a row of the table. -/
theorem mem_of_first {first : Fired} (h : first.First dialogue) :
    first.transition ∈ dialogue.transitions := by
  obtain ⟨before, after, hsplit, -⟩ := h.first
  rw [hsplit]
  exact List.mem_append_right before List.mem_cons_self

/-- If no row queues lines, neither does a walk. -/
theorem Path.silent (silent : ∀ first : Fired, first.First dialogue → first.lines dialogue = [])
    (h : Path dialogue start fired last) : fired.flatMap (Fired.lines dialogue) = [] := by
  induction h with
  | nil => rfl
  | cons hfirst _ _ ih => rw [List.flatMap_cons, silent _ hfirst, ih]; rfl

/-! ## Saving the configuration -/

/-- The text of the event that tells that the configuration is saved. -/
def savedEvent : String := "\\[OK\\]"

/-- A transition of the saving dialogue answers the question, or passes the `[OK]`, or passes the
    prompt. -/
theorem writeMemory_fires {first : Fired} (h : first.First (writeMemory prompt)) :
    (first.state = 0 ∧ first.transition.next = 1 ∧ first.lines (writeMemory prompt) = [""]) ∨
    ((first.state = 0 ∨ first.state = 1) ∧ first.transition.next = 2 ∧
      first.transition.event = savedEvent ∧ first.lines (writeMemory prompt) = []) ∨
    (first.state = 2 ∧ first.transition.next = final ∧ first.transition.event = prompt.text ∧
      first.lines (writeMemory prompt) = []) := by
  have hmem := mem_of_first h
  have hsource := h.source
  obtain ⟨state, found, transition⟩ := first
  simp only [writeMemory, List.mem_cons, List.not_mem_nil, or_false] at hmem
  rcases hmem with rfl | rfl | rfl
  · exact Or.inl ⟨by simpa using hsource, rfl, rfl⟩
  · exact Or.inr (Or.inl ⟨by simpa using hsource, rfl, rfl, rfl⟩)
  · exact Or.inr (Or.inr ⟨by simpa using hsource, rfl, rfl, rfl⟩)

/-- Behind the `[OK]` only the prompt leads on. -/
theorem writeMemory_path_two (h : Path (writeMemory prompt) 2 fired last) :
    fired.flatMap (Fired.lines (writeMemory prompt)) = [] ∧
      (last = final → fired.map (·.transition.event) = [prompt.text]) := by
  rcases h.inv with ⟨rfl, rfl⟩ | ⟨first, rest, rfl, hstate, hfirst, -, hrest⟩
  · exact ⟨rfl, fun hfinal => absurd hfinal (by decide)⟩
  · rcases writeMemory_fires hfirst with ⟨hzero, -⟩ | ⟨hone, -⟩ | ⟨-, hnext, hevent, hlines⟩
    · exact absurd (hzero.symm.trans hstate) (by decide)
    · rcases hone with hzero | hone
      · exact absurd (hzero.symm.trans hstate) (by decide)
      · exact absurd (hone.symm.trans hstate) (by decide)
    · rw [hnext] at hrest
      obtain ⟨rfl, -⟩ := hrest.of_final
      exact ⟨by rw [List.flatMap_singleton, hlines], fun _ => by rw [List.map_singleton, hevent]⟩

/-- Behind the question only the `[OK]` leads on. -/
theorem writeMemory_path_one (h : Path (writeMemory prompt) 1 fired last) :
    fired.flatMap (Fired.lines (writeMemory prompt)) = [] ∧
      (last = final → fired.map (·.transition.event) = [savedEvent, prompt.text]) := by
  rcases h.inv with ⟨rfl, rfl⟩ | ⟨first, rest, rfl, hstate, hfirst, -, hrest⟩
  · exact ⟨rfl, fun hfinal => absurd hfinal (by decide)⟩
  · rcases writeMemory_fires hfirst with
      ⟨hzero, -⟩ | ⟨-, hnext, hevent, hlines⟩ | ⟨htwo, -⟩
    · exact absurd (hzero.symm.trans hstate) (by decide)
    · rw [hnext] at hrest
      obtain ⟨hsilent, hevents⟩ := writeMemory_path_two hrest
      refine ⟨by rw [List.flatMap_cons, hlines, hsilent]; rfl, fun hfinal => ?_⟩
      rw [List.map_cons, hevent, hevents hfinal]
    · exact absurd (htwo.symm.trans hstate) (by decide)

/-- **SAVING**: the saving dialogue queues one empty line at most, and it ends with the `[OK]` and,
    as the next event, the prompt. -/
theorem writeMemory_path (h : Path (writeMemory prompt) 0 fired last) :
    (fired.flatMap (Fired.lines (writeMemory prompt)) = [] ∨
      fired.flatMap (Fired.lines (writeMemory prompt)) = [""]) ∧
      (last = final → [savedEvent, prompt.text] <:+ fired.map (·.transition.event)) := by
  rcases h.inv with ⟨rfl, rfl⟩ | ⟨first, rest, rfl, hstate, hfirst, -, hrest⟩
  · exact ⟨Or.inl rfl, fun hfinal => absurd hfinal (by decide)⟩
  · rcases writeMemory_fires hfirst with
      ⟨-, hnext, hlines⟩ | ⟨-, hnext, hevent, hlines⟩ | ⟨htwo, -⟩
    · rw [hnext] at hrest
      obtain ⟨hsilent, hevents⟩ := writeMemory_path_one hrest
      refine ⟨Or.inr (by rw [List.flatMap_cons, hlines, hsilent]; rfl), fun hfinal => ?_⟩
      rw [List.map_cons, hevents hfinal]
      exact List.suffix_cons _ _
    · rw [hnext] at hrest
      obtain ⟨hsilent, hevents⟩ := writeMemory_path_two hrest
      refine ⟨Or.inl (by rw [List.flatMap_cons, hlines, hsilent]; rfl), fun hfinal => ?_⟩
      exact ⟨[], by rw [List.map_cons, hevent, hevents hfinal, List.nil_append]⟩
    · exact absurd (htwo.symm.trans hstate) (by decide)

/-! ## The reload -/

/-- A transition of the reload declines to save, or confirms. -/
theorem reload_fires {first : Fired} (h : first.First reload) :
    (first.state = 0 ∧ first.transition.next = 1 ∧ first.lines reload = ["no"]) ∨
    ((first.state = 0 ∨ first.state = 1) ∧ first.transition.next = final ∧
      first.lines reload = [""]) := by
  have hmem := mem_of_first h
  have hsource := h.source
  obtain ⟨state, found, transition⟩ := first
  simp only [reload, List.mem_cons, List.not_mem_nil, or_false] at hmem
  rcases hmem with rfl | rfl
  · exact Or.inl ⟨by simpa using hsource, rfl, rfl⟩
  · exact Or.inr ⟨by simpa using hsource, rfl, rfl⟩

/-- The lines of a reload, with or without unsaved changes. -/
def reloadLines (unsaved : Bool) : List String := (if unsaved then ["no"] else []) ++ [""]

/-- **RELOAD**: the reload queues a refusal at most, and then an empty line with which it ends. -/
theorem reload_path (h : Path reload 0 fired last) :
    ∃ unsaved, fired.flatMap (Fired.lines reload) <+: reloadLines unsaved ∧
      (last = final → fired.flatMap (Fired.lines reload) = reloadLines unsaved) := by
  rcases h.inv with ⟨rfl, rfl⟩ | ⟨first, rest, rfl, -, hfirst, -, hrest⟩
  · exact ⟨false, List.nil_prefix, fun hfinal => absurd hfinal (by decide)⟩
  · rcases reload_fires hfirst with ⟨-, hnext, hlines⟩ | ⟨-, hnext, hlines⟩
    · rw [hnext] at hrest
      refine ⟨true, ?_⟩
      -- the question has been answered, and only the confirmation is left
      rcases hrest.inv with ⟨rfl, rfl⟩ | ⟨second, more, rfl, hone, hsecond, -, hmore⟩
      · rw [List.flatMap_singleton, hlines]
        exact ⟨⟨[""], rfl⟩, fun hfinal => absurd hfinal (by decide)⟩
      · rcases reload_fires hsecond with ⟨hzero, -⟩ | ⟨-, hend, hlast⟩
        · exact absurd (hzero.symm.trans hone) (by decide)
        · rw [hend] at hmore
          obtain ⟨rfl, -⟩ := hmore.of_final
          rw [List.flatMap_cons, List.flatMap_singleton, hlines, hlast]
          exact ⟨List.prefix_refl _, fun _ => rfl⟩
    · rw [hnext] at hrest
      obtain ⟨rfl, -⟩ := hrest.of_final
      rw [List.flatMap_singleton, hlines]
      exact ⟨false, List.prefix_refl _, fun _ => rfl⟩

/-! ## The upgrade in service -/

/-- No action of the upgrade queues lines. -/
theorem inService_silent {first : Fired} (h : first.First inService) :
    first.lines inService = [] := by
  have hmem := mem_of_first h
  obtain ⟨state, found, transition⟩ := first
  simp only [inService, List.mem_cons, List.not_mem_nil, or_false] at hmem
  rcases hmem with rfl | rfl | rfl | rfl | rfl | rfl | rfl | rfl | rfl
  all_goals rfl

/-- **UPGRADE**: the upgrade in service queues nothing; it only listens and warns. -/
theorem inService_path (h : Path inService start fired last) :
    fired.flatMap (Fired.lines inService) = [] := h.silent fun _ hfirst => inService_silent hfirst

end Upkeep.Dialogue
