import Upkeep.Job.FileName
import Mathlib.Data.List.Basic

/-! # File names — what is left of a free name

    A free name is read as runs of word characters with other characters between
    them.  Its file name keeps the runs, and of what is between them, in front
    of them and behind them it keeps no more than that there is something: one
    hyphen each (`hyphenate_eq`).

    A hyphen is no word character.  So the runs of a stem are those of the name
    (`wordRuns_hyphenate`), a stem is its own stem, and two names have one file
    name only if they have the same runs and the same kinds of ends
    (`fileName_eq_iff`). -/

namespace Upkeep

/-- The runs of word characters in a text, first one first: what stands between all other
characters. -/
def wordRuns (text : List Char) : List (List Char) :=
  (text.splitOnP fun c => !isWord c).filter fun run => !run.isEmpty

/-- Whether a text starts with a character that belongs to no word. -/
def startsApart (text : List Char) : Bool := text.head?.any fun c => !isWord c

/-- Whether a text ends with a character that belongs to no word. -/
def endsApart (text : List Char) : Bool := text.getLast?.any fun c => !isWord c

variable {c : Char} {text rest : List Char}

/-- A hyphen belongs to no word. -/
theorem isWord_hyphen : isWord '-' = false := by decide

/-! ## Runs -/

/-- A character that belongs to no word is in no run. -/
theorem wordRuns_apart (h : isWord c = false) (rest : List Char) :
    wordRuns (c :: rest) = wordRuns rest := by
  rw [wordRuns, List.splitOnP_cons_eq_if_modifyHead, h]
  rfl

/-- A word character goes on with the run behind it, or is a run of its own. -/
theorem wordRuns_word (h : isWord c = true) (rest : List Char) :
    wordRuns (c :: rest) = if rest.head?.any isWord then (wordRuns rest).modifyHead (c :: ·)
      else [c] :: wordRuns rest := by
  rw [wordRuns, List.splitOnP_cons_eq_if_modifyHead, h]
  cases rest with
  | nil => rfl
  | cons d rest =>
      rw [wordRuns, List.splitOnP_cons_eq_if_modifyHead]
      show _ = if isWord d = true then _ else _
      obtain ⟨run, more, hsplit⟩ :=
        List.exists_cons_of_ne_nil (List.splitOnP_ne_nil (fun c => !isWord c) rest)
      rw [hsplit]
      cases hd : isWord d with
      | true => rfl
      | false => rfl

/-- Where a word character comes first there is a run. -/
theorem wordRuns_ne_nil (h : isWord c = true) (rest : List Char) : wordRuns (c :: rest) ≠ [] := by
  induction rest generalizing c with
  | nil =>
      rw [wordRuns_word h]
      exact List.cons_ne_nil _ _
  | cons d rest ih =>
      rw [wordRuns_word h]
      split
      · next hmore =>
        rw [Ne, List.modifyHead_eq_nil_iff]
        exact ih hmore
      · exact List.cons_ne_nil _ _

/-! ## Ends -/

theorem startsApart_cons (c : Char) (rest : List Char) : startsApart (c :: rest) = !isWord c := rfl

/-- Where a text ends does not depend on what is in front. -/
theorem endsApart_cons (h : rest ≠ []) (c : Char) : endsApart (c :: rest) = endsApart rest := by
  obtain ⟨d, rest, rfl⟩ := List.exists_cons_of_ne_nil h
  rw [endsApart, List.getLast?_cons_cons, endsApart]

/-- Of two characters that both belong to no word it does not matter which one comes first. -/
theorem endsApart_head {d : Char} (hc : isWord c = false) (hd : isWord d = false)
    (rest : List Char) : endsApart (c :: rest) = endsApart (d :: rest) := by
  cases rest with
  | nil =>
      show (!isWord c) = !isWord d
      rw [hc, hd]
  | cons e rest => rw [endsApart_cons (List.cons_ne_nil e rest), endsApart_cons (List.cons_ne_nil e rest)]

/-- A text without runs that is not empty ends with a character that belongs to no word. -/
theorem endsApart_of_runless (h : wordRuns text = []) (hne : text ≠ []) :
    endsApart text = true := by
  induction text with
  | nil => exact absurd rfl hne
  | cons c rest ih =>
      have hc : isWord c = false := by
        rw [Bool.eq_false_iff]
        exact fun hword => wordRuns_ne_nil hword rest h
      rw [wordRuns_apart hc] at h
      by_cases hrest : rest = []
      · rw [hrest]
        show (!isWord c) = true
        rw [hc]
        rfl
      · rw [endsApart_cons hrest]
        exact ih h hrest

/-! ## The stem told by runs and ends -/

/-- One hyphen, or nothing. -/
def hyphenIf (apart : Bool) : List Char := if apart then ['-'] else []

/-- Runs with a hyphen between any two of them, and one behind the last one if something else
comes there. -/
def joinRuns (back : Bool) : List (List Char) → List Char
  | [] => []
  | [run] => run ++ hyphenIf back
  | run :: next :: more => run ++ '-' :: joinRuns back (next :: more)

/-- The first run may be longer by a character. -/
theorem joinRuns_modifyHead (back : Bool) {runs : List (List Char)} (h : runs ≠ []) (c : Char) :
    joinRuns back (runs.modifyHead (c :: ·)) = c :: joinRuns back runs := by
  match runs, h with
  | [run], _ => rfl
  | run :: next :: more, _ => rfl

/-- **STEM**: a stem is made of the runs, with a hyphen wherever something else was. -/
theorem hyphenate_eq (inside : Bool) (text : List Char) :
    hyphenate inside text = hyphenIf (startsApart text && !inside) ++
      joinRuns (endsApart text) (wordRuns text) := by
  induction text generalizing inside with
  | nil => rfl
  | cons c rest ih =>
      rw [hyphenate, startsApart_cons]
      cases hc : isWord c with
      | true =>
          rw [if_pos rfl, ih false, wordRuns_word hc]
          cases rest with
          | nil =>
              show [c] = joinRuns (!isWord c) [[c]]
              rw [hc]
              rfl
          | cons d rest =>
              rw [endsApart_cons (List.cons_ne_nil d rest), startsApart_cons]
              show _ = joinRuns _ (if isWord d = true then _ else _)
              cases hd : isWord d with
              | true =>
                  rw [if_pos rfl, joinRuns_modifyHead _ (wordRuns_ne_nil hd rest)]
                  rfl
              | false =>
                  rw [if_neg Bool.false_ne_true]
                  -- a hyphen behind the last run stands for all that comes there
                  cases hruns : wordRuns (d :: rest) with
                  | nil =>
                      rw [endsApart_of_runless hruns (List.cons_ne_nil d rest)]
                      rfl
                  | cons run more => rfl
      | false =>
          rw [if_neg Bool.false_ne_true, wordRuns_apart hc, ih true, Bool.not_true, Bool.and_false]
          have hback : joinRuns (endsApart (c :: rest)) (wordRuns rest)
              = joinRuns (endsApart rest) (wordRuns rest) := by
            by_cases hrest : rest = []
            · rw [hrest]
              rfl
            · rw [endsApart_cons hrest]
          rw [hback]
          cases inside with
          | true => rfl
          | false => rfl

/-! ## Runs and ends of a stem -/

/-- A stem starts with a word where the text does. -/
theorem head_hyphenate (text : List Char) :
    (hyphenate false text).head?.any isWord = text.head?.any isWord := by
  cases text with
  | nil => rfl
  | cons c rest =>
      rw [hyphenate]
      cases hc : isWord c with
      | true => rfl
      | false =>
          show isWord '-' = isWord c
          rw [hc, isWord_hyphen]

/-- **RUNS**: a stem has the runs of the text. -/
theorem wordRuns_hyphenate (inside : Bool) (text : List Char) :
    wordRuns (hyphenate inside text) = wordRuns text := by
  fun_induction hyphenate inside text with
  | case1 => rfl
  | case2 inside c rest hc ih => rw [wordRuns_word hc, wordRuns_word hc, ih, head_hyphenate]
  | case3 c rest hc ih =>
      rw [ih, wordRuns_apart (Bool.eq_false_iff.mpr hc)]
  | case4 inside c rest hc houtside ih =>
      rw [wordRuns_apart isWord_hyphen, ih, wordRuns_apart (Bool.eq_false_iff.mpr hc)]

theorem startsApart_hyphenate (text : List Char) :
    startsApart (hyphenate false text) = startsApart text := by
  cases text with
  | nil => rfl
  | cons c rest =>
      rw [hyphenate]
      cases hc : isWord c with
      | true => rfl
      | false =>
          show (!isWord '-') = !isWord c
          rw [hc, isWord_hyphen]

/-- Behind a character a stem ends as the text does. -/
theorem endsApart_hyphenate_cons (c : Char) (rest : List Char) :
    endsApart (c :: hyphenate (!isWord c) rest) = endsApart (c :: rest) := by
  induction rest generalizing c with
  | nil => rfl
  | cons d rest ih =>
      have hbehind (e : Char) (more : List Char) : endsApart (c :: e :: more)
          = endsApart (e :: more) := endsApart_cons (List.cons_ne_nil e more) c
      rw [hyphenate, hbehind]
      cases hd : isWord d with
      | true =>
          have hrest := ih d
          rw [hd] at hrest
          rw [if_pos rfl, hbehind]
          exact hrest
      | false =>
          rw [if_neg Bool.false_ne_true]
          cases hc : isWord c with
          | true =>
              have hrest := ih '-'
              rw [isWord_hyphen] at hrest
              rw [endsApart_head hd isWord_hyphen, ← hrest]
              exact hbehind _ _
          | false =>
              have hrest := ih c
              rw [hc] at hrest
              rw [endsApart_head hd hc]
              exact hrest

theorem endsApart_hyphenate (text : List Char) :
    endsApart (hyphenate false text) = endsApart text := by
  cases text with
  | nil => rfl
  | cons c rest =>
      rw [hyphenate]
      cases hc : isWord c with
      | true =>
          have hrest := endsApart_hyphenate_cons c rest
          rw [hc] at hrest
          exact hrest
      | false =>
          have hrest := endsApart_hyphenate_cons '-' rest
          rw [isWord_hyphen] at hrest
          rw [endsApart_head hc isWord_hyphen, ← hrest]
          rfl

/-- Two texts with the same runs and the same kinds of ends have one stem, and no others have. -/
theorem hyphenate_eq_iff {other : List Char} :
    hyphenate false text = hyphenate false other ↔
      wordRuns text = wordRuns other ∧ startsApart text = startsApart other ∧
        endsApart text = endsApart other := by
  constructor
  · intro h
    refine ⟨?_, ?_, ?_⟩
    · rw [← wordRuns_hyphenate false text, h, wordRuns_hyphenate]
    · rw [← startsApart_hyphenate text, h, startsApart_hyphenate]
    · rw [← endsApart_hyphenate text, h, endsApart_hyphenate]
  · rintro ⟨hruns, hstart, hend⟩
    rw [hyphenate_eq, hyphenate_eq, hruns, hstart, hend]

/-- A stem is its own stem. -/
theorem hyphenate_hyphenate (text : List Char) :
    hyphenate false (hyphenate false text) = hyphenate false text :=
  hyphenate_eq_iff.mpr
    ⟨wordRuns_hyphenate false text, startsApart_hyphenate text, endsApart_hyphenate text⟩

/-! ## Characters of a stem -/

/-- A stem is made of word characters and hyphens. -/
theorem mem_hyphenate {inside : Bool} (h : c ∈ hyphenate inside text) :
    isWord c = true ∨ c = '-' := by
  fun_induction hyphenate inside text with
  | case1 => exact nomatch h
  | case2 inside d rest hd ih =>
      rcases List.mem_cons.mp h with rfl | hlater
      · exact Or.inl hd
      · exact ih hlater
  | case3 d rest hd ih => exact ih h
  | case4 inside d rest hd houtside ih =>
      rcases List.mem_cons.mp h with rfl | hlater
      · exact Or.inr rfl
      · exact ih hlater

theorem ne_hyphen_of_isWord (h : isWord c = true) : c ≠ '-' := by
  rintro rfl
  rw [isWord_hyphen] at h
  exact nomatch h

/-- Inside of what belongs to no word there is no hyphen to come. -/
theorem head_hyphenate_inside (text : List Char) :
    (hyphenate true text).head? ≠ some '-' := by
  induction text with
  | nil => exact nofun
  | cons c rest ih =>
      rw [hyphenate]
      split
      · next hc =>
        intro h
        exact ne_hyphen_of_isWord hc (Option.some.inj h)
      · exact ih

/-- There are no two hyphens in a row. -/
theorem not_hyphens_hyphenate (inside : Bool) (text : List Char) :
    ¬ ['-', '-'] <:+: hyphenate inside text := by
  fun_induction hyphenate inside text with
  | case1 => decide
  | case2 inside c rest hc ih =>
      rw [List.infix_cons_iff, List.cons_prefix_cons]
      rintro (⟨hhead, -⟩ | hlater)
      · exact ne_hyphen_of_isWord hc hhead.symm
      · exact ih hlater
  | case3 c rest hc ih => exact ih
  | case4 inside c rest hc houtside ih =>
      rw [List.infix_cons_iff, List.cons_prefix_cons]
      rintro (⟨-, hsecond⟩ | hlater)
      · obtain ⟨more, hmore⟩ := hsecond
        refine head_hyphenate_inside rest ?_
        rw [← hmore]
        rfl
      · exact ih hlater

/-! ## Names and stems -/

/-- A text that names a file: of word characters and single hyphens, and named as it is. -/
structure Stem (stem : String) : Prop where
  characters : ∀ c ∈ stem.toList, isWord c = true ∨ c = '-'
  single : ¬ ['-', '-'] <:+: stem.toList
  own : fileName stem = stem ++ ".txt"

/-- So nothing else is in it. -/
theorem Stem.not_mem {stem : String} (h : Stem stem) (hword : isWord c = false) (hc : c ≠ '-') :
    c ∉ stem.toList := by
  intro hmem
  rcases h.characters c hmem with hother | hhyphen
  · rw [hword] at hother
    exact nomatch hother
  · exact hc hhyphen

/-- **FILE NAME**: a file name is a stem with an ending. -/
theorem fileName_stem (name : String) : ∃ stem, fileName name = stem ++ ".txt" ∧ Stem stem := by
  refine ⟨String.ofList (hyphenate false name.toList), rfl, ?_, ?_, ?_⟩
  · rw [String.toList_ofList]
    exact fun c hc => mem_hyphenate hc
  · rw [String.toList_ofList]
    exact not_hyphens_hyphenate false name.toList
  · rw [fileName, String.toList_ofList, hyphenate_hyphenate]

/-- **COLLISIONS**: two names have one file name if they have the same runs and the same kinds of
ends, and only then. -/
theorem fileName_eq_iff {name other : String} : fileName name = fileName other ↔
    wordRuns name.toList = wordRuns other.toList ∧
      startsApart name.toList = startsApart other.toList ∧
      endsApart name.toList = endsApart other.toList := by
  rw [← hyphenate_eq_iff, fileName, fileName, String.append_left_inj, String.ofList_inj]

end Upkeep
