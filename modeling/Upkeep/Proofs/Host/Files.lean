import Upkeep.Host.Files
import Upkeep.Proofs.Keyed
import Upkeep.Proofs.Text.Utf8

/-! # Files — what is written can be read

    A name is resolved by a walk through directories, and a file that is written
    may be new.  So a write could, as far as the definitions go, change where
    its own path leads.  It does not: a walk only ever looks at directories on
    its way, and what is written to is none. -/

namespace Upkeep.Files

variable {files : Files} {names : List String} {node : FileNode}

theorem put_nodes (files : Files) (names : List String) (node : FileNode) :
    (files.put names node).nodes = Keyed.set files.nodes names node := by
  rw [put, Keyed.set]
  split
  · rfl
  · rfl

theorem root_put (files : Files) (names : List String) (node : FileNode) :
    (files.put names node).root = files.root := by
  rw [put]
  split
  · rfl
  · rfl

/-- What is put at some names is there. -/
theorem node?_put (below : names ≠ []) : (files.put names node).node? names = some node := by
  have hne : names.isEmpty = false := by simpa using below
  simp only [node?, hne, Bool.false_eq_true, ↓reduceIte]
  rw [put_nodes, Keyed.find?_set]
  rfl

/-- Nothing else is changed. -/
theorem node?_put_of_ne {other : List String} (h : other ≠ names) :
    (files.put names node).node? other = files.node? other := by
  simp only [node?]
  rw [put_nodes, Keyed.find?_set_of_ne h]

/-- If both branches of a choice still come to a result, so does the choice. -/
theorem ite_still {α : Type} {choice : Prop} [Decidable choice] {yes no yes' no' result : α}
    (hyes : yes = result → yes' = result) (hno : no = result → no' = result)
    (h : (if choice then yes else no) = result) : (if choice then yes' else no') = result := by
  by_cases hchoice : choice
  · rw [if_pos hchoice] at h ⊢
    exact hyes h
  · rw [if_neg hchoice] at h ⊢
    exact hno h

/-- **WALK**: a walk that arrives still does so when something is put where no directory was. -/
theorem walk_put (noDirectory : files.node? names ≠ some .directory) {here rest last : List String}
    (h : files.walk here rest = .ok last) : (files.put names node).walk here rest = .ok last := by
  induction rest generalizing here with
  | nil => exact h
  | cons name rest ih =>
      rw [walk] at h ⊢
      cases hnode : files.node? here with
      | none =>
          rw [hnode] at h
          exact nomatch h
      | some found =>
          cases found with
          | file content executable =>
              rw [hnode] at h
              exact nomatch h
          | directory =>
              -- a directory on the way is not where something is put
              have hother : here ≠ names := by
                rintro rfl
                exact noDirectory hnode
              rw [node?_put_of_ne hother, hnode]
              rw [hnode] at h
              exact ite_still ih (ite_still ih (ite_still id ih)) h

/-- So does a path. -/
theorem resolve_put (noDirectory : files.node? names ≠ some .directory) {path : String}
    {last : List String} (h : files.resolve path = .ok last) :
    (files.put names node).resolve path = .ok last := by
  have hwalk {rest : List String} :
      files.walk [] rest = .ok last → (files.put names node).walk [] rest = .ok last :=
    walk_put noDirectory
  -- which names a path has does not depend on what the files hold
  rw [resolve] at h ⊢
  rw [root_put]
  exact ite_still id (ite_still id (ite_still id (ite_still hwalk
    (ite_still id (ite_still id hwalk))))) h

/-- A path leads to a file. -/
structure Leads (files : Files) (path : String) (names : List String) (held : Bytes)
    (executable : Bool) : Prop where
  path : files.resolve path = .ok names
  node : files.node? names = some (.file held executable)

section Content

variable {path : String} {held : Bytes} {executable : Bool}

/-- What is read is what the file holds that the path leads to. -/
theorem read_eq_ok_iff :
    files.read path = .ok held ↔ ∃ names executable, files.Leads path names held executable := by
  constructor
  · intro h
    rw [read] at h
    cases hpath : files.resolve path with
    | error error =>
        rw [hpath] at h
        exact nomatch h
    | ok names =>
        rw [hpath] at h
        simp only [bind, Except.bind] at h
        cases hnode : files.node? names with
        | none =>
            rw [hnode] at h
            exact nomatch h
        | some found =>
            cases found with
            | directory =>
                rw [hnode] at h
                exact nomatch h
            | file old executable =>
                rw [hnode] at h
                obtain rfl := Except.ok.inj h
                exact ⟨names, executable, hpath, hnode⟩
  · rintro ⟨names, executable, hpath, hnode⟩
    simp only [read, hpath, hnode, bind, Except.bind]

/-- A file that is there can be opened for writing, with what it holds. -/
theorem Leads.opens (h : files.Leads path names held executable) :
    files.openForWriting path = .ok (names, held, executable) := by
  simp only [openForWriting, h.path, h.node, bind, Except.bind]

/-- Where no directory is a file can be opened for writing. -/
theorem opens_of_resolve (hpath : files.resolve path = .ok names)
    (hnode : files.node? names ≠ some .directory) :
    ∃ opened, files.openForWriting path = .ok opened := by
  simp only [openForWriting, hpath, bind, Except.bind]
  split
  · next hdirectory => exact absurd hdirectory hnode
  · exact ⟨_, rfl⟩
  · exact ⟨_, rfl⟩

/-- What is opened for writing is no directory. -/
theorem resolve_of_open (h : files.openForWriting path = .ok (names, held, executable)) :
    files.resolve path = .ok names ∧ files.node? names ≠ some .directory := by
  rw [openForWriting] at h
  cases hpath : files.resolve path with
  | error error =>
      rw [hpath] at h
      exact nomatch h
  | ok found =>
      rw [hpath] at h
      simp only [bind, Except.bind] at h
      cases hnode : files.node? found with
      | none =>
          rw [hnode] at h
          obtain ⟨rfl, -⟩ := Prod.mk.inj (Except.ok.inj h)
          exact ⟨rfl, hnode ▸ nofun⟩
      | some node =>
          cases node with
          | directory =>
              rw [hnode] at h
              exact nomatch h
          | file old executable =>
              rw [hnode] at h
              obtain ⟨rfl, -⟩ := Prod.mk.inj (Except.ok.inj h)
              exact ⟨rfl, hnode ▸ nofun⟩

/-- What is put where a file was opened for writing can be read there. -/
theorem read_put_of_open (h : files.openForWriting path = .ok (names, held, executable))
    (content : Bytes) :
    (files.put names (.file content executable)).read path = .ok content := by
  obtain ⟨hpath, noDirectory⟩ := resolve_of_open h
  have hbelow : names ≠ [] := by
    rintro rfl
    exact noDirectory rfl
  exact read_eq_ok_iff.mpr ⟨names, executable, resolve_put noDirectory hpath, node?_put hbelow⟩

/-- What is written is put where a file is opened for writing. -/
theorem write_eq_ok {written : Files} {content : Bytes} (h : files.write path content = .ok written) :
    ∃ names held executable, files.openForWriting path = .ok (names, held, executable) ∧
      written = files.put names (.file content executable) := by
  rw [write] at h
  cases hopen : files.openForWriting path with
  | error error =>
      rw [hopen] at h
      exact nomatch h
  | ok opened =>
      rw [hopen] at h
      exact ⟨_, _, _, rfl, (Except.ok.inj h).symm⟩

/-- **READING BACK**: a file that is written has what was written. -/
theorem read_write {written : Files} {content : Bytes} (h : files.write path content = .ok written) :
    written.read path = .ok content := by
  obtain ⟨names, held, executable, hopen, rfl⟩ := write_eq_ok h
  exact read_put_of_open hopen content

/-- A file with the bytes of a text has the text. -/
theorem readText_of_read {text : String} (h : files.read path = .ok (encodeUtf8 text.toList)) :
    files.readText path = .ok text := by
  simp only [readText, h, Except.bind, bind, decodeUtf8?_encodeUtf8]
  exact congrArg Except.ok String.ofList_toList

/-- A file that can be opened for writing can be written. -/
theorem write_of_open {opened : List String × Bytes × Bool} (content : Bytes)
    (h : files.openForWriting path = .ok opened) :
    ∃ written, files.write path content = .ok written := by
  rw [write, h]
  exact ⟨_, rfl⟩

/-- **ADDING**: more can be written behind what a file holds, and then the file has both. -/
theorem append_of_read (h : files.read path = .ok held) (content : Bytes) :
    ∃ written, files.append path content = .ok written ∧
      written.read path = .ok (held ++ content) := by
  obtain ⟨names, executable, hleads⟩ := read_eq_ok_iff.mp h
  refine ⟨_, ?_, read_put_of_open hleads.opens (held ++ content)⟩
  rw [append, hleads.opens]
  rfl

end Content

end Upkeep.Files
