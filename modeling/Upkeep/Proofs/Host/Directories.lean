import Upkeep.Proofs.Host.Files

/-! # Directories — where a file in a directory is

    Directories that are missing on the way to a path can be made.  That leaves
    all files as they are (`grown_makeDirectories`), and then the path leads to a
    directory (`directory_of_makeDirectories`).

    A path with one more name behind it leads to this name in the directory, and
    nowhere else (`resolve_child`).  The name must not be one with a meaning of
    its own, and the path may be empty: then it means the working directory, which
    is the root.  So what is written behind a path is in the directory that the
    path leads to, and no other file is touched (`writesChild`). -/

namespace Upkeep.Files

variable {files made : Files} {names : List String} {path : String}

/-! ## What is in a file -/

/-- What the file with some names holds, and whether it can be executed. -/
def file? (files : Files) (names : List String) : Option (Bytes × Bool) :=
  match files.node? names with
  | some (.file content executable) => some (content, executable)
  | _ => none

/-- What is in the file with some names: nothing if there is no file. -/
def held (files : Files) (names : List String) : Bytes :=
  ((files.file? names).map Prod.fst).getD []

/-- What is opened for writing has what is in the file. -/
theorem held_of_open {old : Bytes} {executable : Bool}
    (h : files.openForWriting path = .ok (names, old, executable)) : files.held names = old := by
  obtain ⟨hpath, noDirectory⟩ := resolve_of_open h
  rw [openForWriting, hpath] at h
  simp only [bind, Except.bind] at h
  rw [held, file?]
  cases hnode : files.node? names with
  | none =>
      rw [hnode] at h
      obtain ⟨-, hold⟩ := Prod.mk.inj (Except.ok.inj h)
      exact (Prod.mk.inj hold).1
  | some node =>
      cases node with
      | directory => exact absurd hnode noDirectory
      | file content _ =>
          rw [hnode] at h
          obtain ⟨-, hold⟩ := Prod.mk.inj (Except.ok.inj h)
          exact (Prod.mk.inj hold).1

/-- **ADDING**: what is added to a file is behind what was in it. -/
theorem append_of_open {old : Bytes} {executable : Bool}
    (h : files.openForWriting path = .ok (names, old, executable)) (content : Bytes) :
    ∃ written, files.append path content = .ok written ∧
      written.held names = files.held names ++ content := by
  have hbelow : names ≠ [] := by
    rintro rfl
    exact (resolve_of_open h).2 rfl
  refine ⟨files.put names (.file (old ++ content) executable), ?_, ?_⟩
  · rw [append, h]
    rfl
  · rw [held_of_open h, held, file?, node?_put hbelow]
    rfl

/-! ## Making directories -/

/-- One tree has the files of the other one, and maybe other directories. -/
structure Grown (files made : Files) : Prop where
  root : made.root = files.root
  kept : ∀ names, made.file? names = files.file? names

theorem Grown.refl (files : Files) : files.Grown files := ⟨rfl, fun _ => rfl⟩

theorem Grown.trans {mid : Files} (h : files.Grown mid) (hmore : mid.Grown made) :
    files.Grown made :=
  ⟨hmore.root.trans h.root, fun names => (hmore.kept names).trans (h.kept names)⟩

theorem Grown.held (h : files.Grown made) (names : List String) :
    made.held names = files.held names := by
  rw [Files.held, h.kept, Files.held]

/-- A directory where nothing was is in the way of no file. -/
theorem grown_put (h : files.node? names = none) : files.Grown (files.put names .directory) := by
  have hbelow : names ≠ [] := by
    rintro rfl
    exact nomatch h
  refine ⟨root_put files names .directory, fun other => ?_⟩
  by_cases hother : other = names
  · rw [hother, file?, file?, node?_put hbelow, h]
  · rw [file?, file?, node?_put_of_ne hother]

/-- A directory that is made is put where nothing was. -/
theorem makeDirectory_eq_ok (h : files.makeDirectory path = .ok made) :
    ∃ names, files.resolve path = .ok names ∧ files.node? names = none ∧
      made = files.put names .directory := by
  rw [makeDirectory] at h
  cases hpath : files.resolve path with
  | error error =>
      rw [hpath] at h
      exact nomatch h
  | ok names =>
      rw [hpath] at h
      simp only [bind, Except.bind] at h
      cases hnode : files.node? names with
      | none =>
          rw [hnode] at h
          exact ⟨names, rfl, hnode, (Except.ok.inj h).symm⟩
      | some node =>
          rw [hnode] at h
          exact nomatch h

theorem isDirectory_iff : files.isDirectory path = true ↔
    ∃ names, files.resolve path = .ok names ∧ files.node? names = some .directory := by
  rw [isDirectory]
  cases files.resolve path with
  | error error => exact ⟨nofun, fun ⟨_, hpath, _⟩ => nomatch hpath⟩
  | ok names =>
      dsimp only
      rw [decide_eq_true_eq]
      exact ⟨fun hnode => ⟨names, rfl, hnode⟩, fun ⟨_, hpath, hnode⟩ => Except.ok.inj hpath ▸ hnode⟩

/-- The tree is grown, and the path leads to a directory in it. -/
def Opened (files : Files) (path : String) (made : Files) : Prop :=
  files.Grown made ∧ made.isDirectory path = true

theorem opened_makeDirectory (h : files.makeDirectory path = .ok made) :
    files.Opened path made := by
  obtain ⟨names, hpath, hnode, rfl⟩ := makeDirectory_eq_ok h
  have hbelow : names ≠ [] := by
    rintro rfl
    exact nomatch hnode
  refine ⟨grown_put hnode, isDirectory_iff.mpr ⟨names, ?_, node?_put hbelow⟩⟩
  exact resolve_put (hnode ▸ nofun) hpath

/-- A directory that is not made has to be there. -/
theorem opened_of_isDirectory {error : IoError}
    (h : (if files.isDirectory path then .ok files else .error error) = Except.ok made) :
    files.Opened path made := by
  split at h
  · next hthere =>
    obtain rfl := Except.ok.inj h
    exact ⟨.refl files, hthere⟩
  · exact nomatch h

/-- A directory is made, or it is there. -/
theorem opened_of_made_or_there
    (h : (match files.makeDirectory path with
      | .ok files => .ok files
      | .error error => if files.isDirectory path then .ok files else .error error)
        = Except.ok made) : files.Opened path made := by
  split at h
  · next hmade =>
    obtain rfl := Except.ok.inj h
    exact opened_makeDirectory hmade
  · exact opened_of_isDirectory h

/-- Whatever is on the way, the files are as before, and a path that is not empty leads to a
    directory then. -/
theorem opened_go {fuel : Nat} (h : makeDirectories.go fuel files path = .ok made) :
    files.Grown made ∧ (fuel ≠ 0 → path ≠ "" → made.isDirectory path = true) := by
  induction fuel generalizing files path made with
  | zero =>
      obtain rfl := Except.ok.inj h
      exact ⟨.refl files, fun hfuel => absurd rfl hfuel⟩
  | succ fuel ih =>
      by_cases hpath : path = ""
      · rw [hpath] at h
        obtain rfl := Except.ok.inj h
        exact ⟨.refl files, fun _ hne => absurd hpath hne⟩
      · suffices hopened : files.Opened path made from ⟨hopened.1, fun _ _ => hopened.2⟩
        rw [makeDirectories.go, if_neg (mt String.isEmpty_iff.mp hpath)] at h
        dsimp only at h
        split at h
        · next hmade =>
          obtain rfl := Except.ok.inj h
          exact opened_makeDirectory hmade
        · -- the directories above are made first
          split at h
          · exact nomatch h
          · next parent _ =>
            cases habove : makeDirectories.go fuel files parent with
            | error error =>
                rw [habove] at h
                exact nomatch h
            | ok mid =>
                rw [habove] at h
                have hopened : mid.Opened path made := opened_of_made_or_there h
                exact ⟨(ih habove).1.trans hopened.1, hopened.2⟩
        · exact opened_of_isDirectory h

/-- **FILES STAY**: when directories are made, all files are as before. -/
theorem grown_makeDirectories (h : files.makeDirectories path = .ok made) : files.Grown made :=
  (opened_go h).1

/-- A path leads to the directory with some names; the empty path means the root. -/
structure Directory (files : Files) (path : String) (names : List String) : Prop where
  path : (path = "" ∧ names = []) ∨ files.resolve path = .ok names
  node : files.node? names = some .directory

/-- **DIRECTORIES**: the path of directories that are made leads to a directory. -/
theorem directory_of_makeDirectories (h : files.makeDirectories path = .ok made) :
    ∃ names, made.Directory path names := by
  by_cases hpath : path = ""
  · exact ⟨[], Or.inl ⟨hpath, rfl⟩, rfl⟩
  · have hfuel : path.length ≠ 0 := mt String.length_eq_zero_iff.mp hpath
    obtain ⟨names, hresolve, hnode⟩ := isDirectory_iff.mp ((opened_go h).2 hfuel hpath)
    exact ⟨names, Or.inr hresolve, hnode⟩

/-! ## One more name -/

/-- A name that a file in a directory can have: not empty, no path, and without a meaning of its
    own. -/
structure Name (name : String) : Prop where
  nonempty : name ≠ ""
  noSlash : '/' ∉ name.toList
  noNull : '\x00' ∉ name.toList
  noHere : name ≠ "."
  noAbove : name ≠ ".."

variable {name : String} {here last dir : List String}

theorem walk_single (h : Name name) : files.walk here [name] = .ok last ↔
    files.node? here = some .directory ∧ name.utf8ByteSize ≤ 255 ∧ last = here ++ [name] := by
  rw [walk]
  cases files.node? here with
  | none => simp
  | some node =>
      cases node with
      | file content executable => simp
      | directory =>
          dsimp only
          rw [if_neg h.noHere, if_neg h.noAbove]
          split
          · next hlong => simp [Nat.not_le.mpr hlong]
          · next hshort =>
            rw [walk, Except.ok.injEq, eq_comm]
            exact ⟨fun hlast => ⟨rfl, Nat.le_of_not_lt hshort, hlast⟩, fun harrives => harrives.2.2⟩

/-- A walk with one name more arrives below the directory where the walk without it arrives. -/
theorem walk_concat (h : Name name) (names : List String) :
    files.walk here (names ++ [name]) = .ok last ↔ ∃ dir, files.walk here names = .ok dir ∧
      files.node? dir = some .directory ∧ name.utf8ByteSize ≤ 255 ∧ last = dir ++ [name] := by
  induction names generalizing here with
  | nil =>
      rw [List.nil_append, walk_single h]
      exact ⟨fun harrives => ⟨here, rfl, harrives⟩,
        fun ⟨dir, hdir, harrives⟩ => Except.ok.inj hdir ▸ harrives⟩
  | cons first names ih =>
      rw [List.cons_append, walk, walk]
      cases files.node? here with
      | none => simp
      | some node =>
          cases node with
          | file content executable => simp
          | directory =>
              dsimp only
              split
              · exact ih
              · split
                · exact ih
                · split
                  · simp
                  · exact ih

/-- The names of a path that is given as a text. -/
def namesOf (text : List Char) : List String :=
  ((text.splitOn '/').map String.ofList).filter (· ≠ "")

theorem pathNames_eq (path : String) : pathNames path = namesOf path.toList := rfl

theorem namesOf_append (front behind : List Char) :
    namesOf (front ++ '/' :: behind) = namesOf front ++ namesOf behind := by
  rw [namesOf, List.splitOn_append_cons_self, List.map_append, List.filter_append]
  rfl

theorem namesOf_name (h : Name name) : namesOf name.toList = [name] := by
  rw [namesOf, List.splitOn_eq_singleton h.noSlash, List.map_singleton, String.ofList_toList]
  exact List.filter_cons_of_pos (decide_eq_true h.nonempty)

/-- One more name. -/
theorem namesOf_child (h : Name name) (front : List Char) :
    namesOf (front ++ '/' :: name.toList) = namesOf front ++ [name] := by
  rw [namesOf_append, namesOf_name h]

/-- A slash at the end adds no name. -/
theorem namesOf_slash (front : List Char) : namesOf (front ++ ['/']) = namesOf front := by
  rw [namesOf_append]
  exact List.append_nil _

/-! ## Paths -/

/-- A path begins with the root, and the rest goes on below it. -/
def Below (files : Files) (path rest : List Char) : Prop :=
  path = files.root.toList ++ rest ∧ (rest = [] ∨ ∃ more, rest = '/' :: more)

/-- What is behind the root is told by the path. -/
theorem Below.rest_eq {text rest : List Char} (h : files.Below text rest) :
    rest = text.drop files.root.length := by
  rw [h.1, ← String.length_toList, List.drop_left]

theorem below_iff : (∃ rest, files.Below path.toList rest) ↔
    path = files.root ∨ path.startsWith (files.root ++ "/") = true := by
  have hslash : "/".toList = ['/'] := rfl
  rw [String.startsWith_string_iff, String.toList_append, hslash]
  constructor
  · rintro ⟨rest, hsplit, rfl | ⟨more, rfl⟩⟩
    · exact Or.inl (String.toList_inj.mp (hsplit.trans (List.append_nil _)))
    · refine Or.inr ⟨more, ?_⟩
      rw [hsplit, List.append_assoc]
      rfl
  · rintro (rfl | ⟨more, hsplit⟩)
    · exact ⟨[], (List.append_nil _).symm, Or.inl rfl⟩
    · refine ⟨'/' :: more, ?_, Or.inr ⟨more, rfl⟩⟩
      rw [← hsplit, List.append_assoc]
      rfl

/-- A path that begins with the root leads along what is behind the root. -/
theorem resolve_below {rest : List Char} (h : files.Below path.toList rest)
    (hnull : '\x00' ∉ path.toList) (hne : path ≠ "") :
    files.resolve path = files.walk [] (namesOf rest) := by
  have hbelow := below_iff.mp ⟨rest, h⟩
  rw [resolve, String.contains_char_eq, if_neg (by simpa using hnull),
    if_neg (mt String.isEmpty_iff.mp hne)]
  by_cases hroot : path = files.root
  · have hrest : rest = [] := by
      rw [h.rest_eq, hroot]
      exact List.drop_eq_nil_iff.mpr (Nat.le_of_eq String.length_toList)
    rw [if_pos hroot, hrest]
    rfl
  · rw [if_neg hroot, if_pos (hbelow.resolve_left hroot), h.rest_eq, pathNames_eq,
      String.toList_ofList]

/-- Any other path leads somewhere only if it does not start at the top. -/
theorem resolve_relative (h : ∀ rest, ¬ files.Below path.toList rest)
    (hnull : '\x00' ∉ path.toList) (hne : path ≠ "") :
    files.resolve path = .ok last ↔
      path.toList.head? ≠ some '/' ∧ files.walk [] (namesOf path.toList) = .ok last := by
  have hbelow : ¬ (path = files.root ∨ path.startsWith (files.root ++ "/") = true) :=
    fun hbelow => (below_iff.mpr hbelow).elim h
  rw [not_or] at hbelow
  have htop {pattern : String} (hslash : pattern.toList.head? = some '/')
      (hstarts : path.startsWith pattern = true) : path.toList.head? = some '/' := by
    rw [String.startsWith_string_iff] at hstarts
    obtain ⟨more, hsplit⟩ := hstarts
    rw [← hsplit, List.head?_append, hslash]
    rfl
  rw [resolve, String.contains_char_eq, if_neg (by simpa using hnull),
    if_neg (mt String.isEmpty_iff.mp hne), if_neg hbelow.1, if_neg hbelow.2]
  split
  · next hdev => simp [htop rfl hdev]
  · split
    · next hslash => simp [htop rfl hslash]
    · next hslash =>
      refine (and_iff_right_of_imp fun _ hhead => hslash ?_).symm
      rw [String.startsWith_string_iff]
      obtain ⟨more, hmore⟩ := List.head?_eq_some_iff.mp hhead
      exact ⟨more, hmore.symm⟩

/-- A path that leads anywhere has no null in it and is not empty. -/
theorem sound_of_resolve (h : files.resolve path = .ok last) :
    '\x00' ∉ path.toList ∧ path ≠ "" := by
  rw [resolve, String.contains_char_eq] at h
  split at h
  · cases h
  · next hnull =>
    split at h
    · cases h
    · next hne => exact ⟨by simpa using hnull, mt String.isEmpty_iff.mpr hne⟩

/-- A path leads to one directory at most. -/
theorem Directory.unique {other : List String} (h : files.Directory path names)
    (hother : files.Directory path other) : names = other := by
  have hsomewhere {last : List String} (hpath : files.resolve path = .ok last) : path ≠ "" :=
    (sound_of_resolve hpath).2
  rcases h.path with ⟨hempty, rfl⟩ | hleads
  · rcases hother.path with ⟨-, rfl⟩ | hleads
    · rfl
    · exact absurd hempty (hsomewhere hleads)
  · rcases hother.path with ⟨hempty, -⟩ | hothers
    · exact absurd hempty (hsomewhere hleads)
    · exact Except.ok.inj (hleads.symm.trans hothers)

/-- The root is an absolute path, and without a slash at its end. -/
structure Rooted (files : Files) : Prop where
  absolute : files.root.toList.head? = some '/'
  bare : files.root.toList.getLast? ≠ some '/'

/-- A tree that has grown has its root where it was. -/
theorem Grown.rooted (h : files.Grown made) (hroot : files.Rooted) : made.Rooted := by
  constructor
  · rw [h.root]
    exact hroot.absolute
  · rw [h.root]
    exact hroot.bare

/-- What begins with the root begins with a slash. -/
theorem Below.head? {text rest : List Char} (hroot : files.Rooted) (h : files.Below text rest) :
    text.head? = some '/' := by
  rw [h.1, List.head?_append, hroot.absolute]
  rfl

/-- If a text with one more name begins with the root, then so does the text, unless the name is
    the root's own. -/
theorem Below.front {front behind rest : List Char} (hslash : '/' ∉ behind)
    (h : files.Below (front ++ '/' :: behind) rest) :
    rest = [] ∨ ∃ inner, rest = inner ++ '/' :: behind ∧ files.Below front inner := by
  obtain ⟨hsplit, rfl | ⟨more, rfl⟩⟩ := h
  · exact Or.inl rfl
  · refine Or.inr ?_
    rcases List.append_eq_append_iff.mp hsplit with ⟨outer, hroot, hbehind⟩ | ⟨inner, rfl, hrest⟩
    · cases outer with
      | nil =>
          refine ⟨[], hbehind.symm, ?_, Or.inl rfl⟩
          rw [hroot, List.append_nil, List.append_nil]
      | cons c outer =>
          -- the root would end inside of the name
          obtain ⟨-, rfl⟩ := List.cons.inj hbehind
          exact absurd (List.mem_append_right outer List.mem_cons_self) hslash
    · refine ⟨inner, hrest, rfl, ?_⟩
      cases inner with
      | nil => exact Or.inl rfl
      | cons c inner =>
          obtain ⟨rfl, -⟩ := List.cons.inj hrest
          exact Or.inr ⟨inner, rfl⟩

theorem Below.child {front inner : List Char} (h : files.Below front inner) (behind : List Char) :
    files.Below (front ++ '/' :: behind) (inner ++ '/' :: behind) := by
  obtain ⟨rfl, rfl | ⟨more, rfl⟩⟩ := h
  · exact ⟨by rw [List.append_nil]; rfl, Or.inr ⟨behind, rfl⟩⟩
  · exact ⟨List.append_assoc .., Or.inr ⟨more ++ '/' :: behind, rfl⟩⟩

theorem joinPath_empty (name : String) : joinPath "" name = name := by
  rw [joinPath, if_pos]
  exact Bool.or_true _

/-- One slash is between a path and a name behind it. -/
theorem joinPath_toList (h : Name name) (hpath : path ≠ "") :
    ∃ front, (joinPath path name).toList = front ++ '/' :: name.toList ∧
      (path.toList = front ∨ path.toList = front ++ ['/']) := by
  have hslash : "/".toList = ['/'] := rfl
  have hplain : ¬ (name.startsWith "/" || path.isEmpty) = true := by
    rw [Bool.or_eq_true, String.startsWith_string_iff, String.isEmpty_iff]
    rintro (⟨more, hname⟩ | hempty)
    · exact h.noSlash (hname ▸ List.mem_append_left more List.mem_cons_self)
    · exact hpath hempty
  rw [joinPath, if_neg hplain]
  split
  · next hends =>
    have hsuffix : path.toSlice.endsWith "/" = true := hends
    rw [String.Slice.endsWith_string_iff, String.copy_toSlice] at hsuffix
    obtain ⟨front, hfront⟩ := hsuffix
    refine ⟨front, ?_, Or.inr hfront.symm⟩
    rw [String.toList_append, ← hfront, List.append_assoc]
    rfl
  · refine ⟨path.toList, ?_, Or.inl rfl⟩
    rw [String.toList_append, String.toList_append, List.append_assoc]
    rfl

/-- A null is in both or in neither. -/
theorem null_mem_joinPath (h : Name name) (hpath : path ≠ "") :
    '\x00' ∈ (joinPath path name).toList ↔ '\x00' ∈ path.toList := by
  obtain ⟨front, htext, hfront⟩ := joinPath_toList h hpath
  rcases hfront with hsame | hslash
  · rw [htext, hsame]
    simp [h.noNull]
  · rw [htext, hslash]
    simp [h.noNull]

/-- A walk along what is in front of a slash arrives: from the root on if that is in front, and
    else from the working directory, unless the slash is at the top. -/
def Arrives (files : Files) (front : List Char) (dir : List String) : Prop :=
  (∃ inner, files.Below front inner ∧ files.walk [] (namesOf inner) = .ok dir) ∨
    ((front ++ ['/']).head? ≠ some '/' ∧ files.walk [] (namesOf front) = .ok dir)

section Rooted

variable (hroot : files.Rooted)
include hroot

theorem resolve_iff (hnull : '\x00' ∉ path.toList) (hne : path ≠ "") :
    files.resolve path = .ok last ↔
      (∃ rest, files.Below path.toList rest ∧ files.walk [] (namesOf rest) = .ok last) ∨
        (path.toList.head? ≠ some '/' ∧ files.walk [] (namesOf path.toList) = .ok last) := by
  by_cases hbelow : ∃ rest, files.Below path.toList rest
  · obtain ⟨rest, hrest⟩ := hbelow
    rw [resolve_below hrest hnull hne]
    constructor
    · exact fun hwalk => Or.inl ⟨rest, hrest, hwalk⟩
    · rintro (⟨other, hother, hwalk⟩ | ⟨hhead, -⟩)
      · rw [hrest.rest_eq, ← hother.rest_eq]
        exact hwalk
      · exact absurd (hrest.head? hroot) hhead
  · rw [not_exists] at hbelow
    rw [resolve_relative hbelow hnull hne]
    exact (or_iff_right fun ⟨rest, hrest, _⟩ => hbelow rest hrest).symm

/-- A path leads where the walk arrives that is along it, whether a slash is at its end or not. -/
theorem resolve_front {front : List Char} (hnull : '\x00' ∉ path.toList) (hne : path ≠ "")
    (hfront : path.toList = front ∨ path.toList = front ++ ['/']) :
    files.resolve path = .ok dir ↔ files.Arrives front dir := by
  rw [resolve_iff hroot hnull hne, Arrives]
  rcases hfront with hsame | hslash
  · have hhead : (front ++ ['/']).head? = path.toList.head? := by
      rw [hsame, List.head?_append_of_ne_nil]
      exact fun hnil => hne (String.toList_eq_nil_iff.mp (hsame.trans hnil))
    rw [hhead, hsame]
  · rw [hslash, namesOf_slash]
    refine or_congr_left ⟨?_, ?_⟩
    · rintro ⟨rest, hrest, hwalk⟩
      rcases hrest.front List.not_mem_nil with rfl | ⟨inner, rfl, hinner⟩
      · -- no slash is at the end of the root
        have hlast := hroot.bare
        rw [← List.append_nil files.root.toList, ← hrest.1, List.getLast?_concat] at hlast
        exact absurd rfl hlast
      · exact ⟨inner, hinner, namesOf_slash inner ▸ hwalk⟩
    · rintro ⟨inner, hinner, hwalk⟩
      exact ⟨inner ++ ['/'], hinner.child [], (namesOf_slash inner).symm ▸ hwalk⟩

/-- A path with one more name leads to this name where the walk in front of it arrives. -/
theorem resolve_behind (h : Name name) {front : List Char} (hnull : '\x00' ∉ path.toList)
    (hpath : path.toList = front ++ '/' :: name.toList) :
    (files.resolve path = .ok last ∧ last ≠ []) ↔ ∃ dir, files.Arrives front dir ∧
      files.node? dir = some .directory ∧ name.utf8ByteSize ≤ 255 ∧ last = dir ++ [name] := by
  have hne : path ≠ "" := by
    rintro rfl
    exact absurd hpath.symm (List.append_ne_nil_of_right_ne_nil front (List.cons_ne_nil _ _))
  have hhead : (front ++ '/' :: name.toList).head? = (front ++ ['/']).head? := by
    cases front with
    | nil => rfl
    | cons c front => rfl
  rw [resolve_iff hroot hnull hne, hpath, namesOf_child h, hhead]
  constructor
  · rintro ⟨⟨rest, hrest, hwalk⟩ | ⟨htop, hwalk⟩, hlast⟩
    · rcases hrest.front h.noSlash with rfl | ⟨inner, rfl, hinner⟩
      · exact absurd (Except.ok.inj hwalk).symm hlast
      · rw [namesOf_child h, walk_concat h] at hwalk
        obtain ⟨dir, hdir, harrives⟩ := hwalk
        exact ⟨dir, Or.inl ⟨inner, hinner, hdir⟩, harrives⟩
    · rw [walk_concat h] at hwalk
      obtain ⟨dir, hdir, harrives⟩ := hwalk
      exact ⟨dir, Or.inr ⟨htop, hdir⟩, harrives⟩
  · rintro ⟨dir, hdir, hnode, hshort, rfl⟩
    refine ⟨?_, List.append_ne_nil_of_right_ne_nil dir (List.cons_ne_nil name [])⟩
    rcases hdir with ⟨inner, hinner, hwalk⟩ | ⟨htop, hwalk⟩
    · refine Or.inl ⟨inner ++ '/' :: name.toList, hinner.child name.toList, ?_⟩
      rw [namesOf_child h]
      exact (walk_concat h _).mpr ⟨dir, hwalk, hnode, hshort, rfl⟩
    · exact Or.inr ⟨htop, (walk_concat h _).mpr ⟨dir, hwalk, hnode, hshort, rfl⟩⟩

/-- **CHILD**: a path with one more name leads to this name in the directory that the path leads
    to, and nowhere else below the root; and it does so unless the name is too long. -/
theorem resolve_child (h : Name name) :
    (files.resolve (joinPath path name) = .ok last ∧ last ≠ []) ↔
      ∃ dir, files.Directory path dir ∧ name.utf8ByteSize ≤ 255 ∧ last = dir ++ [name] := by
  by_cases hpath : path = ""
  · have hsingle : name.toList.head? ≠ some '/' :=
      fun hhead => h.noSlash (List.mem_of_mem_head? hhead)
    have hbelow (rest : List Char) : ¬ files.Below name.toList rest :=
      fun hrest => hsingle (hrest.head? hroot)
    rw [hpath, joinPath_empty, resolve_relative hbelow h.noNull h.nonempty, namesOf_name h,
      walk_single h]
    constructor
    · rintro ⟨⟨-, -, hshort, rfl⟩, -⟩
      exact ⟨[], ⟨Or.inl ⟨rfl, rfl⟩, rfl⟩, hshort, rfl⟩
    · rintro ⟨dir, ⟨⟨-, rfl⟩ | hempty, hnode⟩, hshort, rfl⟩
      · exact ⟨⟨hsingle, hnode, hshort, rfl⟩, List.cons_ne_nil _ _⟩
      · exact absurd rfl (sound_of_resolve hempty).2
  · obtain ⟨front, htext, hfront⟩ := joinPath_toList h hpath
    constructor
    · intro hresolve
      have hnull := (sound_of_resolve hresolve.1).1
      obtain ⟨dir, hdir, hnode, hshort, hlast⟩ := (resolve_behind hroot h hnull htext).mp hresolve
      rw [null_mem_joinPath h hpath] at hnull
      have hleads := (resolve_front hroot hnull hpath hfront).mpr hdir
      exact ⟨dir, ⟨Or.inr hleads, hnode⟩, hshort, hlast⟩
    · rintro ⟨dir, ⟨⟨hempty, -⟩ | hleads, hnode⟩, hshort, hlast⟩
      · exact absurd hempty hpath
      · have hnull := (sound_of_resolve hleads).1
        have hdir := (resolve_front hroot hnull hpath hfront).mp hleads
        rw [← null_mem_joinPath h hpath] at hnull
        exact (resolve_behind hroot h hnull htext).mpr ⟨dir, hdir, hnode, hshort, hlast⟩

/-- A name where nothing is becomes a directory. -/
theorem makeDirectories_name (h : Name name) (hshort : name.utf8ByteSize ≤ 255)
    (hnone : files.node? [name] = none) :
    files.makeDirectories name = .ok (files.put [name] .directory) ∧
      (files.put [name] .directory).Directory name [name] := by
  have hhere : files.Directory "" [] := ⟨Or.inl ⟨rfl, rfl⟩, rfl⟩
  obtain ⟨hresolve, -⟩ := (resolve_child hroot h).mpr ⟨[], hhere, hshort, rfl⟩
  rw [joinPath_empty, List.nil_append] at hresolve
  have hmake : files.makeDirectory name = .ok (files.put [name] .directory) := by
    rw [makeDirectory, hresolve]
    simp only [bind, Except.bind, hnone]
  refine ⟨?_, Or.inr (resolve_put (hnone ▸ nofun) hresolve), node?_put (List.cons_ne_nil name [])⟩
  obtain ⟨fuel, hfuel⟩ := Nat.exists_eq_succ_of_ne_zero (mt String.length_eq_zero_iff.mp h.nonempty)
  rw [makeDirectories, hfuel, makeDirectories.go, if_neg (mt String.isEmpty_iff.mp h.nonempty)]
  simp only [hmake]

/-! ## Writing into a directory -/

/-- What is opened for writing behind a path is in the directory that the path leads to. -/
theorem open_child (h : Name name) {held : Bytes} {executable : Bool}
    (hopen : files.openForWriting (joinPath path name) = .ok (last, held, executable)) :
    ∃ dir, files.Directory path dir ∧ name.utf8ByteSize ≤ 255 ∧ last = dir ++ [name] := by
  obtain ⟨hresolve, hnode⟩ := resolve_of_open hopen
  have hlast : last ≠ [] := by
    rintro rfl
    exact hnode rfl
  exact (resolve_child hroot h).mp ⟨hresolve, hlast⟩

/-- A file can be written in a directory if there is one, its name is not too long and no directory
    has this name. -/
theorem write_child_iff (h : Name name) (content : Bytes) :
    (∃ written, files.write (joinPath path name) content = .ok written) ↔
      ∃ dir, files.Directory path dir ∧ name.utf8ByteSize ≤ 255 ∧
        files.node? (dir ++ [name]) ≠ some .directory := by
  constructor
  · rintro ⟨written, hwrite⟩
    obtain ⟨last, held, executable, hopen, -⟩ := write_eq_ok hwrite
    obtain ⟨dir, hdir, hshort, rfl⟩ := open_child hroot h hopen
    exact ⟨dir, hdir, hshort, (resolve_of_open hopen).2⟩
  · rintro ⟨dir, hdir, hshort, hnode⟩
    obtain ⟨hresolve, -⟩ := (resolve_child hroot h).mpr ⟨dir, hdir, hshort, rfl⟩
    obtain ⟨opened, hopen⟩ := opens_of_resolve hresolve hnode
    exact write_of_open content hopen

end Rooted

/-- One tree has a file with a content in the directory that a path leads to, and all other files
    as the other tree has them. -/
def WritesChild (files : Files) (path name : String) (content : Bytes) (written : Files) : Prop :=
  ∃ dir executable, written.Directory path dir ∧
    written.file? (dir ++ [name]) = some (content, executable) ∧
    ∀ names, names ≠ dir ++ [name] → written.file? names = files.file? names

/-- **WRITING**: a file that is written behind a path is a child of the directory that the path
    leads to, and no other file is touched. -/
theorem writesChild (hroot : files.Rooted) (h : Name name) {content : Bytes} {written : Files}
    (hwrite : files.write (joinPath path name) content = .ok written) :
    files.WritesChild path name content written := by
  obtain ⟨last, held, executable, hopen, rfl⟩ := write_eq_ok hwrite
  obtain ⟨dir, hdir, -, rfl⟩ := open_child hroot h hopen
  have hnode := (resolve_of_open hopen).2
  have hchild : dir ++ [name] ≠ [] := List.append_ne_nil_of_right_ne_nil dir (List.cons_ne_nil name [])
  refine ⟨dir, executable, ⟨hdir.path.imp_right (resolve_put hnode), ?_⟩, ?_, ?_⟩
  · rw [node?_put_of_ne, hdir.node]
    -- the child is not the directory itself
    exact fun hself => List.cons_ne_nil name [] (List.self_eq_append_right.mp hself)
  · rw [file?, node?_put hchild]
  · intro names hother
    rw [file?, file?, node?_put_of_ne hother]

end Upkeep.Files
