import Upkeep.Job.Basic
import Upkeep.Proofs.Host.Directories
import Upkeep.Proofs.Job.FileName

/-! # Filing — where a text goes under a free name

    A text is filed in the log directory under the file name of a free name.  A
    stem has no slash and no null in it, and with its ending a file name is none
    of the names with a meaning of their own (`name_fileName`).  So whatever the
    name is, the file is a child of the log directory, and all other files are as
    before (`Job.Filed.writes`).  A text that is not filed leaves all files alone
    (`Job.Filed.refused`). -/

namespace Upkeep

open Files

variable {σ : Type}

/-- A file name can be given to a file in a directory. -/
theorem name_fileName (name : String) : Name (fileName name) := by
  obtain ⟨stem, hname, hstem⟩ := fileName_stem name
  have htext : (fileName name).toList = stem.toList ++ ".txt".toList := by
    rw [hname, String.toList_append]
  have hmem {c : Char} (hword : isWord c = false) (hhyphen : c ≠ '-') (hend : c ∉ ".txt".toList) :
      c ∉ (fileName name).toList := by
    rw [htext, List.mem_append, not_or]
    exact ⟨hstem.not_mem hword hhyphen, hend⟩
  have hlong {short : String} (hshort : 't' ∉ short.toList) : fileName name ≠ short := by
    rintro rfl
    exact hshort (htext ▸ List.mem_append_right _ (by decide))
  exact ⟨hlong (by decide), hmem (by decide) (by decide) (by decide),
    hmem (by decide) (by decide) (by decide), hlong (by decide), hlong (by decide)⟩

/-- There is room for a file in a directory: the directory can be made, the file's name is not too
    long, and no directory in it has this name. -/
def Files.Room (files : Files) (directory name : String) : Prop :=
  ∃ made, files.makeDirectories directory = .ok made ∧ name.utf8ByteSize ≤ 255 ∧
    ∀ dir, made.Directory directory dir → made.node? (dir ++ [name]) ≠ some .directory

namespace Job

variable {job : Job σ} {name text : String}

/-- What it comes to when a text is filed: the result, and the files then. -/
inductive Filed (job : Job σ) (name text : String) : Except IoError String → Files → Prop where
  | unmade {error : IoError} :
      job.host.files.makeDirectories job.assignment.logDir = .error error →
      Filed job name text (.error error) job.host.files
  | unwritten {made : Files} {error : IoError} :
      job.host.files.makeDirectories job.assignment.logDir = .ok made →
      made.write (joinPath job.assignment.logDir (fileName name)) (encodeUtf8 text.toList)
        = .error error →
      Filed job name text (.error error) made
  | written {made written : Files} :
      job.host.files.makeDirectories job.assignment.logDir = .ok made →
      made.write (joinPath job.assignment.logDir (fileName name)) (encodeUtf8 text.toList)
        = .ok written →
      Filed job name text (.ok (joinPath job.assignment.logDir (fileName name))) written

theorem filed (job : Job σ) (name text : String) :
    job.Filed name text (job.saveFile name text).1 (job.saveFile name text).2.host.files := by
  cases hmade : job.host.files.makeDirectories job.assignment.logDir with
  | error error =>
      simp only [saveFile, hmade]
      exact .unmade hmade
  | ok made =>
      cases hwrite : made.write (joinPath job.assignment.logDir (fileName name))
          (encodeUtf8 text.toList) with
      | error error =>
          simp only [saveFile, hmade, hwrite]
          exact .unwritten hmade hwrite
      | ok written =>
          simp only [saveFile, hmade, hwrite]
          exact .written hmade hwrite

namespace Filed

variable {result : Except IoError String} {left : Files} {path : String}

/-- **REFUSED**: a text that is not filed leaves all files as they were. -/
theorem refused {error : IoError} (h : job.Filed name text (.error error) left) :
    job.host.files.Grown left := by
  cases h with
  | unmade _ => exact .refl job.host.files
  | unwritten hmade _ => exact grown_makeDirectories hmade

/-- The path of a text that is filed is told by the name. -/
theorem path_eq (h : job.Filed name text (.ok path) left) :
    path = joinPath job.assignment.logDir (fileName name) := by
  cases h with
  | written _ _ => rfl

section Rooted

variable (hroot : job.host.files.Rooted)
include hroot

/-- **FILED**: a text that is filed is a child of the log directory, and all other files are as
    they were. -/
theorem writes (h : job.Filed name text (.ok path) left) :
    job.host.files.WritesChild job.assignment.logDir (fileName name) (encodeUtf8 text.toList)
      left := by
  cases h with
  | written hmade hwrite =>
      have hgrown := grown_makeDirectories hmade
      obtain ⟨dir, executable, hdir, hfile, hothers⟩ :=
        writesChild (hgrown.rooted hroot) (name_fileName name) hwrite
      exact ⟨dir, executable, hdir, hfile, fun names hother =>
        (hothers names hother).trans (hgrown.kept names)⟩

/-- A text is filed if there is room for it. -/
theorem ok_iff (h : job.Filed name text result left) : (∃ path, result = .ok path) ↔
    job.host.files.Room job.assignment.logDir (fileName name) := by
  have hchild {made : Files}
      (hmade : job.host.files.makeDirectories job.assignment.logDir = .ok made) :
      (∃ written, made.write (joinPath job.assignment.logDir (fileName name))
        (encodeUtf8 text.toList) = .ok written) ↔ _ :=
    write_child_iff ((grown_makeDirectories hmade).rooted hroot) (name_fileName name) _
  cases h with
  | unmade hmade =>
      refine ⟨nofun, ?_⟩
      rintro ⟨made, hother, -⟩
      rw [hmade] at hother
      cases hother
  | unwritten hmade hwrite =>
      refine ⟨nofun, ?_⟩
      rintro ⟨made, hother, hshort, hnode⟩
      obtain rfl := Except.ok.inj (hmade.symm.trans hother)
      obtain ⟨dir, hdir⟩ := directory_of_makeDirectories hmade
      obtain ⟨written, hdone⟩ := (hchild hmade).mpr ⟨dir, hdir, hshort, hnode dir hdir⟩
      rw [hwrite] at hdone
      cases hdone
  | written hmade hwrite =>
      refine ⟨fun _ => ?_, fun _ => ⟨_, rfl⟩⟩
      obtain ⟨dir, hdir, hshort, hnode⟩ := (hchild hmade).mp ⟨_, hwrite⟩
      exact ⟨_, hmade, hshort, fun other hother => hdir.unique hother ▸ hnode⟩

end Rooted

end Filed

end Job

/-! ## Names, stems and files -/

/-- **CONFINED**: whatever a name is, its file name is a stem with an ending, and no slash, dot or
    null is in the stem; names that only differ in what stands between, in front of and behind
    their runs have one file name, and no others have.  A text that is filed is a child of the log
    directory, and no other file is touched; it is filed if there is room. -/
theorem saveFile_confined :
    (∀ name, ∃ stem, fileName name = stem ++ ".txt" ∧ Stem stem ∧
      '/' ∉ stem.toList ∧ '.' ∉ stem.toList ∧ '\x00' ∉ stem.toList) ∧
    (∀ name other, fileName name = fileName other ↔
      wordRuns name.toList = wordRuns other.toList ∧
        startsApart name.toList = startsApart other.toList ∧
        endsApart name.toList = endsApart other.toList) ∧
    ∀ (job : Job σ) (name text : String), job.host.files.Rooted →
      ((∃ path, (job.saveFile name text).1 = .ok path) ↔
        job.host.files.Room job.assignment.logDir (fileName name)) ∧
      match (job.saveFile name text).1 with
      | .ok path => path = joinPath job.assignment.logDir (fileName name) ∧
          job.host.files.WritesChild job.assignment.logDir (fileName name)
            (encodeUtf8 text.toList) (job.saveFile name text).2.host.files
      | .error _ => ∀ names,
          (job.saveFile name text).2.host.files.file? names = job.host.files.file? names := by
  refine ⟨?_, fun _ _ => fileName_eq_iff, ?_⟩
  · intro name
    obtain ⟨stem, hname, hstem⟩ := fileName_stem name
    exact ⟨stem, hname, hstem, hstem.not_mem (by decide) (by decide),
      hstem.not_mem (by decide) (by decide), hstem.not_mem (by decide) (by decide)⟩
  · intro job name text hroot
    have hfiled := job.filed name text
    generalize (job.saveFile name text).1 = result at hfiled
    refine ⟨hfiled.ok_iff hroot, ?_⟩
    cases result with
    | ok path => exact ⟨hfiled.path_eq, hfiled.writes hroot⟩
    | error error => exact hfiled.refused.kept

/-- A job next to a file that is none of its business. -/
def besidePasswords : Job Unit where
  assignment := { hostname := "r1", logDir := "logs" }
  session := none
  host := { files := { root := "/work", nodes :=
    [(["etc"], .directory), (["etc", "passwd"], .file "root".toUTF8.toList false)] } }

/-- A name that climbs out of the log directory is filed in it. -/
theorem climbing_name_stays :
    besidePasswords.host.files.Rooted ∧
      fileName "../etc/passwd" = "-etc-passwd.txt" ∧
      fileName "../etc/passwd" = fileName "/etc  passwd" ∧
      fileName "../etc/passwd" ≠ fileName "etc/passwd" ∧
      (∃ path, (besidePasswords.saveFile "../etc/passwd" "up").1 = .ok path) ∧
      besidePasswords.host.files.WritesChild "logs" "-etc-passwd.txt" (encodeUtf8 "up".toList)
        (besidePasswords.saveFile "../etc/passwd" "up").2.host.files := by
  have hname : fileName "../etc/passwd" = "-etc-passwd.txt" := by decide +kernel
  have hroot : besidePasswords.host.files.Rooted := ⟨by decide, by decide⟩
  have hlogs : Name "logs" := ⟨by decide, by decide, by decide, by decide, by decide⟩
  obtain ⟨-, hcollide, hfiles⟩ := saveFile_confined (σ := Unit)
  obtain ⟨hroom, hfiled⟩ := hfiles besidePasswords "../etc/passwd" "up" hroot
  obtain ⟨hmade, hdir⟩ := makeDirectories_name hroot hlogs (by decide) (by decide)
  obtain ⟨path, hpath⟩ : ∃ path, (besidePasswords.saveFile "../etc/passwd" "up").1 = .ok path := by
    rw [hroom, hname]
    refine ⟨_, hmade, by decide, fun dir hother => ?_⟩
    rw [← hdir.unique hother]
    decide
  rw [hpath] at hfiled
  refine ⟨hroot, hname, ?_, ?_, ⟨path, hpath⟩, hname ▸ hfiled.2⟩
  · exact (hcollide "../etc/passwd" "/etc  passwd").mpr (by decide +kernel)
  · rw [Ne, hcollide "../etc/passwd" "etc/passwd"]
    decide +kernel

end Upkeep
