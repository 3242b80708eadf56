import Mathlib.Data.List.Induction
import Mathlib.Data.List.Nodup
import Upkeep.Proofs.Job.Account
import Upkeep.Proofs.Plugin.Eligibility
import Upkeep.Session.Replay

/-! # Retained plugins — what a catalog keeps, and what it complains about

    One pass over a registry makes a catalog and its complaints.  What becomes
    of the plugin at a place is decided by the registry up to there: it is kept
    if it is eligible and no eligible plugin before it has its name
    (`Registry.Retains`), and it is complained about if it is incomplete or if
    its name is taken (`Registry.Complains`).  A plugin that the criteria turn
    down is neither, and takes no name.

    `ByPlace` says that a list has one item for each place at which there is
    something, in the order of the places.  The catalog is such a list of what
    is retained, and the complaints are such a list of what is complained
    about. -/

namespace Upkeep

variable {σ : Type}

/-! ## Items by their places -/

/-- The items are exactly those that stand at a place, one for each place and in the order of the
    places. -/
def ByPlace {α : Type} (stands : Nat → α → Prop) (items : List α) : Prop :=
  ∃ rows : List (Nat × α), rows.Pairwise (fun a b => a.1 < b.1) ∧
    (∀ place item, (place, item) ∈ rows ↔ stands place item) ∧ rows.map Prod.snd = items

namespace ByPlace

variable {α β : Type} {stands : Nat → α → Prop} {items : List α}

/-- What is kept of a list stands where it stood. -/
theorem filterMap (f : β → Option α) (list : List β) :
    ByPlace (fun place item => list[place]?.bind f = some item) (list.filterMap f) := by
  refine ⟨list.zipIdx.filterMap fun row => (f row.1).map (row.2, ·), ?_, ?_, ?_⟩
  · have hplaces : list.zipIdx.Pairwise fun a b => a.2 < b.2 := by
      have hrange : (list.zipIdx.map Prod.snd).Pairwise (· < ·) := by
        rw [List.zipIdx_map_snd]
        exact List.pairwise_lt_range'
      exact List.pairwise_map.mp hrange
    refine List.pairwise_filterMap.mpr (hplaces.imp ?_)
    intro a b hlt row hrow other hother
    obtain ⟨item, -, rfl⟩ := Option.map_eq_some_iff.mp hrow
    obtain ⟨item', -, rfl⟩ := Option.map_eq_some_iff.mp hother
    exact hlt
  · intro place item
    rw [List.mem_filterMap]
    constructor
    · rintro ⟨⟨b, k⟩, hmem, hrow⟩
      obtain ⟨other, hother, heq⟩ := Option.map_eq_some_iff.mp hrow
      obtain ⟨rfl, rfl⟩ := Prod.mk.inj heq
      rw [List.mem_zipIdx_iff_getElem?] at hmem
      rw [hmem]
      exact hother
    · intro h
      obtain ⟨b, hb, hitem⟩ := Option.bind_eq_some_iff.mp h
      refine ⟨(b, place), List.mem_zipIdx_iff_getElem?.mpr hb, ?_⟩
      rw [hitem]
      rfl
  · have hsnd : (fun row : β × Nat => ((f row.1).map (row.2, ·)).map Prod.snd)
        = f ∘ Prod.fst := by
      funext row
      cases hrow : f row.1 <;> simp [hrow]
    rw [List.map_filterMap, hsnd, ← List.filterMap_map, List.zipIdx_map_fst]

/-- Only what stands somewhere matters. -/
theorem congr {other : Nat → α → Prop} (h : ByPlace stands items)
    (hsame : ∀ place item, stands place item ↔ other place item) : ByPlace other items := by
  obtain ⟨rows, hsorted, hmem, hitems⟩ := h
  exact ⟨rows, hsorted, fun place item => (hmem place item).trans (hsame place item), hitems⟩

/-- The items are what stands somewhere. -/
theorem mem_iff (h : ByPlace stands items) (item : α) :
    item ∈ items ↔ ∃ place, stands place item := by
  obtain ⟨rows, -, hmem, rfl⟩ := h
  rw [List.mem_map]
  constructor
  · rintro ⟨⟨place, item⟩, hrow, rfl⟩
    exact ⟨place, (hmem place item).mp hrow⟩
  · rintro ⟨place, hstands⟩
    exact ⟨(place, item), (hmem place item).mpr hstands, rfl⟩

/-- What holds of two things at different places holds of the items. -/
theorem pairwise {R : α → α → Prop} (h : ByPlace stands items)
    (hR : ∀ place later item other, place < later → stands place item → stands later other →
      R item other) : items.Pairwise R := by
  obtain ⟨rows, hsorted, hmem, rfl⟩ := h
  refine List.pairwise_map.mpr (hsorted.imp_of_mem ?_)
  rintro ⟨place, item⟩ ⟨later, other⟩ hrow hother hlt
  exact hR place later item other hlt ((hmem _ _).mp hrow) ((hmem _ _).mp hother)

end ByPlace

/-! ## What becomes of a place -/

namespace Registry

variable (registry : Registry σ) (criteria : Criteria)

/-- An eligible plugin before the place has the name. -/
def TakenBefore (place : Nat) (name : String) : Prop :=
  ∃ earlier < place, ∃ entry descriptor, registry[earlier]? = some entry ∧
    entry.Eligible criteria descriptor ∧ descriptor.name = name

/-- The plugin at the place is eligible and the first with its name, and so it is in the catalog. -/
structure Retains (place : Nat) (kept : CatalogEntry σ) : Prop where
  entry : registry[place]? = some kept.registered
  eligible : kept.registered.Eligible criteria kept.descriptor
  first : ¬ registry.TakenBefore criteria place kept.descriptor.name

/-- The complaint about the plugin at the place, if there is one. What the criteria turn down is no
    reason to complain. -/
inductive Complains : Nat → Complaint → Prop where
  | incomplete {place : Nat} {entry : RegistryEntry σ} {missing : Attribute} :
      registry[place]? = some entry → entry.plugin.manifest.Lacks missing →
      Complains place (.incomplete entry.id missing)
  | duplicate {place : Nat} {entry : RegistryEntry σ} {descriptor : Descriptor} :
      registry[place]? = some entry → entry.Eligible criteria descriptor →
      registry.TakenBefore criteria place descriptor.name →
      Complains place (.duplicate entry.id descriptor.name)

variable {registry criteria}

/-- A name is taken before a place exactly if it is provided up to there. -/
theorem takenBefore_iff (place : Nat) (name : String) :
    registry.TakenBefore criteria place name ↔
      Registry.Provided (registry.take place) criteria name := by
  rw [Registry.provided_iff]
  constructor
  · rintro ⟨earlier, hlt, entry, descriptor, hentry, heligible, hname⟩
    refine ⟨entry, List.mem_iff_getElem?.mpr ⟨earlier, ?_⟩, descriptor, heligible, hname⟩
    rw [List.getElem?_take_of_lt hlt]
    exact hentry
  · rintro ⟨entry, hmem, descriptor, heligible, hname⟩
    obtain ⟨earlier, hentry⟩ := List.mem_iff_getElem?.mp hmem
    rw [List.getElem?_take] at hentry
    split at hentry
    · next hlt => exact ⟨earlier, hlt, entry, descriptor, hentry, heligible, hname⟩
    · exact nomatch hentry

end Registry

namespace Catalog

/-- A catalog made of the registry up to a place has the names that are taken there. -/
theorem has_take (registry : Registry σ) (criteria : Criteria) (place : Nat) (name : String) :
    (scan (registry.take place) criteria).1.has name = true ↔
      registry.TakenBefore criteria place name := by
  rw [(coupled_scan _ criteria).has_eq, get?_scan, Registry.isSome_provider?,
    Registry.takenBefore_iff]

/-- An entry is kept if it is eligible and its name is new. -/
theorem consider_eq_ok_iff (criteria : Criteria) (catalog : Catalog σ) (entry : RegistryEntry σ)
    (kept : CatalogEntry σ) :
    consider criteria catalog entry = .ok kept ↔
      kept.registered = entry ∧ entry.Eligible criteria kept.descriptor ∧
        ¬ catalog.has kept.descriptor.name = true := by
  rw [RegistryEntry.eligible_iff, consider]
  constructor
  · intro h
    split at h
    · cases h
    · next descriptor hdescribe =>
      split at h
      · cases h
      · next hadmits =>
        split at h
        · cases h
        · next hnew =>
          obtain rfl := Except.ok.inj h
          exact ⟨rfl, ⟨hdescribe, by simpa using hadmits⟩, hnew⟩
  · rintro ⟨rfl, ⟨hdescribe, hadmits⟩, hnew⟩
    simp only [hdescribe, hadmits, hnew, Bool.not_true, Bool.false_eq_true, ↓reduceIte]
    rfl

/-- An entry is complained about if it is incomplete, or if it is eligible and its name is not
    new. -/
theorem consider_eq_complaint_iff (criteria : Criteria) (catalog : Catalog σ)
    (entry : RegistryEntry σ) (complaint : Complaint) :
    consider criteria catalog entry = .error (some complaint) ↔
      (∃ missing, entry.plugin.manifest.Lacks missing ∧
        complaint = .incomplete entry.id missing) ∨
      ∃ descriptor, entry.Eligible criteria descriptor ∧
        catalog.has descriptor.name = true ∧
        complaint = .duplicate entry.id descriptor.name := by
  simp only [RegistryEntry.eligible_iff, ← Manifest.describe_eq_error_iff, consider]
  constructor
  · intro h
    split at h
    · next missing hdescribe =>
      obtain rfl := Option.some.inj (Except.error.inj h)
      exact Or.inl ⟨missing, hdescribe, rfl⟩
    · next descriptor hdescribe =>
      split at h
      · cases h
      · next hadmits =>
        split at h
        · next htaken =>
          obtain rfl := Option.some.inj (Except.error.inj h)
          exact Or.inr ⟨descriptor, ⟨hdescribe, by simpa using hadmits⟩, htaken, rfl⟩
        · cases h
  · rintro (⟨missing, hdescribe, rfl⟩ | ⟨descriptor, ⟨hdescribe, hadmits⟩, htaken, rfl⟩)
    · rw [hdescribe]
    · simp only [hdescribe, hadmits, htaken, Bool.not_true, Bool.false_eq_true, ↓reduceIte]

/-! ## The pass, place by place -/

/-- What becomes of each entry of a registry, given what has been kept before it. -/
def verdicts (registry : Registry σ) (criteria : Criteria) :
    List (Except (Option Complaint) (CatalogEntry σ)) :=
  registry.zipIdx.map fun row => consider criteria (scan (registry.take row.2) criteria).1 row.1

/-- The complaint of a verdict. -/
def complaint? : Except (Option Complaint) (CatalogEntry σ) → Option Complaint
  | .ok _ => none
  | .error complaint => complaint

/-- The verdict on a place. -/
theorem getElem?_verdicts (registry : Registry σ) (criteria : Criteria) (place : Nat) :
    (verdicts registry criteria)[place]? = registry[place]?.map
      (consider criteria (scan (registry.take place) criteria).1) := by
  rw [verdicts, List.getElem?_map, List.getElem?_zipIdx, Nat.zero_add]
  cases registry[place]? with
  | none => rfl
  | some entry => rfl

/-- One entry more at the end has its own verdict and does not change those before it. -/
theorem verdicts_concat (registry : Registry σ) (criteria : Criteria) (entry : RegistryEntry σ) :
    verdicts (registry ++ [entry]) criteria
      = verdicts registry criteria ++ [consider criteria (scan registry criteria).1 entry] := by
  have hbefore : ∀ row ∈ registry.zipIdx,
      consider criteria (scan ((registry ++ [entry]).take row.2) criteria).1 row.1
        = consider criteria (scan (registry.take row.2) criteria).1 row.1 := by
    rintro ⟨other, place⟩ hrow
    obtain ⟨hlt, -⟩ := List.getElem?_eq_some_iff.mp (List.mem_zipIdx_iff_getElem?.mp hrow)
    rw [List.take_append_of_le_length (Nat.le_of_lt hlt)]
  rw [verdicts, List.zipIdx_append, List.map_append, List.map_congr_left hbefore]
  simp [verdicts]

/-- One entry more at the end is one step more. -/
theorem scan_concat (registry : Registry σ) (criteria : Criteria) (entry : RegistryEntry σ) :
    scan (registry ++ [entry]) criteria = step criteria (scan registry criteria) entry := by
  rw [scan, scan, List.foldl_append, List.foldl_cons, List.foldl_nil]

/-- **PASS**: the pass keeps what its verdicts keep, and has their complaints. -/
theorem scan_eq_verdicts (registry : Registry σ) (criteria : Criteria) :
    (scan registry criteria).1.entries = (verdicts registry criteria).filterMap Except.toOption ∧
      (scan registry criteria).2 = (verdicts registry criteria).filterMap complaint? := by
  induction registry using List.reverseRecOn with
  | nil => exact ⟨rfl, rfl⟩
  | append_singleton registry entry ih =>
      obtain ⟨hentries, hcomplaints⟩ := ih
      rw [scan_concat, verdicts_concat, List.filterMap_append, List.filterMap_append, step,
        ← hentries, ← hcomplaints]
      rcases consider criteria (scan registry criteria).1 entry with (_ | complaint) | kept
      · exact ⟨(List.append_nil _).symm, (List.append_nil _).symm⟩
      · exact ⟨(List.append_nil _).symm, rfl⟩
      · exact ⟨rfl, (List.append_nil _).symm⟩

/-- The catalog holds what the registry retains, by its places. -/
theorem entries_byPlace (registry : Registry σ) (criteria : Criteria) :
    ByPlace (registry.Retains criteria) (scan registry criteria).1.entries := by
  rw [(scan_eq_verdicts registry criteria).1]
  refine (ByPlace.filterMap Except.toOption (verdicts registry criteria)).congr ?_
  intro place kept
  rw [getElem?_verdicts]
  constructor
  · intro h
    obtain ⟨verdict, hverdict, hkept⟩ := Option.bind_eq_some_iff.mp h
    obtain ⟨entry, hentry, rfl⟩ := Option.map_eq_some_iff.mp hverdict
    have hok : consider criteria (scan (registry.take place) criteria).1 entry = .ok kept :=
      Action.toOption_eq_some_iff.mp hkept
    obtain ⟨rfl, heligible, hnew⟩ := (consider_eq_ok_iff _ _ _ _).mp hok
    rw [has_take] at hnew
    exact ⟨hentry, heligible, hnew⟩
  · rintro ⟨hplace, heligible, hfirst⟩
    rw [← has_take] at hfirst
    rw [hplace, Option.map_some, (consider_eq_ok_iff _ _ _ kept).mpr ⟨rfl, heligible, hfirst⟩]
    rfl

/-- The complaints are those of the registry, by their places. -/
theorem complaints_byPlace (registry : Registry σ) (criteria : Criteria) :
    ByPlace (registry.Complains criteria) (scan registry criteria).2 := by
  rw [(scan_eq_verdicts registry criteria).2]
  refine (ByPlace.filterMap complaint? (verdicts registry criteria)).congr ?_
  intro place complaint
  rw [getElem?_verdicts]
  constructor
  · intro h
    obtain ⟨verdict, hverdict, hcomplaint⟩ := Option.bind_eq_some_iff.mp h
    obtain ⟨entry, hentry, rfl⟩ := Option.map_eq_some_iff.mp hverdict
    have herror : consider criteria (scan (registry.take place) criteria).1 entry
        = .error (some complaint) := by
      revert hcomplaint
      rcases consider criteria (scan (registry.take place) criteria).1 entry with other | kept
      · exact fun h => congrArg Except.error h
      · exact fun h => nomatch h
    rcases (consider_eq_complaint_iff _ _ _ _).mp herror with
      ⟨missing, hlacks, rfl⟩ | ⟨descriptor, heligible, htaken, rfl⟩
    · exact .incomplete hentry hlacks
    · exact .duplicate hentry heligible ((has_take _ _ _ _).mp htaken)
  · intro h
    obtain ⟨entry, hentry, herror⟩ : ∃ entry, registry[place]? = some entry ∧
        consider criteria (scan (registry.take place) criteria).1 entry
          = .error (some complaint) := by
      cases h with
      | incomplete hentry hlacks =>
          exact ⟨_, hentry, (consider_eq_complaint_iff _ _ _ _).mpr (Or.inl ⟨_, hlacks, rfl⟩)⟩
      | duplicate hentry heligible htaken =>
          exact ⟨_, hentry, (consider_eq_complaint_iff _ _ _ _).mpr
            (Or.inr ⟨_, heligible, (has_take _ _ _ _).mpr htaken, rfl⟩)⟩
    rw [hentry, Option.map_some, herror]
    rfl

/-! ## Look-ups -/

/-- If no two items have one key, looking for a key finds the item that has it. -/
theorem find?_key {α κ : Type} [DecidableEq κ] {key : α → κ} {items : List α}
    (distinct : (items.map key).Nodup) (wanted : κ) (item : α) :
    items.find? (key · = wanted) = some item ↔ item ∈ items ∧ key item = wanted := by
  constructor
  · intro h
    exact ⟨List.mem_of_find?_eq_some h, by simpa using List.find?_some h⟩
  · rintro ⟨hmem, rfl⟩
    have hsome : (items.find? (key · = key item)).isSome = true :=
      List.find?_isSome.mpr ⟨item, hmem, by simp⟩
    obtain ⟨found, hfound⟩ := Option.isSome_iff_exists.mp hsome
    have hkey : key found = key item := by simpa using List.find?_some hfound
    rw [hfound, List.inj_on_of_nodup_map distinct (List.mem_of_find?_eq_some hfound) hmem hkey]

/-- The names in a catalog are distinct. -/
theorem names_nodup (registry : Registry σ) (criteria : Criteria) :
    ((scan registry criteria).1.entries.map (·.descriptor.name)).Nodup := by
  refine List.pairwise_map.mpr ((entries_byPlace registry criteria).pairwise ?_)
  intro place later kept other hlt hkept hother hname
  exact hother.first ⟨place, hlt, _, _, hkept.entry, hkept.eligible, hname⟩

/-- Entries with distinct ids give a catalog with distinct ids. -/
theorem ids_nodup {registry : Registry σ} (distinct : (registry.map (·.id)).Nodup)
    (criteria : Criteria) : ((scan registry criteria).1.entries.map (·.id)).Nodup := by
  have hsub := (scan_sublist registry criteria).map RegistryEntry.id
  rw [List.map_map] at hsub
  exact hsub.nodup distinct

/-- A look-up gives the entry that has the name. -/
theorem get?_eq_some_iff (registry : Registry σ) (criteria : Criteria) (name : String)
    (kept : CatalogEntry σ) :
    (scan registry criteria).1.get? name = some kept ↔
      kept ∈ (scan registry criteria).1.entries ∧ kept.descriptor.name = name := by
  rw [(coupled_scan registry criteria).get?_eq]
  exact find?_key (names_nodup registry criteria) name kept

/-- A look-up by the id gives the name of the entry that has the id. -/
theorem nameForId?_eq_some_iff {registry : Registry σ}
    (distinct : (registry.map (·.id)).Nodup) (criteria : Criteria) (id name : String) :
    (scan registry criteria).1.nameForId? id = some name ↔
      ∃ kept ∈ (scan registry criteria).1.entries, kept.id = id ∧
        kept.descriptor.name = name := by
  have hreverse : ((scan registry criteria).1.entries.reverse.map (·.id)).Nodup := by
    rw [List.map_reverse, List.nodup_reverse]
    exact ids_nodup distinct criteria
  rw [(coupled_scan registry criteria).nameForId?_eq, Option.map_eq_some_iff]
  constructor
  · rintro ⟨kept, hfound, hname⟩
    obtain ⟨hmem, hid⟩ := (find?_key hreverse id kept).mp hfound
    exact ⟨kept, List.mem_reverse.mp hmem, hid, hname⟩
  · rintro ⟨kept, hmem, hid, hname⟩
    exact ⟨kept, (find?_key hreverse id kept).mpr ⟨List.mem_reverse.mpr hmem, hid⟩, hname⟩

/-! ## Building -/

/-- What a catalog and its complaints are to the registry that they were made from. -/
structure OnePass (registry : Registry σ) (criteria : Criteria) (catalog : Catalog σ)
    (complaints : List Complaint) : Prop where
  /-- The entries stand in the order of the registry. -/
  order : (catalog.entries.map CatalogEntry.registered).Sublist registry
  /-- There is one entry for each place whose plugin is eligible and the first with its name. -/
  entries : ByPlace (registry.Retains criteria) catalog.entries
  distinct : (catalog.entries.map (·.descriptor.name)).Nodup
  /-- The places by name and the names by id are those of the entries. -/
  coupled : catalog.Coupled
  get : ∀ name kept, catalog.get? name = some kept ↔
    kept ∈ catalog.entries ∧ kept.descriptor.name = name
  absent : ∀ name, catalog.get? name = none ↔
    ∀ kept ∈ catalog.entries, kept.descriptor.name ≠ name
  /-- If ids are distinct, an id has the name of the entry with this id, and else none. -/
  nameForId : (registry.map (·.id)).Nodup → ∀ id,
    (∀ name, catalog.nameForId? id = some name ↔
      ∃ kept ∈ catalog.entries, kept.id = id ∧ kept.descriptor.name = name) ∧
    (catalog.nameForId? id = none ↔ ∀ kept ∈ catalog.entries, kept.id ≠ id)
  /-- There is one complaint for each place that is incomplete or whose name is taken. -/
  complaints : ByPlace (registry.Complains criteria) complaints

/-- **ONE PASS**: building a catalog retains the eligible plugins that are the first with their
    names, finds them by name and by id, and leaves one warning with the job for each plugin that
    is incomplete and for each that is dropped because its name is taken. -/
theorem build_retains_first (registry : Registry σ) (criteria : Criteria) (job : Job σ) :
    ∃ complaints, OnePass registry criteria (build registry criteria job).1 complaints ∧
      (build registry criteria job).2.host.board.jobInfo = job.host.board.jobInfo ++
        if job.host.board.keeps then complaints.map (job.warningLine ·.message) else [] := by
  have hget := get?_eq_some_iff registry criteria
  refine ⟨(scan registry criteria).2, ⟨scan_sublist registry criteria,
    entries_byPlace registry criteria, names_nodup registry criteria,
    coupled_scan registry criteria, hget, ?_, ?_, complaints_byPlace registry criteria⟩, ?_⟩
  · intro name
    rw [Option.eq_none_iff_forall_ne_some]
    constructor
    · intro h kept hmem hname
      exact h kept ((hget name kept).mpr ⟨hmem, hname⟩)
    · intro h kept hfound
      obtain ⟨hmem, hname⟩ := (hget name kept).mp hfound
      exact h kept hmem hname
  · intro distinct id
    have hname := nameForId?_eq_some_iff distinct criteria id
    refine ⟨hname, ?_⟩
    rw [Option.eq_none_iff_forall_ne_some]
    constructor
    · intro h kept hmem hid
      exact h _ ((hname _).mpr ⟨kept, hmem, hid, rfl⟩)
    · intro h name hfound
      obtain ⟨kept, hmem, hid, -⟩ := (hname name).mp hfound
      exact h kept hmem hid
  · have hboard : (build registry criteria job).2.host.board
        = ((scan registry criteria).2.map (job.warningLine ·.message)).foldl Board.save
          job.host.board := Job.warnAll_board (scan registry criteria).2 job
    rw [hboard, Job.jobInfo_foldl_save]

/-- Copies of one name, of which the first is for another system, and two plugins that do not say
    all that is needed. -/
def copies : Registry Replay := [
  ⟨"site.other", { manifest := (Manifest.named "copy").forOs ["XR"], task := pure () }⟩,
  ⟨"site.copy", { manifest := Manifest.named " copy ", task := pure () }⟩,
  ⟨"site.again", { manifest := (Manifest.named "copy").forOs ["XE"], task := pure () }⟩,
  ⟨"site.open", { manifest := { Manifest.named "open" with platforms := none, os := none },
                  task := pure () }⟩,
  ⟨"site.blank", { manifest := Manifest.named " ", task := pure () }⟩]

/-- A job that has been given nothing to do. -/
def resting : Job Replay where
  assignment := { hostname := "router", logDir := "log" }
  session := none
  host := { files := { root := "/" } }

/-- The copy for another system does not stand in the way of the next one. -/
theorem build_retains_second_copy :
    (copies.map (·.id)).Nodup ∧
      (build copies { os := some "XE" } resting).1.nameForId? "site.other" = none ∧
      (build copies { os := some "XE" } resting).1.nameForId? "site.copy" = some "copy" ∧
      ∃ complaints,
        OnePass copies { os := some "XE" } (build copies { os := some "XE" } resting).1
          complaints ∧
        complaints.map (resting.warningLine ·.message) = [
          "WARNING: Duplicate plugin name 'copy' in: site.again; keeping the first one",
          "WARNING: Attribute 'platforms' missing in plugin: site.open",
          "WARNING: Attribute 'name' missing in plugin: site.blank"] := by
  have distinct : (copies.map (·.id)).Nodup := by decide
  have hentries : (build copies { os := some "XE" } resting).1.entries.map
      (fun kept => (kept.id, kept.descriptor.name)) = [("site.copy", "copy")] := by decide
  have hinfo : (build copies { os := some "XE" } resting).2.host.board.jobInfo = [
      "WARNING: Duplicate plugin name 'copy' in: site.again; keeping the first one",
      "WARNING: Attribute 'platforms' missing in plugin: site.open",
      "WARNING: Attribute 'name' missing in plugin: site.blank"] := by decide
  obtain ⟨complaints, hpass, hsaved⟩ := build_retains_first copies { os := some "XE" } resting
  refine ⟨distinct, ?_, ?_, complaints, hpass, hsaved.symm.trans hinfo⟩
  · refine (hpass.nameForId distinct "site.other").2.mpr ?_
    intro kept hmem hid
    have hkept := List.mem_map_of_mem (f := fun kept => (kept.id, kept.descriptor.name)) hmem
    rw [hentries, hid] at hkept
    simp at hkept
  · refine ((hpass.nameForId distinct "site.copy").1 "copy").mpr ?_
    have hkept : ("site.copy", "copy") ∈ (build copies { os := some "XE" } resting).1.entries.map
        (fun kept => (kept.id, kept.descriptor.name)) := by
      rw [hentries]
      exact List.mem_singleton_self _
    obtain ⟨kept, hmem, heq⟩ := List.mem_map.mp hkept
    obtain ⟨hid, hname⟩ := Prod.mk.inj heq
    exact ⟨kept, hmem, hid, hname⟩

end Catalog

end Upkeep
