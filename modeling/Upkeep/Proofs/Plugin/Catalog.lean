import Upkeep.Plugin.Catalog
import Upkeep.Proofs.Data.Fields

/-! # Catalogs — what a look-up finds

    A catalog has its entries in a row, and beside them their places by name and
    their names by id.  `Coupled` says what these are to the entries: the place is
    that of the first entry with the name, and the name is that of the last entry
    with the id.  Keeping an entry adds to all three, and keeps them coupled if
    there is no place for its name yet (`Coupled.keep`).  So they are coupled all
    along the pass (`coupled_scan`), and the look-ups are searches among the
    entries (`Coupled.get?_eq`, `Coupled.nameForId?_eq`).

    A catalog drops later plugins of a name that it has.  A look-up does not
    see that: it finds the first plugin of the name among ALL complete plugins
    of the registry that meet the criteria (`get?_scan`).  `Provided` says on
    the registry alone that there is one, and `isSome_provider?` joins the two.

    The other half is order: what a catalog holds stands in the order of the
    registry (`scan_sublist`), and `select` for one phase keeps exactly the
    entries that declare it (`select_forPhase`).

    A catalog looks at what plugins declare and not at what they do, so other
    bodies make the same catalog (`scan_withBodies`). -/

namespace Upkeep

variable {σ : Type}

/-! ## Sets of names -/

namespace Names

/-- Membership in a set made from a list is membership in the list. -/
@[simp] theorem contains_ofList (names : List String) (name : String) :
    (ofList names).contains name = names.contains name := by
  rw [Bool.eq_iff_iff, contains, List.contains_iff_mem, List.contains_iff_mem]
  exact mem_ofList

end Names

/-! ## Criteria -/

namespace Criteria

/-- Asking for names narrows the criteria to these names, if there are any. -/
theorem admits_forNames (criteria : Criteria) (open_ : criteria.names = none)
    {names : List String} (some_ : names ≠ []) (descriptor : Descriptor) :
    (criteria.forNames names).admits descriptor
      = (criteria.admits descriptor && names.contains descriptor.name) := by
  have hdemand : demand names = some (Names.ofList names) := by
    rw [demand, if_neg (by simpa using some_)]
  simp only [admits, forNames, hdemand, open_, Names.contains_ofList, Bool.and_true]
  exact Bool.and_right_comm _ _ _

/-- The criteria for one phase admit exactly the plugins that declare it. -/
theorem admits_forPhase (phase : String) (descriptor : Descriptor) :
    (({} : Criteria).forPhase phase).admits descriptor = descriptor.phases.contains phase := by
  have single : (Names.ofList [phase]).toList = [phase] := rfl
  simp [admits, forPhase, covers, single]

end Criteria

/-! ## Look-ups -/

/-- The registry entry behind an entry of a catalog. -/
def CatalogEntry.registered (entry : CatalogEntry σ) : RegistryEntry σ := ⟨entry.id, entry.plugin⟩

/-- The entry that a plugin of a registry has in a catalog, if it is complete and meets the
    criteria. -/
def RegistryEntry.eligible? (criteria : Criteria) (entry : RegistryEntry σ) :
    Option (CatalogEntry σ) :=
  match entry.plugin.manifest.describe with
  | .error _ => none
  | .ok descriptor =>
    if criteria.admits descriptor then some ⟨entry.id, descriptor, entry.plugin⟩ else none

/-- What an entry has in a catalog is made from it. -/
theorem RegistryEntry.registered_of_eligible? {criteria : Criteria} {entry : RegistryEntry σ}
    {kept : CatalogEntry σ} (h : entry.eligible? criteria = some kept) :
    kept.registered = entry := by
  rw [RegistryEntry.eligible?] at h
  split at h
  · cases h
  · split at h
    · obtain rfl := Option.some.inj h
      rfl
    · cases h

/-- The first complete plugin of a registry that meets the criteria and has the name. -/
def Registry.provider? (registry : Registry σ) (criteria : Criteria) (name : String) :
    Option (CatalogEntry σ) :=
  (registry.filterMap (RegistryEntry.eligible? criteria)).find? (·.descriptor.name = name)

/-- A complete plugin of the registry meets the criteria and has the name. -/
def Registry.Provided (registry : Registry σ) (criteria : Criteria) (name : String) : Prop :=
  ∃ entry ∈ registry, ∃ descriptor, entry.plugin.manifest.describe = .ok descriptor ∧
    criteria.admits descriptor = true ∧ descriptor.name = name

/-- A criterion on names that lets the plugin's name pass does not matter to it. -/
theorem RegistryEntry.eligible?_forNames (criteria : Criteria) (open_ : criteria.names = none)
    {names : List String} (some_ : names ≠ []) (entry : RegistryEntry σ) :
    entry.eligible? (criteria.forNames names)
      = (entry.eligible? criteria).filter (names.contains ·.descriptor.name) := by
  simp only [RegistryEntry.eligible?]
  cases entry.plugin.manifest.describe with
  | error missing => rfl
  | ok descriptor =>
      dsimp only
      rw [Criteria.admits_forNames criteria open_ some_]
      by_cases hadmits : criteria.admits descriptor = true
      · simp [hadmits, Option.filter]
      · simp [hadmits]

/-- Asking for some names does not change who provides one of them. -/
theorem Registry.provider?_forNames (registry : Registry σ) (criteria : Criteria)
    (open_ : criteria.names = none) {names : List String} {name : String} (h : name ∈ names) :
    registry.provider? (criteria.forNames names) name = registry.provider? criteria name := by
  have heligible : RegistryEntry.eligible? (σ := σ) (criteria.forNames names)
      = fun entry =>
        (entry.eligible? criteria).filter (names.contains ·.descriptor.name) := by
    funext entry
    exact RegistryEntry.eligible?_forNames criteria open_ (List.ne_nil_of_mem h) entry
  rw [Registry.provider?, heligible, ← List.filter_filterMap, List.find?_filter]
  -- a kept plugin that has the name passes the criterion on names
  congr 1
  funext kept
  by_cases hname : kept.descriptor.name = name
  · simp [hname, h]
  · simp [hname]

namespace Catalog

/-! ### Places and names beside the entries -/

/-- What a catalog has beside its entries is told by them. -/
structure Coupled (catalog : Catalog σ) : Prop where
  place : ∀ name, Fields.get? name catalog.placeByName
    = catalog.entries.findIdx? (·.descriptor.name = name)
  name : ∀ id, Fields.get? id catalog.nameById
    = (catalog.entries.reverse.find? (·.id = id)).map (·.descriptor.name)

namespace Coupled

variable {catalog : Catalog σ}

protected theorem empty : Coupled ({} : Catalog σ) := ⟨fun _ => rfl, fun _ => rfl⟩

/-- **LOOK-UP BY NAME**: the entry at the place of a name is the first one that has it. -/
theorem get?_eq (h : catalog.Coupled) (name : String) :
    catalog.get? name = catalog.entries.find? (·.descriptor.name = name) := by
  rw [get?, h.place, List.find?_eq_bind_findIdx?_getElem?]

/-- **LOOK-UP BY ID**: the name for an id is that of the last entry that has it. -/
theorem nameForId?_eq (h : catalog.Coupled) (id : String) :
    catalog.nameForId? id
      = (catalog.entries.reverse.find? (·.id = id)).map (·.descriptor.name) := h.name id

/-- There is a place for a name if there is an entry with it. -/
theorem has_eq (h : catalog.Coupled) (name : String) :
    catalog.has name = (catalog.get? name).isSome := by
  rw [has, h.place, h.get?_eq, List.findIdx?_isSome, Bool.eq_iff_iff, List.any_eq_true,
    List.find?_isSome]

/-- **KEEPING**: an entry with a new name leaves the three coupled. -/
protected theorem keep (h : catalog.Coupled) {entry : CatalogEntry σ}
    (fresh : catalog.has entry.descriptor.name = false) : (catalog.keep entry).Coupled where
  place := by
    intro name
    rw [Catalog.keep, Fields.get?_insert, h.place, List.findIdx?_append, List.findIdx?_singleton]
    by_cases hname : name = entry.descriptor.name
    · -- nothing before it has the name
      have hnone : catalog.entries.findIdx? (·.descriptor.name = name) = none := by
        rw [hname, ← h.place]
        exact Option.not_isSome_iff_eq_none.mp (ne_true_of_eq_false fresh)
      rw [if_pos hname, hnone, hname]
      simp
    · rw [if_neg hname, if_neg (by simpa using Ne.symm hname)]
      exact Option.or_none.symm
  name := by
    intro id
    rw [Catalog.keep, Fields.get?_insert, h.name, List.reverse_concat, List.find?_cons]
    by_cases hid : id = entry.id
    · rw [if_pos hid, hid]
      simp
    · have hother : decide (entry.id = id) = false := decide_eq_false (Ne.symm hid)
      rw [if_neg hid, hother]

end Coupled

/-! ### The pass -/

/-- One step of the pass keeps an eligible entry for whose name there is no place, and leaves the
    catalog as it is otherwise. -/
theorem step_cases (criteria : Criteria) (state : Catalog σ × List Complaint)
    (entry : RegistryEntry σ) :
    ((step criteria state entry).1 = state.1 ∧ ∀ kept, entry.eligible? criteria = some kept →
      state.1.has kept.descriptor.name = true) ∨
    ∃ kept, entry.eligible? criteria = some kept ∧
      state.1.has kept.descriptor.name = false ∧
      step criteria state entry = (state.1.keep kept, state.2) := by
  rw [step, consider, RegistryEntry.eligible?]
  cases entry.plugin.manifest.describe with
  | error missing => simp
  | ok descriptor =>
      by_cases hadmits : criteria.admits descriptor = true
      · by_cases htaken : state.1.has descriptor.name = true
        · simp [hadmits, htaken]
        · simp [hadmits, htaken]
      · simp [hadmits]

/-- So the three stay coupled. -/
theorem Coupled.step {criteria : Criteria} {state : Catalog σ × List Complaint}
    (h : state.1.Coupled) (entry : RegistryEntry σ) :
    (Catalog.step criteria state entry).1.Coupled := by
  rcases step_cases criteria state entry with ⟨hsame, -⟩ | ⟨kept, -, hfresh, hkeep⟩
  · rw [hsame]
    exact h
  · rw [hkeep]
    exact h.keep hfresh

/-- **COUPLED**: all along the pass, places and names are told by the entries. -/
theorem coupled_scan (registry : Registry σ) (criteria : Criteria) :
    (scan registry criteria).1.Coupled := by
  have hpass (state : Catalog σ × List Complaint) (hstate : state.1.Coupled) :
      (registry.foldl (step criteria) state).1.Coupled := by
    induction registry generalizing state with
    | nil => exact hstate
    | cons entry rest ih => exact ih _ (hstate.step entry)
  exact hpass ({}, []) .empty

/-- What a look-up gives is an entry. -/
theorem mem_of_get? {registry : Registry σ} {criteria : Criteria} {name : String}
    {kept : CatalogEntry σ} (h : (scan registry criteria).1.get? name = some kept) :
    kept ∈ (scan registry criteria).1.entries := by
  rw [(coupled_scan registry criteria).get?_eq] at h
  exact List.mem_of_find?_eq_some h

/-- One step of the pass, seen by a look-up: the entry counts if it is eligible and nothing
    kept before it has the name. -/
theorem get?_step {criteria : Criteria} {state : Catalog σ × List Complaint}
    (coupled : state.1.Coupled) (entry : RegistryEntry σ) (name : String) :
    (step criteria state entry).1.get? name
      = (state.1.get? name).or
          ((entry.eligible? criteria).toList.find? (·.descriptor.name = name)) := by
  rcases step_cases criteria state entry with ⟨hsame, htaken⟩ | ⟨kept, heligible, hfresh, hkeep⟩
  · rw [hsame]
    cases heligible : entry.eligible? criteria with
    | none => exact Option.or_none.symm
    | some kept =>
        rw [Option.toList_some]
        by_cases hname : kept.descriptor.name = name
        · -- a duplicate: the entry that is there answers first
          have hthere := htaken kept heligible
          rw [hname, coupled.has_eq] at hthere
          exact (Option.or_of_isSome hthere).symm
        · simp [hname]
  · rw [hkeep, (coupled.keep hfresh).get?_eq, coupled.get?_eq, heligible]
    exact List.find?_append

/-- The whole pass, seen by a look-up. -/
theorem get?_foldl_step (criteria : Criteria) (registry : Registry σ)
    {state : Catalog σ × List Complaint} (coupled : state.1.Coupled) (name : String) :
    (registry.foldl (step criteria) state).1.get? name
      = (state.1.get? name).or (registry.provider? criteria name) := by
  induction registry generalizing state with
  | nil => simp [Registry.provider?]
  | cons entry rest ih =>
      rw [List.foldl_cons, ih (coupled.step entry), get?_step coupled, Option.or_assoc]
      congr 1
      simp only [Registry.provider?]
      cases hentry : entry.eligible? criteria with
      | none => simp [hentry]
      | some kept =>
          rw [List.filterMap_cons_some hentry, Option.toList_some]
          exact List.find?_append.symm

/-- **LOOK-UP**: a catalog finds the first eligible plugin of the registry with the name. -/
theorem get?_scan (registry : Registry σ) (criteria : Criteria) (name : String) :
    (scan registry criteria).1.get? name = registry.provider? criteria name := by
  rw [scan, get?_foldl_step criteria registry Coupled.empty]
  rfl

/-! ## Order -/

/-- One step of the pass keeps what was kept and adds the entry itself or nothing. -/
theorem entries_step (criteria : Criteria) (state : Catalog σ × List Complaint)
    (entry : RegistryEntry σ) :
    (step criteria state entry).1.entries = state.1.entries ∨
      ∃ kept : CatalogEntry σ, kept.registered = entry ∧
        (step criteria state entry).1.entries = state.1.entries ++ [kept] := by
  rcases step_cases criteria state entry with ⟨hsame, -⟩ | ⟨kept, heligible, -, hkeep⟩
  · exact Or.inl (by rw [hsame])
  · exact Or.inr ⟨kept, RegistryEntry.registered_of_eligible? heligible, by rw [hkeep]; rfl⟩

/-- What the pass adds stands in the order of the registry. -/
theorem entries_foldl_step (criteria : Criteria) (registry : Registry σ)
    (state : Catalog σ × List Complaint) :
    ∃ added : List (CatalogEntry σ),
      (registry.foldl (step criteria) state).1.entries = state.1.entries ++ added ∧
        (added.map CatalogEntry.registered).Sublist registry := by
  induction registry generalizing state with
  | nil => exact ⟨[], (List.append_nil _).symm, List.Sublist.refl _⟩
  | cons entry rest ih =>
      obtain ⟨added, hentries, hsub⟩ := ih (step criteria state entry)
      rw [List.foldl_cons, hentries]
      rcases entries_step criteria state entry with hsame | ⟨kept, hkept, hadd⟩
      · exact ⟨added, by rw [hsame], hsub.cons entry⟩
      · refine ⟨kept :: added, by rw [hadd, List.append_assoc]; rfl, ?_⟩
        rw [List.map_cons, hkept]
        exact hsub.cons_cons entry

/-- **ORDER**: the entries of a catalog stand in the order of the registry. -/
theorem scan_sublist (registry : Registry σ) (criteria : Criteria) :
    ((scan registry criteria).1.entries.map CatalogEntry.registered).Sublist registry := by
  obtain ⟨added, hentries, hsub⟩ := entries_foldl_step criteria registry ({}, [])
  rw [scan, hentries]
  exact hsub

/-- The entries of a catalog that declare a phase, in its order. -/
def declaring (catalog : Catalog σ) (phase : String) : List (CatalogEntry σ) :=
  catalog.entries.filter (·.descriptor.phases.contains phase)

/-- Selecting for one phase keeps the entries that declare it. -/
theorem select_forPhase (catalog : Catalog σ) (phase : String) :
    catalog.select (({} : Criteria).forPhase phase) = catalog.declaring phase := by
  rw [select, declaring]
  congr 1
  funext entry
  exact Criteria.admits_forPhase phase entry.descriptor

end Catalog

/-- What a look-up gives has the name. -/
theorem Registry.provider?_name {registry : Registry σ} {criteria : Criteria} {name : String}
    {entry : CatalogEntry σ} (h : registry.provider? criteria name = some entry) :
    entry.descriptor.name = name := by
  have := List.find?_some h
  simpa using this

/-- A name has a provider exactly if it is provided. -/
theorem Registry.isSome_provider? (registry : Registry σ) (criteria : Criteria) (name : String) :
    (registry.provider? criteria name).isSome = true ↔ registry.Provided criteria name := by
  rw [Registry.provider?, List.find?_isSome]
  constructor
  · rintro ⟨kept, hkept, hname⟩
    obtain ⟨entry, hentry, heligible⟩ := List.mem_filterMap.mp hkept
    rw [RegistryEntry.eligible?] at heligible
    split at heligible
    · exact nomatch heligible
    · next descriptor hdescribe =>
      split at heligible
      · next hadmits =>
        obtain rfl := Option.some.inj heligible
        exact ⟨entry, hentry, descriptor, hdescribe, hadmits, by simpa using hname⟩
      · exact nomatch heligible
  · rintro ⟨entry, hentry, descriptor, hdescribe, hadmits, hname⟩
    refine ⟨⟨entry.id, descriptor, entry.plugin⟩, ?_, by simpa using hname⟩
    refine List.mem_filterMap.mpr ⟨entry, hentry, ?_⟩
    simp [RegistryEntry.eligible?, hdescribe, hadmits]

/-! ## Bodies -/

/-- The plugin of a registry with another body. -/
def RegistryEntry.withBody (bodies : RegistryEntry σ → Task σ Unit) (entry : RegistryEntry σ) :
    RegistryEntry σ := { entry with plugin := { entry.plugin with task := bodies entry } }

/-- The registry with other bodies; what its plugins declare stays. -/
def Registry.withBodies (bodies : RegistryEntry σ → Task σ Unit) (registry : Registry σ) :
    Registry σ := registry.map (RegistryEntry.withBody bodies)

/-- The plugin of a catalog with another body. -/
def CatalogEntry.withBody (bodies : RegistryEntry σ → Task σ Unit) (entry : CatalogEntry σ) :
    CatalogEntry σ := { entry with plugin := { entry.plugin with task := bodies entry.registered } }

namespace Catalog

variable {bodies : RegistryEntry σ → Task σ Unit}

/-- The catalog with other bodies. -/
def withBodies (bodies : RegistryEntry σ → Task σ Unit) (catalog : Catalog σ) : Catalog σ :=
  { catalog with entries := catalog.entries.map (CatalogEntry.withBody bodies) }

/-- A look-up finds the same plugin with its other body. -/
@[simp] theorem get?_withBodies (catalog : Catalog σ) (name : String) :
    (catalog.withBodies bodies).get? name
      = (catalog.get? name).map (CatalogEntry.withBody bodies) := by
  rw [get?, get?, Option.map_bind]
  congr 1
  funext place
  exact List.getElem?_map

/-- Selecting a phase selects the same plugins with their other bodies. -/
theorem declaring_withBodies (catalog : Catalog σ) (phase : String) :
    (catalog.withBodies bodies).declaring phase
      = (catalog.declaring phase).map (CatalogEntry.withBody bodies) := by
  rw [withBodies, declaring, List.filter_map]
  rfl

/-- One step of the pass does not look at the body. -/
theorem step_withBody (criteria : Criteria) (state : Catalog σ × List Complaint)
    (entry : RegistryEntry σ) :
    step criteria (state.1.withBodies bodies, state.2) (entry.withBody bodies)
      = ((step criteria state entry).1.withBodies bodies, (step criteria state entry).2) := by
  have hconsider : consider criteria (state.1.withBodies bodies) (entry.withBody bodies)
      = (consider criteria state.1 entry).map (CatalogEntry.withBody bodies) := by
    have hhas (name : String) : (state.1.withBodies bodies).has name = state.1.has name := rfl
    simp only [consider, RegistryEntry.withBody, hhas]
    cases entry.plugin.manifest.describe with
    | error missing => rfl
    | ok descriptor =>
        dsimp only
        split
        · rfl
        · split
          · rfl
          · rfl
  simp only [step]
  rw [hconsider]
  rcases consider criteria state.1 entry with (_ | complaint) | kept
  · rfl
  · rfl
  · simp only [Except.map, withBodies, keep, List.map_append, List.map_cons, List.map_nil,
      List.length_map]
    rfl

/-- **BODIES**: a catalog does not depend on what the plugins do. -/
theorem scan_withBodies (registry : Registry σ) (criteria : Criteria) :
    scan (registry.withBodies bodies) criteria
      = ((scan registry criteria).1.withBodies bodies, (scan registry criteria).2) := by
  have hfold (state : Catalog σ × List Complaint) :
      (registry.withBodies bodies).foldl (step criteria) (state.1.withBodies bodies, state.2)
        = ((registry.foldl (step criteria) state).1.withBodies bodies,
          (registry.foldl (step criteria) state).2) := by
    induction registry generalizing state with
    | nil => rfl
    | cons entry rest ih =>
        rw [Registry.withBodies, List.map_cons, List.foldl_cons, step_withBody]
        exact ih (step criteria state entry)
  exact hfold ({}, [])

end Catalog

/-- Which names are provided does not depend on what the plugins do. -/
theorem Registry.provided_withBodies {bodies : RegistryEntry σ → Task σ Unit}
    (registry : Registry σ) (criteria : Criteria) (name : String) :
    (registry.withBodies bodies).Provided criteria name ↔ registry.Provided criteria name := by
  rw [← isSome_provider?, ← isSome_provider?, ← Catalog.get?_scan, ← Catalog.get?_scan,
    Catalog.scan_withBodies, Catalog.get?_withBodies, Option.isSome_map]

end Upkeep
