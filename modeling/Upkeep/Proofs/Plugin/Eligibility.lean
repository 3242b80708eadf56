import Upkeep.Proofs.Plugin.Catalog

/-! # Eligibility — which plugins a catalog may keep

    A plugin is eligible if its manifest is complete and its descriptor meets
    the criteria.  Here both are said without the functions that decide them:
    `Manifest.Describes` and `Manifest.Lacks` of the declaration alone, and
    `Criteria.Meets` of what is asked for.  `describe_eq_ok_iff`,
    `describe_eq_error_iff` and `admits_iff` join the two, and from there on
    `RegistryEntry.Eligible` is all that there is to know of one entry. -/

namespace Upkeep

variable {σ : Type}

/-! ## Manifests -/

namespace Manifest

/-- A manifest declares an attribute; a name has to be more than blanks. -/
def Declares (manifest : Manifest) : Attribute → Prop
  | .name => ∃ name, manifest.name = some name ∧ trimmed name ≠ ""
  | .phases => manifest.phases ≠ none
  | .platforms => manifest.platforms ≠ none
  | .os => manifest.os ≠ none

/-- The attribute is the first that a manifest lacks of name, phases, platforms and systems, in
    this order. -/
def Lacks (manifest : Manifest) : Attribute → Prop
  | .name => ¬ manifest.Declares .name
  | .phases => manifest.Declares .name ∧ ¬ manifest.Declares .phases
  | .platforms => manifest.Declares .name ∧ manifest.Declares .phases ∧
      ¬ manifest.Declares .platforms
  | .os => manifest.Declares .name ∧ manifest.Declares .phases ∧
      manifest.Declares .platforms ∧ ¬ manifest.Declares .os

/-- A manifest declares all that is needed, and this is what it says. -/
structure Describes (manifest : Manifest) (descriptor : Descriptor) : Prop where
  /-- The name is the declared one without the blanks around it. -/
  name : ∃ name, manifest.name = some name ∧ trimmed name = descriptor.name
  named : descriptor.name ≠ ""
  phases : manifest.phases = some descriptor.phases
  platforms : manifest.platforms = some descriptor.platforms
  os : manifest.os = some descriptor.os
  description : manifest.description.getD "" = descriptor.description

/-- A name that is declared is left when the blanks are gone. -/
theorem declares_name (manifest : Manifest) :
    manifest.Declares .name ↔ trimmed (manifest.name.getD "") ≠ "" := by
  rw [Declares]
  cases hname : manifest.name with
  | none =>
      constructor
      · rintro ⟨name, hsome, -⟩
        exact nomatch hsome
      · intro h
        exact absurd rfl h
  | some name =>
      constructor
      · rintro ⟨other, hsome, hother⟩
        obtain rfl := Option.some.inj hsome
        exact hother
      · intro h
        exact ⟨name, rfl, h⟩

/-- The description of a manifest by what it declares, attribute after attribute. -/
theorem describe_eq (manifest : Manifest) :
    manifest.describe =
      if trimmed (manifest.name.getD "") = "" then .error .name
      else match manifest.phases, manifest.platforms, manifest.os with
        | none, _, _ => .error .phases
        | some _, none, _ => .error .platforms
        | some _, some _, none => .error .os
        | some phases, some platforms, some os => .ok
          ⟨trimmed (manifest.name.getD ""), platforms, phases, os,
            manifest.description.getD ""⟩ := by
  rw [describe]
  by_cases hname : trimmed (manifest.name.getD "") = ""
  · rw [if_pos hname, if_pos hname]
    rfl
  · rw [if_neg hname, if_neg hname]
    cases manifest.phases with
    | none => rfl
    | some phases =>
        cases manifest.platforms with
        | none => rfl
        | some platforms =>
            cases manifest.os with
            | none => rfl
            | some os => rfl

/-- **COMPLETE**: a manifest has a descriptor exactly if it declares all that is needed, and the
    descriptor says what the manifest declares. -/
theorem describe_eq_ok_iff (manifest : Manifest) (descriptor : Descriptor) :
    manifest.describe = .ok descriptor ↔ manifest.Describes descriptor := by
  rw [describe_eq]
  constructor
  · intro h
    by_cases hname : trimmed (manifest.name.getD "") = ""
    · rw [if_pos hname] at h
      exact nomatch h
    · rw [if_neg hname] at h
      split at h
      · exact nomatch h
      · exact nomatch h
      · exact nomatch h
      · next hphases hplatforms hos =>
        obtain rfl := Except.ok.inj h
        obtain ⟨name, hsome, -⟩ := manifest.declares_name.mpr hname
        refine ⟨⟨name, hsome, ?_⟩, hname, hphases, hplatforms, hos, rfl⟩
        rw [hsome]
        rfl
  · rintro ⟨⟨name, hsome, htrim⟩, hname, hphases, hplatforms, hos, hdescription⟩
    have hgot : trimmed (manifest.name.getD "") = descriptor.name := by
      rw [hsome]
      exact htrim
    rw [if_neg (by rw [hgot]; exact hname), hphases, hplatforms, hos, hgot, hdescription]

/-- **INCOMPLETE**: what is reported as missing is the first attribute that a manifest lacks. -/
theorem describe_eq_error_iff (manifest : Manifest) (missing : Attribute) :
    manifest.describe = .error missing ↔ manifest.Lacks missing := by
  have hname := manifest.declares_name
  rw [describe_eq]
  by_cases hblank : trimmed (manifest.name.getD "") = ""
  · -- without a name nothing else is asked for
    have hnone : ¬ manifest.Declares .name := fun h => hname.mp h hblank
    rw [if_pos hblank]
    cases missing <;> simp [Lacks, hnone]
  · have hsome : manifest.Declares .name := hname.mpr hblank
    have hphases : manifest.Declares .phases ↔ manifest.phases ≠ none := Iff.rfl
    have hplatforms : manifest.Declares .platforms ↔ manifest.platforms ≠ none := Iff.rfl
    have hos : manifest.Declares .os ↔ manifest.os ≠ none := Iff.rfl
    rw [if_neg hblank]
    cases missing <;> simp only [Lacks, hsome, hphases, hplatforms, hos]
    all_goals cases manifest.phases <;> cases manifest.platforms <;> cases manifest.os <;> simp

end Manifest

/-! ## Criteria -/

namespace Criteria

/-- A descriptor is what the criteria ask for. -/
structure Meets (criteria : Criteria) (descriptor : Descriptor) : Prop where
  /-- A plugin that declares no platform is for all of them. -/
  platform : ∀ platform, criteria.platform = some platform →
    descriptor.platforms.toList = [] ∨ platform ∈ descriptor.platforms.toList
  /-- All phases that are asked for have to be declared. -/
  phases : ∀ phases, criteria.phases = some phases →
    ∀ phase ∈ phases.toList, phase ∈ descriptor.phases.toList
  /-- A plugin that declares no system is for all of them. -/
  os : ∀ os, criteria.os = some os →
    descriptor.os.toList = [] ∨ os ∈ descriptor.os.toList
  names : ∀ names, criteria.names = some names → descriptor.name ∈ names.toList

/-- A set covers what is asked for if it is empty or holds it. -/
theorem covers_iff (declared : Names) (asked : Option String) :
    covers declared asked = true ↔
      ∀ wanted, asked = some wanted → declared.toList = [] ∨ wanted ∈ declared.toList := by
  cases asked with
  | none =>
      refine iff_of_true rfl ?_
      intro wanted hwanted
      exact nomatch hwanted
  | some wanted => simp [covers, Names.isEmpty, Names.contains]

/-- **CRITERIA**: the criteria admit exactly what is as they ask. -/
theorem admits_iff (criteria : Criteria) (descriptor : Descriptor) :
    criteria.admits descriptor = true ↔ criteria.Meets descriptor := by
  rw [admits, Bool.and_eq_true, Bool.and_eq_true, Bool.and_eq_true, covers_iff, covers_iff]
  constructor
  · rintro ⟨⟨⟨hplatform, hphases⟩, hnames⟩, hos⟩
    refine ⟨hplatform, ?_, hos, ?_⟩
    · intro phases hsome phase hphase
      rw [hsome] at hphases
      exact List.contains_iff_mem.mp (List.all_eq_true.mp hphases phase hphase)
    · intro names hsome
      rw [hsome] at hnames
      exact List.contains_iff_mem.mp hnames
  · rintro ⟨hplatform, hphases, hos, hnames⟩
    refine ⟨⟨⟨hplatform, ?_⟩, ?_⟩, hos⟩
    · cases hsome : criteria.phases with
      | none => rfl
      | some phases =>
          refine List.all_eq_true.mpr ?_
          intro phase hphase
          exact List.contains_iff_mem.mpr (hphases phases hsome phase hphase)
    · cases hsome : criteria.names with
      | none => rfl
      | some names => exact List.contains_iff_mem.mpr (hnames names hsome)

end Criteria

/-! ## Entries -/

/-- A plugin is complete and meets the criteria; this is how it describes itself. -/
structure RegistryEntry.Eligible (criteria : Criteria) (entry : RegistryEntry σ)
    (descriptor : Descriptor) : Prop where
  complete : entry.plugin.manifest.Describes descriptor
  meets : criteria.Meets descriptor

/-- Being eligible, by the functions that decide it. -/
theorem RegistryEntry.eligible_iff (criteria : Criteria) (entry : RegistryEntry σ)
    (descriptor : Descriptor) :
    entry.Eligible criteria descriptor ↔
      entry.plugin.manifest.describe = .ok descriptor ∧ criteria.admits descriptor = true := by
  rw [Manifest.describe_eq_ok_iff, Criteria.admits_iff]
  constructor
  · rintro ⟨complete, meets⟩
    exact ⟨complete, meets⟩
  · rintro ⟨complete, meets⟩
    exact ⟨complete, meets⟩

/-- A name is provided if an eligible plugin has it. -/
theorem Registry.provided_iff (registry : Registry σ) (criteria : Criteria) (name : String) :
    registry.Provided criteria name ↔
      ∃ entry ∈ registry, ∃ descriptor, entry.Eligible criteria descriptor ∧
        descriptor.name = name := by
  constructor
  · rintro ⟨entry, hentry, descriptor, hdescribe, hadmits, hname⟩
    exact ⟨entry, hentry, descriptor, (entry.eligible_iff _ _).mpr ⟨hdescribe, hadmits⟩, hname⟩
  · rintro ⟨entry, hentry, descriptor, heligible, hname⟩
    obtain ⟨hdescribe, hadmits⟩ := (entry.eligible_iff _ _).mp heligible
    exact ⟨entry, hentry, descriptor, hdescribe, hadmits, hname⟩

end Upkeep
