import Mathlib.Data.List.Sort
import Upkeep.Proofs.Plugin.Retained

/-! # Narrowing — selecting from a catalog, and asking for less at once

    There are two ways to the plugins for some phases: make a catalog and select
    from it, or ask for the phases when the catalog is made.  They differ where
    names collide.  A plugin for other phases may take a name in the wider
    catalog, and then the selection has neither; the narrower catalog does not
    see that plugin, and keeps the later one.

    So a selection is a part of the narrower catalog, place by place
    (`Registry.Retains.narrow`), and all of it if no names collide.  No name is
    gained by asking for less: whoever has it in the narrower catalog, somebody
    at the same place or before it has it in the wider one
    (`Registry.exists_retains`). -/

namespace Upkeep

variable {σ : Type}

/-! ## Parts of lists by place -/

namespace ByPlace

variable {α : Type} {stands more : Nat → α → Prop} {items others : List α}

/-- What is left of the items stands where it stood. -/
theorem filter (h : ByPlace stands items) (keep : α → Bool) :
    ByPlace (fun place item => stands place item ∧ keep item = true) (items.filter keep) := by
  obtain ⟨rows, hsorted, hmem, rfl⟩ := h
  refine ⟨rows.filter fun row => keep row.2, hsorted.filter _, ?_, ?_⟩
  · intro place item
    rw [List.mem_filter, hmem]
  · rw [List.filter_map]
    rfl

/-- If all that stands in one place or another stands there in another list as well, the one list
    is a part of the other. -/
theorem sublist (h : ByPlace stands items) (hmore : ByPlace more others)
    (hsub : ∀ place item, stands place item → more place item) : items.Sublist others := by
  obtain ⟨rows, hsorted, hmem, rfl⟩ := h
  obtain ⟨rows', hsorted', hmem', rfl⟩ := hmore
  have hanti : Std.Antisymm fun a b : Nat × α => a.1 < b.1 :=
    ⟨fun a b hab hba => absurd hab (Nat.lt_asymm hba)⟩
  have hirrefl : Std.Irrefl fun a b : Nat × α => a.1 < b.1 := ⟨fun a => Nat.lt_irrefl a.1⟩
  have hsubset : rows ⊆ rows' := by
    rintro ⟨place, item⟩ hrow
    exact (hmem' place item).mpr (hsub place item ((hmem place item).mp hrow))
  have hsubperm := List.subperm_of_subset hsorted.nodup hsubset
  exact (List.sublist_of_subperm_of_pairwise hsubperm hsorted hsorted').map Prod.snd

end ByPlace

/-! ## Narrower criteria -/

namespace Criteria

/-- Whatever meets the one criteria meets the others as well. -/
def Narrower (criteria other : Criteria) : Prop :=
  ∀ descriptor, criteria.Meets descriptor → other.Meets descriptor

/-- A plugin declares all of the phases. -/
def DeclaresAll (descriptor : Descriptor) (phases : List String) : Prop :=
  ∀ phase ∈ phases, phase ∈ descriptor.phases.toList

/-- Asking for phases as well is asking for what was asked for and for the phases. -/
theorem meets_forPhases {criteria : Criteria} (open_ : criteria.phases = none)
    (phases : List String) (descriptor : Descriptor) :
    (criteria.forPhases phases).Meets descriptor ↔
      criteria.Meets descriptor ∧ DeclaresAll descriptor phases := by
  constructor
  · intro h
    refine ⟨⟨h.platform, ?_, h.os, h.names⟩, ?_⟩
    · intro asked hasked
      rw [open_] at hasked
      exact nomatch hasked
    · intro phase hphase
      have hdemand : demand phases = some (Names.ofList phases) := by
        rw [demand, if_neg (by simpa using List.ne_nil_of_mem hphase)]
      exact h.phases _ hdemand phase (Names.mem_ofList.mpr hphase)
  · rintro ⟨h, hdeclares⟩
    refine ⟨h.platform, ?_, h.os, h.names⟩
    intro asked hasked phase hphase
    -- no phases are no demand, and otherwise the demand is the set of them
    have hdemand : demand phases = some asked := hasked
    rw [demand] at hdemand
    split at hdemand
    · exact nomatch hdemand
    · obtain rfl := Option.some.inj hdemand
      exact hdeclares phase (Names.mem_ofList.mp hphase)

/-- Asking for phases alone is asking for the phases. -/
theorem meets_phases (phases : List String) (descriptor : Descriptor) :
    (({} : Criteria).forPhases phases).Meets descriptor ↔ DeclaresAll descriptor phases := by
  rw [meets_forPhases rfl]
  refine and_iff_right ⟨?_, ?_, ?_, ?_⟩
  · exact fun wanted hwanted => nomatch hwanted
  · exact fun wanted hwanted => nomatch hwanted
  · exact fun wanted hwanted => nomatch hwanted
  · exact fun wanted hwanted => nomatch hwanted

/-- So asking for phases as well is narrower. -/
theorem narrower_forPhases {criteria : Criteria} (open_ : criteria.phases = none)
    (phases : List String) : (criteria.forPhases phases).Narrower criteria :=
  fun descriptor h => ((meets_forPhases open_ phases descriptor).mp h).1

end Criteria

/-! ## Names that are taken -/

/-- What is eligible for narrower criteria is eligible for wider ones. -/
theorem RegistryEntry.Eligible.widen {criteria other : Criteria} {entry : RegistryEntry σ}
    {descriptor : Descriptor} (h : entry.Eligible criteria descriptor)
    (narrower : criteria.Narrower other) : entry.Eligible other descriptor :=
  ⟨h.complete, narrower descriptor h.meets⟩

namespace Registry

variable {registry : Registry σ} {criteria other : Criteria} {place : Nat}

/-- No two plugins that are eligible have one name. -/
def Distinct (registry : Registry σ) (criteria : Criteria) : Prop :=
  registry.Pairwise fun a b => ∀ first second, a.Eligible criteria first →
    b.Eligible criteria second → first.name ≠ second.name

/-- A name that is taken for narrower criteria is taken for wider ones. -/
theorem TakenBefore.widen {name : String} (h : registry.TakenBefore criteria place name)
    (narrower : criteria.Narrower other) : registry.TakenBefore other place name := by
  obtain ⟨earlier, hlt, entry, descriptor, hentry, heligible, hname⟩ := h
  exact ⟨earlier, hlt, entry, descriptor, hentry, heligible.widen narrower, hname⟩

/-- **NARROWING**: what is retained is still retained when less is asked for, if it is as asked
    for. -/
theorem Retains.narrow {kept : CatalogEntry σ} (h : registry.Retains criteria place kept)
    (narrower : other.Narrower criteria) (hmeets : other.Meets kept.descriptor) :
    registry.Retains other place kept :=
  ⟨h.entry, ⟨h.eligible.complete, hmeets⟩, fun htaken => h.first (htaken.widen narrower)⟩

/-- If no names collide, what is retained for narrower criteria is retained for wider ones. -/
theorem Retains.widen {kept : CatalogEntry σ} (h : registry.Retains criteria place kept)
    (narrower : criteria.Narrower other) (distinct : registry.Distinct other) :
    registry.Retains other place kept := by
  refine ⟨h.entry, h.eligible.widen narrower, ?_⟩
  rintro ⟨earlier, hlt, entry, descriptor, hentry, heligible, hname⟩
  obtain ⟨hin, rfl⟩ := List.getElem?_eq_some_iff.mp hentry
  obtain ⟨hin', hkept⟩ := List.getElem?_eq_some_iff.mp h.entry
  have hpair := List.pairwise_iff_getElem.mp distinct earlier place hin hin' hlt
  refine hpair descriptor kept.descriptor heligible ?_ hname
  rw [hkept]
  exact h.eligible.widen narrower

/-- **FIRST**: if a plugin is eligible, the first that is eligible and has its name is retained,
    and stands at the same place or before. -/
theorem exists_retains {entry : RegistryEntry σ} {descriptor : Descriptor}
    (hentry : registry[place]? = some entry) (heligible : entry.Eligible criteria descriptor) :
    ∃ first ≤ place, ∃ kept, registry.Retains criteria first kept ∧
      kept.descriptor.name = descriptor.name := by
  induction place using Nat.strong_induction_on generalizing entry descriptor with
  | _ place ih =>
      by_cases htaken : registry.TakenBefore criteria place descriptor.name
      · obtain ⟨earlier, hlt, other, otherDescriptor, hother, heligible', hname⟩ := htaken
        obtain ⟨first, hle, kept, hkept, hsame⟩ := ih earlier hlt hother heligible'
        exact ⟨first, Nat.le_trans hle (Nat.le_of_lt hlt), kept, hkept, hsame.trans hname⟩
      · exact ⟨place, Nat.le_refl place, ⟨entry.id, descriptor, entry.plugin⟩,
          ⟨hentry, heligible, htaken⟩, rfl⟩

end Registry

/-! ## Selecting -/

namespace Catalog

/-- What is selected for some phases from a catalog for criteria that leave the phase open, and
    what a catalog has for the same criteria with these phases. -/
structure Narrows (registry : Registry σ) (criteria : Criteria) (phases : List String)
    (wide narrow : Catalog σ) : Prop where
  /-- The selection is a part of the narrower catalog. -/
  sublist : (wide.select (({} : Criteria).forPhases phases)).Sublist narrow.entries
  /-- It is all of it if no two plugins that are eligible without the phases have one name. -/
  equal : registry.Distinct criteria →
    wide.select (({} : Criteria).forPhases phases) = narrow.entries
  /-- The narrower catalog has no name that the wider one has not. -/
  names : ∀ kept ∈ narrow.entries, ∃ other ∈ wide.entries,
    other.descriptor.name = kept.descriptor.name
  /-- In the wider catalog the name belongs to the plugin at the same place or at one before. -/
  earlier : ∀ place kept, registry.Retains (criteria.forPhases phases) place kept →
    ∃ first ≤ place, ∃ other, registry.Retains criteria first other ∧
      other.descriptor.name = kept.descriptor.name

/-- What a selection takes, by the places of the registry. -/
theorem select_byPlace (registry : Registry σ) (criteria : Criteria) (phases : List String) :
    ByPlace (fun place kept => registry.Retains criteria place kept ∧
        Criteria.DeclaresAll kept.descriptor phases)
      ((scan registry criteria).1.select (({} : Criteria).forPhases phases)) := by
  refine ((entries_byPlace registry criteria).filter _).congr ?_
  intro place kept
  rw [Criteria.admits_iff, Criteria.meets_phases]

/-- **SELECTION**: selecting for phases from a catalog gives a part of the catalog for these
    phases, in the same order, and all of it unless names collide; and the catalog for the phases
    has no new names. -/
theorem select_narrows (registry : Registry σ) (criteria : Criteria) (phases : List String)
    (job : Job σ) (open_ : criteria.phases = none) :
    Narrows registry criteria phases (build registry criteria job).1
      (build registry (criteria.forPhases phases) job).1 := by
  have hwide := entries_byPlace registry criteria
  have hnarrow := entries_byPlace registry (criteria.forPhases phases)
  have hselect := select_byPlace registry criteria phases
  have hnarrower := Criteria.narrower_forPhases open_ phases
  have hsublist := hselect.sublist hnarrow fun place kept h =>
    h.1.narrow hnarrower
      ((Criteria.meets_forPhases open_ phases _).mpr ⟨h.1.eligible.meets, h.2⟩)
  have hearlier : ∀ place kept, registry.Retains (criteria.forPhases phases) place kept →
      ∃ first ≤ place, ∃ other, registry.Retains criteria first other ∧
        other.descriptor.name = kept.descriptor.name :=
    fun place kept h => Registry.exists_retains h.entry (h.eligible.widen hnarrower)
  refine ⟨hsublist, ?_, ?_, hearlier⟩
  · intro distinct
    refine hsublist.antisymm (hnarrow.sublist hselect ?_)
    intro place kept h
    exact ⟨h.widen hnarrower distinct,
      ((Criteria.meets_forPhases open_ phases _).mp h.eligible.meets).2⟩
  · intro kept hmem
    obtain ⟨place, hkept⟩ := (hnarrow.mem_iff kept).mp hmem
    obtain ⟨first, -, other, hother, hname⟩ := hearlier place kept hkept
    exact ⟨other, (hwide.mem_iff other).mpr ⟨first, hother⟩, hname⟩

/-- Two plugins of one name, of which the first only prepares. -/
def prepareAndCopy : Registry Replay := [
  ⟨"site.prepare", { manifest := (Manifest.named "copy").forPhases ["Pre-Add"],
                     task := pure () }⟩,
  ⟨"site.copy", { manifest := (Manifest.named "copy").forPhases ["Add"], task := pure () }⟩]

/-- The plugin that prepares takes the name, and nothing is selected; the catalog for the phase
    has the other one. -/
theorem select_narrows_copy :
    ({} : Criteria).phases = none ∧
      ((build prepareAndCopy {} resting).1.select (({} : Criteria).forPhases ["Add"])).map (·.id)
        = [] ∧
      (build prepareAndCopy (({} : Criteria).forPhases ["Add"]) resting).1.entries.map (·.id)
        = ["site.copy"] ∧
      Narrows prepareAndCopy {} ["Add"] (build prepareAndCopy {} resting).1
        (build prepareAndCopy (({} : Criteria).forPhases ["Add"]) resting).1 :=
  ⟨rfl, by decide, by decide, select_narrows prepareAndCopy {} ["Add"] resting rfl⟩

end Catalog

end Upkeep
