import Upkeep.Data.Basic
import Mathlib.Data.List.Sort
import Mathlib.Data.String.Basic

/-! # Fields — in order, and one for each name

    Setting a field keeps the fields in the order of their names
    (`Fields.ordered_insert`), and a name that was not there comes in beside the
    others.  So a list without a name twice is only put in order
    (`Fields.perm_ofList`), and looking a name up in ordered fields finds exactly
    the field that is there (`Fields.Ordered.get?_eq_some_iff`). -/

namespace Upkeep

namespace Fields

variable {α : Type} {name other : String} {value : α} {fields : List (String × α)}

/-- A field that is set has the value, and the others have what they had. -/
theorem get?_insert {α : Type} (name other : String) (value : α)
    (fields : List (String × α)) :
    get? name (insert other value fields)
      = if name = other then some value else get? name fields := by
  induction fields with
  | nil => rfl
  | cons field rest ih =>
      obtain ⟨first, old⟩ := field
      simp only [insert]
      by_cases hfirst : other = first
      · -- the value is replaced
        subst hfirst
        rw [if_pos rfl, get?, get?]
        split
        · rfl
        · rfl
      · rw [if_neg hfirst]
        split
        · rfl
        · rw [get?, get?, ih]
          by_cases hname : name = first
          · rw [if_pos hname, if_pos hname, if_neg (by rw [hname]; exact Ne.symm hfirst)]
          · rw [if_neg hname, if_neg hname]

/-- A name without a field has no value. -/
theorem get?_eq_none_iff : get? name fields = none ↔ name ∉ fields.map Prod.fst := by
  induction fields with
  | nil => exact iff_of_true rfl List.not_mem_nil
  | cons field rest ih =>
      obtain ⟨first, old⟩ := field
      rw [get?, List.map_cons, List.mem_cons, not_or, ← ih]
      split
      · next heq => exact iff_of_false (fun hsome => nomatch hsome) fun hnot => hnot.1 heq
      · next hne => exact (and_iff_right hne).symm

/-- A name that is not there comes in beside the others. -/
theorem perm_insert (h : name ∉ fields.map Prod.fst) :
    (insert name value fields).Perm ((name, value) :: fields) := by
  induction fields with
  | nil => exact List.Perm.refl _
  | cons field rest ih =>
      obtain ⟨first, old⟩ := field
      have hfirst : name ≠ first := List.ne_of_not_mem_cons h
      rw [insert, if_neg hfirst]
      split
      · exact List.Perm.refl _
      · have hrest := ih (List.not_mem_of_not_mem_cons h)
        exact (hrest.cons (first, old)).trans (List.Perm.swap _ _ _)

/-- Fields that are set one after the other come in beside those that are there. -/
theorem perm_foldl_insert (more set : List (String × α))
    (h : ((set ++ more).map Prod.fst).Nodup) :
    (more.foldl (fun fields (name, value) => insert name value fields) set).Perm
      (set ++ more) := by
  induction more generalizing set with
  | nil =>
      rw [List.append_nil]
      exact List.Perm.refl _
  | cons field more ih =>
      obtain ⟨name, value⟩ := field
      -- the field comes to the front of those that are there
      have hfront : (set ++ (name, value) :: more).Perm (((name, value) :: set) ++ more) :=
        List.perm_middle
      have hnodup : ((((name, value) :: set) ++ more).map Prod.fst).Nodup :=
        (hfront.map Prod.fst).nodup_iff.mp h
      have hnew : name ∉ set.map Prod.fst := by
        rw [List.cons_append, List.map_cons, List.map_append] at hnodup
        exact fun hmem => (List.nodup_cons.mp hnodup).1 (List.mem_append_left _ hmem)
      have hinsert : (insert name value set ++ more).Perm (((name, value) :: set) ++ more) :=
        (perm_insert hnew).append_right more
      have hrest := ih (insert name value set) ((hinsert.map Prod.fst).nodup_iff.mpr hnodup)
      exact (hrest.trans hinsert).trans hfront.symm

/-- The fields of a list without a name twice are those of the list. -/
theorem perm_ofList (h : (fields.map Prod.fst).Nodup) : (ofList fields).Perm fields :=
  perm_foldl_insert fields [] h

/-- Fields in the order of their names, with no name twice. -/
def Ordered (fields : List (String × α)) : Prop := fields.Pairwise fun one next => one.1 < next.1

/-- What is among the fields after one is set was there, or is the one that was set. -/
theorem mem_insert {field : String × α} (h : field ∈ insert name value fields) :
    field = (name, value) ∨ field ∈ fields := by
  induction fields with
  | nil => exact Or.inl (List.mem_singleton.mp h)
  | cons first rest ih =>
      obtain ⟨first, old⟩ := first
      rw [insert] at h
      split at h
      · rcases List.mem_cons.mp h with hset | hrest
        · exact Or.inl hset
        · exact Or.inr (List.mem_cons_of_mem _ hrest)
      · split at h
        · exact List.mem_cons.mp h
        · rcases List.mem_cons.mp h with hfirst | hrest
          · exact Or.inr (hfirst ▸ List.mem_cons_self)
          · exact (ih hrest).imp_right (List.mem_cons_of_mem _)

/-- The fields made from a list are in the list. -/
theorem mem_of_mem_ofList {field : String × α} (h : field ∈ ofList fields) : field ∈ fields := by
  have hset : ∀ set : List (String × α), (∀ field ∈ set, field ∈ fields) →
      ∀ one ∈ fields, ∀ field ∈ insert one.1 one.2 set, field ∈ fields := by
    intro set hset one hone field hfield
    rcases mem_insert hfield with rfl | hold
    · exact hone
    · exact hset field hold
  exact List.foldlRecOn fields _ (fun _ hnone => absurd hnone List.not_mem_nil) hset field h

/-- Setting a field keeps the order. -/
theorem ordered_insert (h : Ordered fields) : Ordered (insert name value fields) := by
  induction fields with
  | nil => exact List.pairwise_singleton _ _
  | cons first rest ih =>
      obtain ⟨first, old⟩ := first
      obtain ⟨hfirst, hrest⟩ := List.pairwise_cons.mp h
      rw [insert]
      split
      · next heq =>
        subst heq
        exact List.pairwise_cons.mpr ⟨hfirst, hrest⟩
      · next hne =>
        split
        · next hlt =>
          refine List.pairwise_cons.mpr ⟨?_, h⟩
          intro field hfield
          rcases List.mem_cons.mp hfield with rfl | hlater
          · exact hlt
          · exact hlt.trans (hfirst field hlater)
        · next hge =>
          have hlt : first < name := lt_of_le_of_ne (not_lt.mp hge) (Ne.symm hne)
          refine List.pairwise_cons.mpr ⟨?_, ih hrest⟩
          intro field hfield
          rcases mem_insert hfield with rfl | hold
          · exact hlt
          · exact hfirst field hold

/-- Fields made from a list are in order. -/
theorem ordered_ofList (fields : List (String × α)) : Ordered (ofList fields) :=
  List.foldlRecOn fields _ List.Pairwise.nil fun _ hset _ _ => ordered_insert hset

/-- Fields in order are made from themselves. -/
theorem Ordered.ofList_eq (h : Ordered fields) : ofList fields = fields := by
  have hnodup : (fields.map Prod.fst).Nodup :=
    List.pairwise_map.mpr (h.imp fun hlt => ne_of_lt hlt)
  exact (perm_ofList hnodup).eq_of_pairwise
    (fun _ _ _ _ hone hother => absurd hone (lt_asymm hother)) (ordered_ofList fields) h

/-- Fields in order are told by which they are. -/
theorem Ordered.eq_of_mem_iff {others : List (String × α)} (h : Ordered fields)
    (hothers : Ordered others) (hmem : ∀ field, field ∈ fields ↔ field ∈ others) :
    fields = others := by
  have : Std.Irrefl fun one next : String × α => one.1 < next.1 := ⟨fun field => lt_irrefl field.1⟩
  have : Std.Antisymm fun one next : String × α => one.1 < next.1 :=
    ⟨fun _ _ hone hnext => absurd hone (lt_asymm hnext)⟩
  exact List.Pairwise.eq_of_mem_iff h hothers hmem

/-- A name has the value that stands beside it. -/
theorem Ordered.get?_eq_some_iff (h : Ordered fields) :
    get? name fields = some value ↔ (name, value) ∈ fields := by
  induction fields with
  | nil => exact ⟨fun hget => (nomatch hget), fun hmem => (nomatch hmem)⟩
  | cons first rest ih =>
      obtain ⟨first, old⟩ := first
      obtain ⟨hfirst, hrest⟩ := List.pairwise_cons.mp h
      rw [get?, List.mem_cons, Prod.mk.injEq, ← ih hrest]
      split
      · next heq =>
        subst heq
        -- the name does not come again
        have hgone : get? name rest ≠ some value := fun hget =>
          lt_irrefl name (hfirst _ ((ih hrest).mp hget))
        rw [Option.some.injEq]
        exact ⟨fun hvalue => Or.inl ⟨rfl, hvalue.symm⟩,
          fun hmem => hmem.elim (fun hhere => hhere.2.symm) fun hget => absurd hget hgone⟩
      · next hne =>
        exact ⟨Or.inr, fun hmem => hmem.elim (fun hhere => absurd hhere.1 hne) id⟩

end Fields

end Upkeep
