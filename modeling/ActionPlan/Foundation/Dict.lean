import Mathlib.Data.List.AList

/-! # Dictionaries with string keys

A dictionary is an association list without repeated keys (`AList`). Copying a
dictionary and overriding it with another one, `{**first, **second}`, is the
union that prefers the second.
-/

namespace ActionPlan.Foundation

/-- Dictionaries from strings to values of one type. -/
abbrev Dict (α : Type*) := AList fun _ : String => α

namespace Dict

variable {α β : Type*}

/-- `{**base, **changes}`: the entries of both, those of `changes` winning. -/
def override (base changes : Dict α) : Dict α := changes ∪ base

theorem lookup_override_of_not_mem (base changes : Dict α) {key : String}
    (absent : key ∉ changes) : (override base changes).lookup key = base.lookup key :=
  AList.lookup_union_right absent

/-- Overriding with a single entry leaves every other key as it was. -/
theorem lookup_override_singleton_of_ne (base : Dict α) {key other : String} (value : α)
    (different : key ≠ other) :
    (override base (AList.singleton other value)).lookup key = base.lookup key :=
  lookup_override_of_not_mem _ _ fun present => by
    rw [AList.mem_keys, AList.keys_singleton, List.mem_singleton] at present
    exact different present

/-- The dictionary with the entries of a list, the first ones winning. -/
def ofEntries (entries : List (String × α)) : Dict α :=
  (entries.map fun entry => (⟨entry.1, entry.2⟩ : Sigma fun _ : String => α)).toAList

theorem lookup_ofEntries (entries : List (String × α)) (key : String) :
    (ofEntries entries).lookup key = entries.lookup key := by
  rw [ofEntries, AList.lookup_to_alist]
  induction entries with
  | nil => rfl
  | cons entry entries ih =>
      obtain ⟨name, value⟩ := entry
      rw [List.map_cons, List.lookup_cons]
      by_cases same : key = name
      · subst same
        rw [List.dlookup_cons_eq, beq_self_eq_true]
      · rw [List.dlookup_cons_ne _ _ same, beq_false_of_ne same]
        exact ih

/-- Apply a function to every value. -/
def mapValues (f : α → β) (dict : Dict α) : Dict β where
  entries := dict.entries.map fun entry => ⟨entry.1, f entry.2⟩
  nodupKeys := by
    have keys : (dict.entries.map fun entry : Sigma fun _ : String => α =>
        (⟨entry.1, f entry.2⟩ : Sigma fun _ : String => β)).keys = dict.entries.keys := by
      simp [List.keys, Function.comp_def]
    rw [List.NodupKeys, keys]
    exact dict.nodupKeys

theorem lookup_mapValues (f : α → β) (dict : Dict α) (key : String) :
    (dict.mapValues f).lookup key = (dict.lookup key).map f := by
  obtain ⟨entries, nodup⟩ := dict
  change (entries.map fun entry : Sigma fun _ : String => α =>
      (⟨entry.1, f entry.2⟩ : Sigma fun _ : String => β)).dlookup key =
    (entries.dlookup key).map f
  clear nodup
  induction entries with
  | nil => rfl
  | cons entry entries ih =>
      obtain ⟨name, value⟩ := entry
      rw [List.map_cons]
      by_cases same : key = name
      · subst same
        rw [List.dlookup_cons_eq, List.dlookup_cons_eq, Option.map_some]
      · rw [List.dlookup_cons_ne _ _ same, List.dlookup_cons_ne _ _ same, ih]

theorem mapValues_mapValues {γ : Type*} (g : β → γ) (f : α → β) (dict : Dict α) :
    (dict.mapValues f).mapValues g = dict.mapValues (g ∘ f) := by
  apply AList.ext
  simp [mapValues, Function.comp_def]

/-- Functions map a dictionary to the same one exactly when they agree on its values. -/
theorem mapValues_eq_iff (f g : α → β) (dict : Dict α) :
    dict.mapValues f = dict.mapValues g ↔ ∀ entry ∈ dict.entries, f entry.2 = g entry.2 := by
  rw [AList.ext_iff]
  simp only [mapValues, List.map_inj_left, Sigma.mk.injEq, heq_eq_eq, true_and]

/-- Mapping with a function that fixes every value of the dictionary changes nothing. -/
theorem mapValues_eq_self (f : α → α) (dict : Dict α)
    (fixed : ∀ entry ∈ dict.entries, f entry.2 = entry.2) : dict.mapValues f = dict := by
  apply AList.ext
  change (dict.entries.map fun entry => (⟨entry.1, f entry.2⟩ : Sigma fun _ : String => α)) =
    dict.entries
  have same : ∀ entry ∈ dict.entries,
      (⟨entry.1, f entry.2⟩ : Sigma fun _ : String => α) = id entry := by
    rintro ⟨name, value⟩ member
    exact congrArg (Sigma.mk name) (fixed _ member)
  rw [List.map_congr_left same, List.map_id]

/-- The selected entries of a dictionary that holds the images of the values of another one, each
under the new name of its key. -/
theorem filter_entries_perm {base : Dict α} {stored : Dict β} {rename : String → String}
    (injective : Function.Injective rename) (image : α → β) (selected : String → Bool)
    (kept : ∀ key ∈ base, selected (rename key) = true)
    (named : ∀ name ∈ stored, ∃ key, rename key = name)
    (holds : ∀ key, selected (rename key) = true →
      stored.lookup (rename key) = (base.lookup key).map image) :
    (stored.entries.filter fun entry => selected entry.1).Perm
      (base.entries.map fun entry => (⟨rename entry.1, image entry.2⟩ : Sigma fun _ => β)) := by
  refine (List.perm_ext_iff_of_nodup ?_ ?_).mpr ?_
  · exact stored.nodupKeys.nodup.filter _
  · refine List.Nodup.of_map Sigma.fst ?_
    have names : (base.entries.keys.map rename).Nodup := base.nodupKeys.map injective
    rw [List.keys, List.map_map] at names
    rwa [List.map_map]
  · rintro ⟨name, value⟩
    rw [List.mem_filter, List.mem_map, ← AList.mem_lookup_iff]
    constructor
    · rintro ⟨present, chosen⟩
      obtain ⟨key, rfl⟩ := named name (AList.lookup_isSome.mp (Option.isSome_of_mem present))
      rw [holds key chosen] at present
      obtain ⟨source, found, rfl⟩ := Option.map_eq_some_iff.mp present
      exact ⟨⟨key, source⟩, AList.mem_lookup_iff.mp found, rfl⟩
    · rintro ⟨⟨key, source⟩, member, same⟩
      cases same
      have found := AList.mem_lookup_iff.mpr member
      have chosen := kept key (AList.lookup_isSome.mp (Option.isSome_of_mem found))
      refine ⟨?_, chosen⟩
      rw [holds key chosen]
      exact Option.mem_map_of_mem image found

end Dict

end ActionPlan.Foundation
