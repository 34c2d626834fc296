import JsonBinding.OrderedMap
import JsonBinding.Proofs.Import.Adding
import Mathlib.Algebra.GroupWithZero.Nat
/-!
Imports by source. The imports of a module are one list in the order of their first use; written
out, each source stands once, with its names behind it. The two views agree: adding an import to the
list adds its name to the group of its source (`grouped_insert`), and whatever is asked of the list
can be read off the groups (`groups_tell_all`).
-/
namespace JsonBinding

section Entries

variable {κ α : Type} [DecidableEq κ]

theorem putEntry_map {keys : List κ} (nodup : keys.Nodup) (value : κ → α) (key : κ) (new : α) :
    putEntry key new (keys.map fun k => (k, value k)) =
      (if key ∈ keys then keys else keys ++ [key]).map fun k =>
        (k, if k = key then new else value k) := by
  induction keys with
  | nil => simp [putEntry]
  | cons first rest ih =>
    obtain ⟨absent, others⟩ := List.nodup_cons.mp nodup
    by_cases same : first = key
    · subst same
      have kept : ∀ k ∈ rest, (if k = first then new else value k) = value k := by
        intro k among
        rw [if_neg]
        rintro rfl
        exact absent among
      simp only [List.map_cons, putEntry, List.mem_cons, true_or, if_true]
      exact congrArg _ (List.map_congr_left fun k among => by rw [kept k among])
    · have differs : ¬ key = first := Ne.symm same
      simp only [List.map_cons, putEntry, if_neg same, ih others, List.mem_cons, differs, false_or]
      split <;> simp [same]

theorem find?_map_key (keys : List κ) (value : κ → α) (key : κ) :
    (keys.map fun k => (k, value k)).find? (·.1 = key) =
      if key ∈ keys then some (key, value key) else none := by
  induction keys with
  | nil => rfl
  | cons first rest ih =>
    by_cases same : first = key
    · simp [same]
    · simp [same, Ne.symm same, ih]

end Entries

/-- The names that are imported from each source, both in the order of first use. -/
abbrev ImportGroups := OrderedMap String (List String)

/-- Adds a name to those of its source, at the end and unless it is there. -/
def ImportGroups.add (groups : ImportGroups) (i : Import) : ImportGroups :=
  let symbols := (groups.find? i.source).getD []
  groups.insert i.source (if i.symbol ∈ symbols then symbols else symbols ++ [i.symbol])

namespace Imports

/-- The sources of the imports, each with the names that are taken from it. -/
def groups (imports : Imports) : List (String × List String) :=
  imports.sources.map fun source => (source, (imports.fromSource source).map (·.symbol))

theorem nodup_sources (imports : Imports) : imports.sources.Nodup :=
  nodup_eraseDups _

theorem map_fst_groups (imports : Imports) : imports.groups.map Prod.fst = imports.sources := by
  unfold groups
  rw [List.map_map]
  exact List.map_id _

theorem nodup_groups (imports : Imports) : (imports.groups.map Prod.fst).Nodup := by
  rw [map_fst_groups]
  exact imports.nodup_sources

def grouped (imports : Imports) : ImportGroups where
  entries := imports.groups
  nodup := imports.nodup_groups

theorem lines_eq (imports : Imports) :
    imports.lines = imports.groups.map fun group => line group.1 group.2 := by
  unfold lines groups
  rw [List.map_map]
  rfl

theorem isEmpty_eq (imports : Imports) : imports.isEmpty = imports.groups.isEmpty := by
  cases empty : imports.added <;> simp [isEmpty, groups, sources, empty, List.eraseDups_cons]

theorem mem_sources {imports : Imports} {i : Import} (added : i ∈ imports.added) :
    i.source ∈ imports.sources :=
  List.mem_eraseDups.mpr (List.mem_map_of_mem added)

theorem mem_symbols {imports : Imports} {source symbol : String} :
    symbol ∈ (imports.fromSource source).map (·.symbol) ↔ ⟨source, symbol⟩ ∈ imports.added := by
  simp only [List.mem_map, mem_fromSource]
  constructor
  · rintro ⟨_, ⟨added, rfl⟩, rfl⟩
    exact added
  · intro added
    exact ⟨_, ⟨added, rfl⟩, rfl⟩

theorem mem_groups {imports : Imports} {source symbol : String} :
    (∃ group ∈ imports.groups, group.1 = source ∧ symbol ∈ group.2) ↔
      ⟨source, symbol⟩ ∈ imports.added := by
  unfold groups
  constructor
  · rintro ⟨_, among, rfl, listed⟩
    obtain ⟨_, _, rfl⟩ := List.mem_map.mp among
    exact mem_symbols.mp listed
  · intro added
    exact ⟨_, List.mem_map_of_mem (mem_sources added), rfl, mem_symbols.mpr added⟩

theorem symbols_ne_nil {imports : Imports} {group : String × List String}
    (among : group ∈ imports.groups) : group.2 ≠ [] := by
  obtain ⟨source, listed, rfl⟩ := List.mem_map.mp among
  exact mt List.map_eq_nil_iff.mp (fromSource_ne_nil listed)

section Insertion

theorem sources_insert (imports : Imports) (i : Import) :
    (imports.insert i).sources =
      if i.source ∈ imports.sources then imports.sources else imports.sources ++ [i.source] := by
  unfold insert
  split
  · next again => rw [if_pos (mem_sources again)]
  · simp only [sources, List.map_append, List.map_singleton, eraseDups_concat, List.mem_eraseDups]

theorem symbols_insert (imports : Imports) (i : Import) (source : String) :
    ((imports.insert i).fromSource source).map (·.symbol) =
      if source = i.source then
        if i ∈ imports.added then (imports.fromSource source).map (·.symbol)
        else (imports.fromSource source).map (·.symbol) ++ [i.symbol]
      else (imports.fromSource source).map (·.symbol) := by
  unfold insert
  split
  · exact (ite_self _).symm
  · by_cases same : source = i.source
    · simp [fromSource, same]
    · simp [fromSource, same, Ne.symm same]

theorem find?_grouped (imports : Imports) (source : String) :
    imports.grouped.find? source =
      if source ∈ imports.sources then some ((imports.fromSource source).map (·.symbol))
      else none := by
  unfold OrderedMap.find? grouped groups
  rw [find?_map_key]
  split <;> rfl

theorem getD_find?_grouped (imports : Imports) (source : String) :
    (imports.grouped.find? source).getD [] = (imports.fromSource source).map (·.symbol) := by
  rw [find?_grouped]
  split
  · rfl
  · next absent =>
    refine (List.map_eq_nil_iff.mpr (List.eq_nil_iff_forall_not_mem.mpr fun i listed => ?_)).symm
    obtain ⟨added, rfl⟩ := mem_fromSource.mp listed
    exact absent (mem_sources added)

theorem grouped_insert (imports : Imports) (i : Import) :
    (imports.insert i).grouped = imports.grouped.add i := by
  apply OrderedMap.ext
  unfold ImportGroups.add
  rw [getD_find?_grouped]
  unfold OrderedMap.insert grouped groups
  dsimp only
  rw [putEntry_map imports.nodup_sources, sources_insert]
  refine List.map_congr_left fun source _ => congrArg _ ?_
  rw [symbols_insert]
  split
  · next same =>
    subst same
    exact if_congr mem_symbols.symm rfl rfl
  · rfl

/-- A history of imports leaves the groups that come of adding them one by one. -/
theorem grouped_insertAll (history : List Import) :
    (empty.insertAll history).grouped = history.foldl ImportGroups.add .empty := by
  induction history using List.reverseRecOn with
  | nil => rfl
  | append_singleton history i ih =>
    rw [insertAll_concat, grouped_insert, ih, List.foldl_append, List.foldl_cons, List.foldl_nil]

end Insertion

theorem insertAll_added (imports : Imports) : empty.insertAll imports.added = imports := by
  obtain ⟨added, nodup⟩ := imports
  have same : (empty.insertAll added).added = added := by
    rw [added_insertAll, eraseDups_of_nodup nodup]
  cases insertion : empty.insertAll added
  rw [insertion] at same
  cases same
  rfl

theorem toList_perm (imports : Imports) : imports.toList.Perm imports.added := by
  have nodup : imports.toList.Nodup := by
    rw [← imports.insertAll_added]
    exact nodup_toList imports.added
  exact (List.perm_ext_iff_of_nodup nodup imports.nodup).mpr fun _ => mem_toList

theorem map_symbol_fromSource (imports : Imports) (source : String) :
    ((imports.fromSource source).map (·.symbol)).map (Import.mk source) =
      imports.fromSource source := by
  rw [List.map_map]
  refine (List.map_congr_left fun i among => ?_).trans (List.map_id _)
  rw [Function.comp_apply, ← (mem_fromSource.mp among).2]
  rfl

theorem toList_eq (imports : Imports) :
    imports.toList = imports.groups.flatMap fun group => group.2.map (Import.mk group.1) := by
  unfold toList groups
  simp only [List.flatMap_map, map_symbol_fromSource]

/-- Whatever is asked of imports can be read off their groups. -/
theorem groups_tell_all (imports : Imports) :
    (∀ i, imports.contains i = (imports.grouped.find? i.source).any (·.contains i.symbol)) ∧
    imports.isEmpty = imports.grouped.entries.isEmpty ∧
    imports.size = (imports.grouped.values.map List.length).sum ∧
    imports.toList =
      imports.grouped.entries.flatMap (fun group => group.2.map (Import.mk group.1)) ∧
    imports.lines = imports.grouped.entries.map fun group => line group.1 group.2 := by
  refine ⟨fun i => ?_, imports.isEmpty_eq, ?_, imports.toList_eq, imports.lines_eq⟩
  · rw [find?_grouped]
    apply Bool.eq_iff_iff.mpr
    split
    · rw [contains_iff, Option.any_some, List.contains_iff_mem, mem_symbols]
    · next absent => simpa using fun added => absent (mem_sources (contains_iff.mp added))
  · rw [size, ← imports.toList_perm.length_eq, toList_eq]
    simp [OrderedMap.values, grouped, List.length_flatMap, List.map_map, Function.comp_def]

end Imports

end JsonBinding
