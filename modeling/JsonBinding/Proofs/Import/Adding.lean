import JsonBinding.Import
import Mathlib.Data.Finset.Card
import Mathlib.Data.List.Count
import Mathlib.Data.List.Nodup
/-!
Imports and the history of what was added. A history leaves the imports that it names, each at the
place where it comes first (`added_insertAll`), and the sources likewise (`sources_insertAll`). The
list of all imports stands in the order of first additions, first of the sources and then within
each source (`pairwise_toList`).
-/
namespace JsonBinding

section FirstOccurrences

variable {α β : Type} [DecidableEq α] [DecidableEq β]

theorem eraseDups_concat (xs : List α) (x : α) :
    (xs ++ [x]).eraseDups = if x ∈ xs then xs.eraseDups else xs.eraseDups ++ [x] := by
  rw [List.eraseDups_append]
  split
  · next again => simp [List.removeAll, again]
  · next first => simp [List.removeAll, first, List.eraseDups_cons]

theorem eraseDups_of_nodup {xs : List α} (nodup : xs.Nodup) : xs.eraseDups = xs := by
  induction xs using List.reverseRecOn with
  | nil => rfl
  | append_singleton xs x ih =>
    obtain ⟨others, -, apart⟩ := List.nodup_append.mp nodup
    rw [eraseDups_concat, if_neg fun among => apart x among x (List.mem_singleton_self x) rfl,
      ih others]

theorem pairwise_eraseDups (xs : List α) :
    xs.eraseDups.Pairwise fun a b => xs.idxOf a < xs.idxOf b := by
  induction xs using List.reverseRecOn with
  | nil => exact List.Pairwise.nil
  | append_singleton xs x ih =>
    have place : ∀ a ∈ xs.eraseDups, (xs ++ [x]).idxOf a = xs.idxOf a := fun a among =>
      List.idxOf_append_of_mem (List.mem_eraseDups.mp among)
    have earlier : xs.eraseDups.Pairwise fun a b => (xs ++ [x]).idxOf a < (xs ++ [x]).idxOf b := by
      refine ih.imp_of_mem fun {a b} ha hb less => ?_
      rw [place a ha, place b hb]
      exact less
    rw [eraseDups_concat]
    split
    · exact earlier
    · next first =>
      refine List.pairwise_append.mpr ⟨earlier, List.pairwise_singleton _ _, fun a ha b hb => ?_⟩
      rw [List.mem_singleton.mp hb, place a ha, List.idxOf_append, if_neg first]
      have inside := List.idxOf_lt_length_iff.mpr (List.mem_eraseDups.mp ha)
      omega

theorem nodup_eraseDups (xs : List α) : xs.eraseDups.Nodup :=
  (pairwise_eraseDups xs).imp fun less same => absurd (same ▸ less) (lt_irrefl _)

theorem length_eraseDups (xs : List α) : xs.eraseDups.length = xs.toFinset.card := by
  rw [← List.toFinset_card_of_nodup (nodup_eraseDups xs)]
  exact congrArg Finset.card (List.toFinset.ext fun _ => List.mem_eraseDups)

theorem eraseDups_map_eraseDups (f : α → β) (xs : List α) :
    (xs.eraseDups.map f).eraseDups = (xs.map f).eraseDups := by
  induction xs using List.reverseRecOn with
  | nil => rfl
  | append_singleton xs x ih =>
    have listed : f x ∈ xs.eraseDups.map f ↔ f x ∈ xs.map f := by
      simp only [List.mem_map, List.mem_eraseDups]
    rw [eraseDups_concat, List.map_append, List.map_singleton, eraseDups_concat, ← ih]
    split
    · next again => rw [if_pos (List.mem_map_of_mem again)]
    · rw [List.map_append, List.map_singleton, eraseDups_concat]
      simp only [listed]

end FirstOccurrences

namespace Imports

/-- Adds one import after another and tells of each whether it was new. -/
def addEach (imports : Imports) : List Import → List Bool × Imports
  | [] => ([], imports)
  | i :: rest =>
    let (imports, isNew) := imports.add i
    let (others, imports) := imports.addEach rest
    (isNew :: others, imports)

theorem addEach_cons (imports : Imports) (i : Import) (rest : List Import) :
    imports.addEach (i :: rest) =
      ((!imports.contains i) :: ((imports.insert i).addEach rest).1,
        ((imports.insert i).addEach rest).2) := rfl

theorem addEach_eq_insertAll (imports : Imports) (more : List Import) :
    (imports.addEach more).2 = imports.insertAll more := by
  induction more generalizing imports with
  | nil => rfl
  | cons i rest ih =>
    rw [addEach_cons]
    exact ih (imports.insert i)

theorem length_addEach (imports : Imports) (more : List Import) :
    (imports.addEach more).1.length = more.length := by
  induction more generalizing imports with
  | nil => rfl
  | cons i rest ih => rw [addEach_cons, List.length_cons, ih, List.length_cons]

theorem getElem?_addEach (imports : Imports) (earlier : List Import) (i : Import)
    (later : List Import) :
    (imports.addEach (earlier ++ i :: later)).1[earlier.length]? =
      some !(imports.insertAll earlier).contains i := by
  induction earlier generalizing imports with
  | nil => rfl
  | cons first rest ih =>
    rw [List.cons_append, addEach_cons, List.length_cons, List.getElem?_cons_succ]
    exact ih (imports.insert first)

theorem contains_iff {imports : Imports} {i : Import} :
    imports.contains i = true ↔ i ∈ imports.added :=
  List.contains_iff_mem

theorem contains_insertAll {history : List Import} {i : Import} :
    (empty.insertAll history).contains i = true ↔ i ∈ history := by
  rw [contains_iff, mem_added_insertAll]
  exact or_iff_right List.not_mem_nil

theorem insertAll_concat (imports : Imports) (history : List Import) (i : Import) :
    imports.insertAll (history ++ [i]) = (imports.insertAll history).insert i := by
  unfold insertAll
  rw [List.foldl_append, List.foldl_cons, List.foldl_nil]

/-- A history leaves its imports where they come first. -/
theorem added_insertAll (history : List Import) :
    (empty.insertAll history).added = history.eraseDups := by
  induction history using List.reverseRecOn with
  | nil => rfl
  | append_singleton history i ih =>
    rw [insertAll_concat, eraseDups_concat, insert]
    simp only [ih, List.mem_eraseDups]
    split
    · exact ih
    · rfl

theorem sources_insertAll (history : List Import) :
    (empty.insertAll history).sources = (history.map (·.source)).eraseDups := by
  rw [sources, added_insertAll, eraseDups_map_eraseDups]

section Listing

theorem mem_fromSource {imports : Imports} {source : String} {i : Import} :
    i ∈ imports.fromSource source ↔ i ∈ imports.added ∧ i.source = source := by
  rw [fromSource, List.mem_filter, decide_eq_true_iff]

theorem fromSource_ne_nil {imports : Imports} {source : String}
    (listed : source ∈ imports.sources) : imports.fromSource source ≠ [] := by
  obtain ⟨i, added, rfl⟩ := List.mem_map.mp (List.mem_eraseDups.mp listed)
  exact List.ne_nil_of_mem (mem_fromSource.mpr ⟨added, rfl⟩)

theorem mem_toList {imports : Imports} {i : Import} : i ∈ imports.toList ↔ i ∈ imports.added := by
  unfold toList
  simp only [List.mem_flatMap, mem_fromSource]
  constructor
  · rintro ⟨_, _, added, _⟩
    exact added
  · intro added
    exact ⟨i.source, List.mem_eraseDups.mpr (List.mem_map_of_mem added), added, rfl⟩

/-- One import stands before another in a list by source: something was imported earlier from its
source, or it was itself imported earlier from the same source. -/
def StandsBefore (history : List Import) (a b : Import) : Prop :=
  (history.map (·.source)).idxOf a.source < (history.map (·.source)).idxOf b.source ∨
    a.source = b.source ∧ history.idxOf a < history.idxOf b

theorem StandsBefore.ne {history : List Import} {a b : Import} (before : StandsBefore history a b) :
    a ≠ b := by
  rintro rfl
  rcases before with less | ⟨_, less⟩
  · exact lt_irrefl _ less
  · exact lt_irrefl _ less

theorem pairwise_toList (history : List Import) :
    (empty.insertAll history).toList.Pairwise (StandsBefore history) := by
  unfold toList
  refine List.pairwise_flatMap.mpr ⟨fun source _ => ?_, ?_⟩
  · have order : ((empty.insertAll history).fromSource source).Pairwise fun a b =>
        history.idxOf a < history.idxOf b := by
      rw [fromSource, added_insertAll]
      exact (pairwise_eraseDups history).sublist List.filter_sublist
    refine order.imp_of_mem fun {a b} ha hb less => .inr ⟨?_, less⟩
    rw [(mem_fromSource.mp ha).2, (mem_fromSource.mp hb).2]
  · rw [sources_insertAll]
    refine (pairwise_eraseDups _).imp fun {s t} less a ha b hb => .inl ?_
    rw [(mem_fromSource.mp ha).2, (mem_fromSource.mp hb).2]
    exact less

theorem nodup_toList (history : List Import) : (empty.insertAll history).toList.Nodup :=
  (pairwise_toList history).imp StandsBefore.ne

end Listing

end Imports

end JsonBinding
