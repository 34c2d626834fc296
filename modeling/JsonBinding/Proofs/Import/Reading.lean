import JsonBinding.Proofs.Import.Grouping
import JsonBinding.Proofs.Name.Plain
import JsonBinding.Proofs.Text.Lines
/-!
Import statements say what is imported. A reader takes one statement from each line: the source goes
to the next blank, and commas stand between the names. Where sources and names are words it reads
the imports back in the order in which they are listed (`readImports_text`), so that nothing about
the imports of a module is lost in its text. The main statement puts all that imports tell of what
was added to them side by side (`imports_record_history`).
-/
namespace JsonBinding

open Text

/-- A word that is imported from a source that is a word. -/
def Import.IsWordy (i : Import) : Prop :=
  IsWord i.source.toList ∧ IsWord i.symbol.toList

instance (i : Import) : Decidable i.IsWordy :=
  inferInstanceAs (Decidable (IsWord i.source.toList ∧ IsWord i.symbol.toList))

namespace Imports

/-- Reads one import statement. -/
def readStatement (statement : List Char) : Option (List Import) := do
  let text ← "from ".toList.isPrefixOf? statement
  let names ← " import ".toList.isPrefixOf? (text.dropWhile (· ≠ ' '))
  return ((names.filter (· ≠ ' ')).splitOn ',').map fun name =>
    ⟨String.ofList (text.takeWhile (· ≠ ' ')), String.ofList name⟩

def readStatements : List (List Char) → Option (List Import)
  | [] => some []
  | statement :: rest => do
    let imports ← readStatement statement
    return imports ++ (← readStatements rest)

/-- Reads imports back from their text. -/
def readImports (text : String) : Option (List Import) :=
  readStatements (Text.lines text.toList)

section Statements

theorem blank_breaks : isIdentifierContinue ' ' = false := by
  decide +kernel

theorem comma_breaks : isIdentifierContinue ',' = false := by
  decide +kernel

theorem isOpen_of_isWord {text : List Char} (word : IsWord text) : IsOpen text :=
  ⟨word.not_mem (by decide +kernel), word.not_mem (by decide +kernel)⟩

theorem filter_intercalate {words : List (List Char)} (each : ∀ word ∈ words, IsWord word) :
    ((", ".toList).intercalate words).filter (· ≠ ' ') = [','].intercalate words := by
  induction words with
  | nil => rfl
  | cons word rest ih =>
    obtain ⟨first, others⟩ := List.forall_mem_cons.mp each
    have stays : word.filter (· ≠ ' ') = word :=
      List.filter_eq_self.mpr fun c among => decide_eq_true fun same =>
        first.not_mem blank_breaks (same ▸ among)
    by_cases last : rest = []
    · rw [last, List.intercalate_singleton, List.intercalate_singleton, stays]
    · rw [List.intercalate_cons_of_ne_nil last, List.intercalate_cons_of_ne_nil last,
        List.filter_append, List.filter_append, stays, ih others]
      rfl

theorem readStatement_line {source : String} {symbols : List String}
    (fromWord : IsWord source.toList) (words : ∀ symbol ∈ symbols, IsWord symbol.toList)
    (nonempty : symbols ≠ []) :
    readStatement (line source symbols).toList =
      some (symbols.map fun symbol => ⟨source, symbol⟩) := by
  have goesOn : ∀ c ∈ source.toList, (decide (c ≠ ' ')) = true := fun c among =>
    decide_eq_true fun same => fromWord.not_mem blank_breaks (same ▸ among)
  let names := (", ".toList).intercalate (symbols.map String.toList)
  let text := source.toList ++ (" import ".toList ++ names)
  have whole : (line source symbols).toList = "from ".toList ++ text := by
    simp only [line, String.toList_append, String.toList_intercalate, List.append_assoc, text,
      names]
  have start : "from ".toList.isPrefixOf? (line source symbols).toList = some text :=
    List.isPrefixOf?_eq_some_iff_append_eq.mpr whole.symm
  have behind : text.dropWhile (· ≠ ' ') = " import ".toList ++ names :=
    List.dropWhile_append_of_pos goesOn
  have front : text.takeWhile (· ≠ ' ') = source.toList :=
    (List.takeWhile_append_of_pos goesOn).trans (List.append_nil _)
  have middle : " import ".toList.isPrefixOf? (" import ".toList ++ names) = some names :=
    List.isPrefixOf?_eq_some_iff_append_eq.mpr rfl
  have each : ∀ word ∈ symbols.map String.toList, IsWord word := List.forall_mem_map.mpr words
  have cut : (names.filter (· ≠ ' ')).splitOn ',' = symbols.map String.toList := by
    rw [filter_intercalate each]
    refine List.splitOn_intercalate ',' (fun word among => ?_) (by simpa using nonempty)
    exact (each word among).not_mem comma_breaks
  simp only [readStatement, start, behind, middle, front, cut, Option.bind_eq_bind,
    Option.bind_some, List.map_map, Option.pure_def]
  refine congrArg some (List.map_congr_left fun symbol _ => ?_)
  simp only [Function.comp_apply, String.ofList_toList]

theorem isOpen_line {source : String} {symbols : List String} (fromWord : IsWord source.toList)
    (words : ∀ symbol ∈ symbols, IsWord symbol.toList) : IsOpen (line source symbols).toList := by
  have from' : IsOpen "from ".toList := by decide
  have import' : IsOpen " import ".toList := by decide
  have comma : IsOpen ", ".toList := by decide
  simp only [line, String.toList_append, isOpen_append_iff, String.toList_intercalate]
  refine ⟨⟨⟨from', isOpen_of_isWord fromWord⟩, import'⟩, isOpen_intercalate comma ?_⟩
  exact List.forall_mem_map.mpr fun symbol among => isOpen_of_isWord (words symbol among)

end Statements

variable {imports : Imports}

section Words

variable (words : ∀ i ∈ imports.added, i.IsWordy)

include words

theorem isWord_of_source {source : String} (listed : source ∈ imports.sources) :
    IsWord source.toList := by
  obtain ⟨i, added, rfl⟩ := List.mem_map.mp (List.mem_eraseDups.mp listed)
  exact (words i added).1

theorem isWord_of_symbol {source symbol : String}
    (among : symbol ∈ (imports.fromSource source).map (·.symbol)) : IsWord symbol.toList := by
  obtain ⟨i, listed, rfl⟩ := List.mem_map.mp among
  exact (words i (mem_fromSource.mp listed).1).2

theorem lines_text : Text.lines imports.text.toList = imports.lines.map String.toList := by
  refine lines_unlines fun statement among => ?_
  obtain ⟨source, listed, rfl⟩ := List.mem_map.mp among
  refine ⟨isOpen_line (isWord_of_source words listed) fun _ => isWord_of_symbol words, ?_⟩
  simp [line]

theorem readStatements_lines (sources : List String)
    (listed : ∀ source ∈ sources, source ∈ imports.sources) :
    readStatements (sources.map fun source =>
        (line source ((imports.fromSource source).map (·.symbol))).toList) =
      some (sources.flatMap imports.fromSource) := by
  induction sources with
  | nil => rfl
  | cons source rest ih =>
    obtain ⟨first, others⟩ := List.forall_mem_cons.mp listed
    have named : ∀ symbol ∈ (imports.fromSource source).map (·.symbol), IsWord symbol.toList :=
      fun _ among => isWord_of_symbol words among
    have read := readStatement_line (isWord_of_source words first) named
      (by simpa using fromSource_ne_nil first)
    rw [map_symbol_fromSource] at read
    rw [List.map_cons, readStatements, read, ih others, List.flatMap_cons]
    rfl

theorem readImports_text : readImports imports.text = some imports.toList := by
  rw [readImports, lines_text words, lines, List.map_map]
  exact readStatements_lines words imports.sources fun _ => id

end Words

/-- Imports that are added one after another are told apart from those added before. What is left
holds just what was added, lists it once in the order of first additions, sources first, counts it,
has one statement for every source, and groups names by source as if each had been added to the
group of its own; where sources and names are words, each statement is one line of the text, and the
imports can be read back from it as they are listed. -/
theorem imports_record_history (history : List Import) :
    let run := empty.addEach history
    run.1.length = history.length ∧
    (∀ earlier i later, history = earlier ++ i :: later →
      run.1[earlier.length]? = some (decide (i ∉ earlier))) ∧
    (∀ i, run.2.contains i = true ↔ i ∈ history) ∧
    (∀ i, run.2.toList.count i = if i ∈ history then 1 else 0) ∧
    run.2.toList.Pairwise (StandsBefore history) ∧
    run.2.size = history.toFinset.card ∧
    (run.2.isEmpty = true ↔ history = []) ∧
    run.2.lines.length = (history.map (·.source)).toFinset.card ∧
    run.2.grouped = history.foldl ImportGroups.add .empty ∧
    ((∀ i ∈ history, i.IsWordy) →
      Text.lines run.2.text.toList = run.2.lines.map String.toList ∧
        readImports run.2.text = some run.2.toList) := by
  intro run
  have added : run.2.added = history.eraseDups := by
    rw [addEach_eq_insertAll, added_insertAll]
  have listed : ∀ i, i ∈ run.2.added ↔ i ∈ history := fun i => by
    rw [added, List.mem_eraseDups]
  have same : run.2 = empty.insertAll history := addEach_eq_insertAll empty history
  refine ⟨length_addEach empty history, ?_, fun i => contains_iff.trans (listed i), fun i => ?_,
    ?_, ?_, ?_, ?_, ?_, fun words => ?_⟩
  · rintro earlier i later rfl
    have new := getElem?_addEach empty earlier i later
    rw [new]
    refine congrArg some (Bool.eq_iff_iff.mpr ?_)
    rw [Bool.not_eq_true', ← Bool.not_eq_true, contains_insertAll, decide_eq_true_iff]
  · have nodup : run.2.toList.Nodup := same ▸ nodup_toList history
    rw [nodup.count]
    simp only [mem_toList, listed]
  · rw [same]
    exact pairwise_toList history
  · rw [size, added, length_eraseDups]
  · rw [isEmpty, List.isEmpty_iff, List.eq_nil_iff_forall_not_mem,
      List.eq_nil_iff_forall_not_mem]
    exact forall_congr' fun i => not_congr (listed i)
  · rw [lines, List.length_map, same, sources_insertAll, length_eraseDups]
  · rw [same]
    exact grouped_insertAll history
  · have wordy : ∀ i ∈ run.2.added, i.IsWordy := fun i among => words i ((listed i).mp among)
    exact ⟨lines_text wordy, readImports_text wordy⟩

/-- Two sources in turns, and a name that is imported again. -/
def turns : List Import :=
  [.list, .enum, .any, .list, ⟨"enum", "Flag"⟩]

theorem turns_recorded :
    (∀ i ∈ turns, i.IsWordy) ∧
      (empty.addEach turns).1[2]? = some true ∧ (empty.addEach turns).1[3]? = some false ∧
      (empty.addEach turns).2.size = 4 ∧
      (empty.addEach turns).2.text = "from typing import List, Any\nfrom enum import Enum, Flag" ∧
      readImports "from typing import List, Any\nfrom enum import Enum, Flag" =
        some [.list, .any, .enum, ⟨"enum", "Flag"⟩] := by
  have words : ∀ i ∈ turns, i.IsWordy := by decide +kernel
  obtain ⟨-, news, -, -, -, size, -, -, -, read⟩ := imports_record_history turns
  have text : (empty.addEach turns).2.text =
      "from typing import List, Any\nfrom enum import Enum, Flag" := by decide +kernel
  have back := (read words).2
  rw [text] at back
  exact ⟨words, news [.list, .enum] .any _ rfl, news [.list, .enum, .any] .list _ rfl, size, text,
    back⟩

end Imports

end JsonBinding
