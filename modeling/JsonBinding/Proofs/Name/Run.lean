import JsonBinding.Proofs.Name.Legalizing
import Mathlib.Data.List.SplitBy
/-!
Rewriting text run by run. A text has one cut into runs, its longest stretches of characters that
are all accepted or all rejected (`isRuns_iff`). Of accepted characters all expansions are written,
and of the characters of a rejected run the first alone leaves the replacement. As runs of the two
kinds take turns, each is written as if the text started with it (`legalizeFrom_of_isRuns`): what is
written for a text is put together from what is written for its runs. Rejected characters that are
dropped leave nothing, so that runs do not matter (`legalizing_goes_run_by_run`).
-/
namespace JsonBinding

variable {accept : Char → Option (List Char)} {fallback : Fallback} {replacement : Char}
  {inRun : Bool} {text run next : List Char} {cut : List (List Char)}

def IsAccepted (accept : Char → Option (List Char)) (run : List Char) : Prop :=
  ∀ c ∈ run, (accept c).isSome = true

def IsRejected (accept : Char → Option (List Char)) (run : List Char) : Prop :=
  ∀ c ∈ run, accept c = none

instance : Decidable (IsAccepted accept run) :=
  inferInstanceAs (Decidable (∀ c ∈ run, (accept c).isSome = true))

/-- The text is cut into its runs. None of them can take in a character of the next, as that is of
the other kind. -/
structure IsRuns (accept : Char → Option (List Char)) (text : List Char)
    (cut : List (List Char)) : Prop where
  whole : text = cut.flatten
  nonempty : [] ∉ cut
  uniform : ∀ run ∈ cut, IsAccepted accept run ∨ IsRejected accept run
  alternating : cut.IsChain fun run next =>
    IsAccepted accept run ∧ IsRejected accept next ∨ IsRejected accept run ∧ IsAccepted accept next

/-- The runs of a text. -/
def runsOf (accept : Char → Option (List Char)) (text : List Char) : List (List Char) :=
  text.splitBy fun c d => (accept c).isSome == (accept d).isSome

/-- What is written for a run: the expansions of all its characters, or one replacement. -/
def runText (accept : Char → Option (List Char)) (replacement : Char) (run : List Char) :
    List Char :=
  if IsAccepted accept run then (run.filterMap accept).flatten else [replacement]

section Cutting

theorem IsAccepted.ne_none {c : Char} (accepted : IsAccepted accept run) (among : c ∈ run) :
    accept c ≠ none :=
  Option.isSome_iff_ne_none.mp (accepted c among)

theorem isAccepted_iff_of_mem {c : Char} (uniform : IsAccepted accept run ∨ IsRejected accept run)
    (among : c ∈ run) : IsAccepted accept run ↔ (accept c).isSome = true := by
  constructor
  · intro accepted
    exact accepted c among
  · intro one
    exact uniform.resolve_right fun rejected => Option.isSome_iff_ne_none.mp one (rejected c among)

theorem isRejected_iff_of_mem {c : Char} (uniform : IsAccepted accept run ∨ IsRejected accept run)
    (among : c ∈ run) : IsRejected accept run ↔ (accept c).isSome = false := by
  rw [Option.isSome_eq_false_iff, Option.isNone_iff_eq_none]
  constructor
  · intro rejected
    exact rejected c among
  · intro one
    exact uniform.resolve_left fun accepted => accepted.ne_none among one

theorem isChain_alike_iff :
    (run.IsChain fun c d => ((accept c).isSome == (accept d).isSome) = true) ↔
      IsAccepted accept run ∨ IsRejected accept run := by
  induction run with
  | nil => simp [IsAccepted]
  | cons c rest ih =>
    cases rest with
    | nil => cases first : accept c <;> simp [IsAccepted, IsRejected, first]
    | cons d rest =>
      rw [List.isChain_cons_cons, ih]
      cases first : accept c <;> cases second : accept d <;>
        simp [IsAccepted, IsRejected, first, second]

theorem alternating_iff (hrun : IsAccepted accept run ∨ IsRejected accept run)
    (hnext : IsAccepted accept next ∨ IsRejected accept next) (last : run ≠ [])
    (first : next ≠ []) :
    (IsAccepted accept run ∧ IsRejected accept next ∨
        IsRejected accept run ∧ IsAccepted accept next) ↔
      ∃ hr hn, ((accept (run.getLast hr)).isSome == (accept (next.head hn)).isSome) = false := by
  rw [isAccepted_iff_of_mem hrun (run.getLast_mem last),
    isRejected_iff_of_mem hrun (run.getLast_mem last),
    isAccepted_iff_of_mem hnext (next.head_mem first),
    isRejected_iff_of_mem hnext (next.head_mem first)]
  simp only [exists_prop_of_true, last, first, ne_eq, not_false_eq_true]
  cases (accept (run.getLast last)).isSome <;> cases (accept (next.head first)).isSome <;> decide

theorem isChain_alternating_iff (nonempty : [] ∉ cut)
    (uniform : ∀ run ∈ cut, IsAccepted accept run ∨ IsRejected accept run) :
    (cut.IsChain fun run next => IsAccepted accept run ∧ IsRejected accept next ∨
        IsRejected accept run ∧ IsAccepted accept next) ↔
      cut.IsChain fun run next => ∃ hr hn,
        ((accept (run.getLast hr)).isSome == (accept (next.head hn)).isSome) = false :=
  List.IsChain.iff_of_mem_imp fun run next among later =>
    alternating_iff (uniform run among) (uniform next later)
      (ne_of_mem_of_not_mem among nonempty) (ne_of_mem_of_not_mem later nonempty)

/-- Every text has one cut into runs. -/
theorem isRuns_iff : IsRuns accept text cut ↔ cut = runsOf accept text := by
  rw [runsOf, eq_comm, List.splitBy_eq_iff]
  constructor
  · rintro ⟨whole, nonempty, uniform, alternating⟩
    exact ⟨whole, nonempty, fun run among => isChain_alike_iff.mpr (uniform run among),
      (isChain_alternating_iff nonempty uniform).mp alternating⟩
  · rintro ⟨whole, nonempty, alike, borders⟩
    have uniform : ∀ run ∈ cut, IsAccepted accept run ∨ IsRejected accept run := fun run among =>
      isChain_alike_iff.mp (alike run among)
    exact ⟨whole, nonempty, uniform, (isChain_alternating_iff nonempty uniform).mpr borders⟩

end Cutting

section Writing

theorem legalizeFrom_of_markless
    (markless : ∀ c ∈ text, accept c = none → ∀ inRun, fallback.mark inRun = []) :
    legalizeFrom accept fallback inRun text = (text.filterMap accept).flatten := by
  induction text generalizing inRun with
  | nil => rfl
  | cons c rest ih =>
    obtain ⟨here, later⟩ := List.forall_mem_cons.mp markless
    rw [legalizeFrom_cons, ih later, legalizeStep]
    cases kind : accept c with
    | none => rw [List.filterMap_cons_none kind, Option.getD_none, here kind, List.nil_append]
    | some expansion => rw [List.filterMap_cons_some kind, List.flatten_cons, Option.getD_some]

theorem legalizeFrom_of_isAccepted (accepted : IsAccepted accept run) :
    legalizeFrom accept fallback inRun run = (run.filterMap accept).flatten := by
  apply legalizeFrom_of_markless
  intro c among rejected
  exact absurd rejected (accepted.ne_none among)

theorem legalizeFrom_of_isRejected (rejected : IsRejected accept run) :
    legalizeFrom accept (.replace replacement) true run = [] := by
  induction run with
  | nil => rfl
  | cons c rest ih =>
    obtain ⟨first, others⟩ := List.forall_mem_cons.mp rejected
    rw [legalizeFrom_cons, legalizeStep, first]
    exact ih others

/-- A run is written as if the text started with it, provided that it is not part of a run that
goes on. -/
theorem legalizeFrom_run (uniform : IsAccepted accept run ∨ IsRejected accept run)
    (nonempty : run ≠ []) (fresh : inRun = true → IsAccepted accept run) :
    legalizeFrom accept (.replace replacement) inRun run = runText accept replacement run := by
  rw [runText]
  split
  · next accepted => exact legalizeFrom_of_isAccepted accepted
  · next other =>
    have rejected := uniform.resolve_left other
    have starts : inRun = false := Bool.eq_false_iff.mpr fun goesOn => other (fresh goesOn)
    obtain ⟨c, rest, rfl⟩ := List.exists_cons_of_ne_nil nonempty
    obtain ⟨first, others⟩ := List.forall_mem_cons.mp rejected
    rw [starts, legalizeFrom_cons, legalizeStep, first, Option.isNone_none,
      legalizeFrom_of_isRejected others]
    rfl

theorem not_isAccepted_of_runAfter (nonempty : run ≠ [])
    (goesOn : runAfter accept inRun run = true) : ¬ IsAccepted accept run := by
  obtain ⟨front, c, rfl⟩ := (List.eq_nil_or_concat' run).resolve_left nonempty
  rw [runAfter_concat, Option.isNone_iff_eq_none] at goesOn
  intro accepted
  exact accepted.ne_none List.mem_concat_self goesOn

/-- A text is written run by run. Only a rejected run goes on, and the one behind it is accepted, so
that none starts within another. -/
theorem legalizeFrom_of_isRuns (runs : IsRuns accept text cut)
    (fresh : inRun = true → ∀ run ∈ cut.head?, IsAccepted accept run) :
    legalizeFrom accept (.replace replacement) inRun text =
      cut.flatMap (runText accept replacement) := by
  obtain ⟨rfl, nonempty, uniform, alternating⟩ := runs
  induction cut generalizing inRun with
  | nil => rfl
  | cons run rest ih =>
    obtain ⟨first, others⟩ := List.forall_mem_cons.mp uniform
    obtain ⟨border, behind⟩ := List.isChain_cons.mp alternating
    obtain ⟨empty, emptyRest⟩ := not_or.mp (mt List.mem_cons.mpr nonempty)
    have filled : run ≠ [] := Ne.symm empty
    have freshRest : runAfter accept inRun run = true →
        ∀ next ∈ rest.head?, IsAccepted accept next := by
      intro goesOn next second
      have other := not_isAccepted_of_runAfter filled goesOn
      exact ((border next second).resolve_left fun turn => other turn.1).2
    rw [List.flatten_cons, legalizeFrom_append, List.flatMap_cons,
      legalizeFrom_run first filled (fun goesOn => fresh goesOn run rfl),
      ih freshRest emptyRest others behind]

end Writing

/-- A text is written run by run: of an accepted run all expansions, of any other one replacement.
There is just one cut into runs. Without a replacement only the expansions are written, so that a
text may be legalized in parts. -/
theorem legalizing_goes_run_by_run (accept : Char → Option (List Char)) (text : List Char) :
    (∀ cut, IsRuns accept text cut ↔ cut = runsOf accept text) ∧
      (∀ replacement, legalizeCharacters accept (.replace replacement) text =
        (runsOf accept text).flatMap (runText accept replacement)) ∧
      legalizeCharacters accept .drop text = (text.filterMap accept).flatten ∧
      ∀ front back, legalizeCharacters accept .drop (front ++ back) =
        legalizeCharacters accept .drop front ++ legalizeCharacters accept .drop back := by
  have dropped (part : List Char) :
      legalizeCharacters accept .drop part = (part.filterMap accept).flatten :=
    legalizeFrom_of_markless fun _ _ _ _ => rfl
  refine ⟨fun cut => isRuns_iff, fun replacement => ?_, dropped text, fun front back => ?_⟩
  · exact legalizeFrom_of_isRuns (isRuns_iff.mpr rfl) Bool.noConfusion
  · rw [dropped, dropped, dropped, List.filterMap_append, List.flatten_append]

/-- A soft hyphen leaves nothing, and still stands between two runs. -/
example :
    legalizeCharacters
        (fun c => if c = '\u00ad' then some [] else if c.isAlpha then some [c] else none)
        (.replace '_') ['a', '!', '?', '\u00ad', '!', 'b'] = ['a', '_', '_', 'b'] := by
  decide

end JsonBinding
