import JsonBinding.Name.Legal
import Mathlib.Data.List.Induction
/-!
Rewriting text by the expansions of accepted characters. Each character that is written is the
replacement or comes from the expansion of an accepted character
(`eq_or_exists_of_mem_legalizeFrom`), and none of these is lost (`mem_legalizeFrom`). What is
written for the end of a text depends on what stands in front of it only by whether the last
character there was accepted (`legalizeFrom_append`), and each place in what is written belongs to
one character of the text (`exists_of_legalizeFrom_eq`).
-/
namespace JsonBinding

variable {accept : Char → Option (List Char)} {fallback : Fallback} {replacement : Char}
  {text : List Char}

/-- Whether a run of characters that are not accepted goes on behind a text. -/
def runAfter (accept : Char → Option (List Char)) (inRun : Bool) (text : List Char) : Bool :=
  text.foldl (fun _ c => (accept c).isNone) inRun

def legalizeStep (accept : Char → Option (List Char)) (fallback : Fallback) (inRun : Bool)
    (c : Char) : List Char :=
  (accept c).getD (fallback.mark inRun)

theorem legalizeFrom_cons (inRun : Bool) (c : Char) (rest : List Char) :
    legalizeFrom accept fallback inRun (c :: rest) =
      legalizeStep accept fallback inRun c ++
        legalizeFrom accept fallback (accept c).isNone rest := by
  rw [legalizeFrom, legalizeStep]
  cases accept c with
  | none => rfl
  | some expansion => rfl

theorem legalizeFrom_append (inRun : Bool) (front back : List Char) :
    legalizeFrom accept fallback inRun (front ++ back) =
      legalizeFrom accept fallback inRun front ++
        legalizeFrom accept fallback (runAfter accept inRun front) back := by
  induction front generalizing inRun with
  | nil => rfl
  | cons c front ih =>
    rw [List.cons_append, legalizeFrom_cons, ih, legalizeFrom_cons, List.append_assoc]
    rfl

theorem runAfter_concat (inRun : Bool) (front : List Char) (c : Char) :
    runAfter accept inRun (front ++ [c]) = (accept c).isNone := by
  rw [runAfter, List.foldl_append]
  rfl

theorem eq_or_exists_of_mem_legalizeFrom {inRun : Bool} {d : Char}
    (among : d ∈ legalizeFrom accept (.replace replacement) inRun text) :
    d = replacement ∨ ∃ c ∈ text, ∃ expansion, accept c = some expansion ∧ d ∈ expansion := by
  induction text generalizing inRun with
  | nil => cases among
  | cons c rest ih =>
    rw [legalizeFrom_cons] at among
    rcases List.mem_append.mp among with here | later
    · cases accepted : accept c with
      | none =>
        rw [legalizeStep, accepted] at here
        cases inRun with
        | true => cases here
        | false => exact .inl (List.mem_singleton.mp here)
      | some expansion =>
        rw [legalizeStep, accepted] at here
        exact .inr ⟨c, List.mem_cons_self, expansion, accepted, here⟩
    · rcases ih later with same | ⟨e, inRest, expansion, accepted, inside⟩
      · exact .inl same
      · exact .inr ⟨e, List.mem_cons_of_mem c inRest, expansion, accepted, inside⟩

theorem mem_legalizeFrom {c d : Char} {expansion : List Char} (among : c ∈ text)
    (accepted : accept c = some expansion) (inside : d ∈ expansion) (inRun : Bool) :
    d ∈ legalizeFrom accept fallback inRun text := by
  induction text generalizing inRun with
  | nil => cases among
  | cons e rest ih =>
    rw [legalizeFrom_cons]
    rcases List.mem_cons.mp among with rfl | later
    · apply List.mem_append_left
      rw [legalizeStep, accepted]
      exact inside
    · exact List.mem_append_right _ (ih later _)

theorem append_eq_append_cons {α : Type} {d : α} {first second before after : List α}
    (whole : first ++ second = before ++ d :: after) :
    (∃ w, first = before ++ d :: w ∧ after = w ++ second) ∨
      ∃ w, before = first ++ w ∧ second = w ++ d :: after := by
  rcases List.append_eq_append_iff.mp whole with ⟨w, cut, later⟩ | ⟨w, cut, later⟩
  · exact .inr ⟨w, cut, later⟩
  · cases w with
    | nil => exact .inr ⟨[], by rw [cut, List.append_nil, List.append_nil], later.symm⟩
    | cons e w =>
      obtain ⟨rfl, behind⟩ := List.cons.inj later
      exact .inl ⟨w, cut, behind⟩

/-- A place in what is written belongs to one character of the text. What stands before the place is
written for the text before that character, what stands behind it for the text behind. -/
theorem exists_of_legalizeFrom_eq {inRun : Bool} {d : Char} {before after : List Char}
    (written : legalizeFrom accept fallback inRun text = before ++ d :: after) :
    ∃ front c back u v, text = front ++ c :: back ∧
      legalizeStep accept fallback (runAfter accept inRun front) c = u ++ d :: v ∧
      before = legalizeFrom accept fallback inRun front ++ u ∧
      after = v ++ legalizeFrom accept fallback (accept c).isNone back := by
  induction text generalizing inRun before with
  | nil => simp [legalizeFrom] at written
  | cons e rest ih =>
    rw [legalizeFrom_cons] at written
    rcases append_eq_append_cons written with ⟨w, cut, behind⟩ | ⟨w, cut, later⟩
    · exact ⟨[], e, rest, before, w, rfl, cut, rfl, behind⟩
    · obtain ⟨front, c, back, u, v, whole, step, ahead, behind⟩ := ih later
      refine ⟨e :: front, c, back, u, v, by rw [whole, List.cons_append], step, ?_, behind⟩
      rw [cut, ahead, legalizeFrom_cons, List.append_assoc]

theorem exists_legalizeFrom_concat {front : List Char} {c : Char} (rejected : accept c = none) :
    ∃ before, legalizeFrom accept (.replace replacement) false (front ++ [c]) =
      before ++ [replacement] := by
  induction front using List.reverseRecOn generalizing c with
  | nil => exact ⟨[], by simp [legalizeFrom, rejected, Fallback.mark]⟩
  | append_singleton front e ih =>
    rw [legalizeFrom_append, runAfter_concat, legalizeFrom_cons, legalizeStep, rejected]
    cases other : accept e with
    | none =>
      obtain ⟨before, ends⟩ := ih other
      refine ⟨before, ?_⟩
      rw [ends]
      exact List.append_nil _
    | some expansion => exact ⟨_, rfl⟩

/-- Text of characters that are their own expansions stays as it is. -/
theorem legalizeFrom_eq_self (own : ∀ c ∈ text, accept c = some [c]) (inRun : Bool) :
    legalizeFrom accept fallback inRun text = text := by
  induction text generalizing inRun with
  | nil => rfl
  | cons c rest ih =>
    obtain ⟨first, others⟩ := List.forall_mem_cons.mp own
    rw [legalizeFrom_cons, legalizeStep, first, ih others]
    rfl

end JsonBinding
