import JsonBinding.Proofs.Name.Fragment
/-!
Where underscores meet. A run of characters that are not legal becomes one `_`, but a `_` that is
the normal form of a legal character is written beside it. Two in a row stand in a legalized word
iff two neighbours of the word leave `_`, one of them as its normal form, and neither is trimmed
away (`underscores_meet_iff`).
-/
namespace JsonBinding

open Character

/-- Whether nothing but `_` can come of a character. -/
def LeavesUnderscore (c : Char) : Prop :=
  legalForm? c = none ∨ legalForm? c = some ['_']

/-- Two neighbours of a text that both leave `_`, with other characters on either side. Two that are
not legal share one `_`. -/
structure Meeting (text front : List Char) (x y : Char) (back : List Char) : Prop where
  whole : text = front ++ x :: y :: back
  first : LeavesUnderscore x
  second : LeavesUnderscore y
  legal : legalForm? x = some ['_'] ∨ legalForm? y = some ['_']
  before : ∃ c ∈ front, ¬ LeavesUnderscore c
  behind : ∃ c ∈ back, ¬ LeavesUnderscore c

theorem legalForm?_eq_underscore {c : Char} {form : List Char} (legal : legalForm? c = some form)
    (among : '_' ∈ form) : form = ['_'] := by
  obtain ⟨rfl, -, -⟩ := legalForm?_eq_some_iff.mp legal
  exact compatibilityForm_eq_of_mem among

theorem not_leavesUnderscore_iff {c : Char} :
    ¬ LeavesUnderscore c ↔ ∃ form, legalForm? c = some form ∧ ∃ d ∈ form, d ≠ '_' := by
  constructor
  · intro other
    cases legal : legalForm? c with
    | none => exact absurd (.inl legal) other
    | some form =>
      obtain ⟨-, nonempty, -⟩ := legalForm?_eq_some_iff.mp legal
      obtain ⟨d, rest, rfl⟩ := List.exists_cons_of_ne_nil nonempty
      refine ⟨_, rfl, d, List.mem_cons_self, ?_⟩
      rintro rfl
      exact other (.inr (legal.trans (congrArg some
        (legalForm?_eq_underscore legal List.mem_cons_self))))
  · rintro ⟨form, legal, d, among, other⟩ (rejected | single)
    · rw [legal] at rejected
      cases rejected
    · rw [legal] at single
      cases single
      exact other (List.mem_singleton.mp among)

section Written

variable {inRun : Bool} {text : List Char}

theorem exists_mem_legalizeFrom_iff :
    (∃ d ∈ legalizeFrom legalForm? (.replace '_') inRun text, d ≠ '_') ↔
      ∃ c ∈ text, ¬ LeavesUnderscore c := by
  constructor
  · rintro ⟨d, among, other⟩
    obtain ⟨c, inText, form, legal, inside⟩ :=
      (eq_or_exists_of_mem_legalizeFrom among).resolve_left other
    exact ⟨c, inText, not_leavesUnderscore_iff.mpr ⟨form, legal, d, inside, other⟩⟩
  · rintro ⟨c, inText, kept⟩
    obtain ⟨form, legal, d, inside, other⟩ := not_leavesUnderscore_iff.mp kept
    exact ⟨d, mem_legalizeFrom inText legal inside inRun, other⟩

theorem leavesUnderscore_of_legalizeStep {c : Char} {u v : List Char}
    (step : legalizeStep legalForm? (.replace '_') inRun c = u ++ '_' :: v) :
    u = [] ∧ v = [] ∧ LeavesUnderscore c ∧ (inRun = true → legalForm? c = some ['_']) := by
  cases legal : legalForm? c with
  | none =>
    rw [legalizeStep, legal] at step
    cases inRun with
    | true => simp [Fallback.mark] at step
    | false =>
      obtain ⟨rfl, rfl⟩ : u = [] ∧ v = [] := by
        simpa [Fallback.mark, List.singleton_eq_append_iff] using step
      exact ⟨rfl, rfl, .inl legal, Bool.noConfusion⟩
  | some form =>
    rw [legalizeStep, legal, Option.getD_some] at step
    have single : form = ['_'] := by
      apply legalForm?_eq_underscore legal
      rw [step]
      exact List.mem_append_right u List.mem_cons_self
    subst single
    obtain ⟨rfl, rfl⟩ : u = [] ∧ v = [] := by
      simpa [List.singleton_eq_append_iff] using step
    exact ⟨rfl, rfl, .inr legal, fun _ => rfl⟩

theorem rejected_of_legalizeFrom_eq_nil
    (nothing : legalizeFrom legalForm? (.replace '_') inRun text = []) :
    ∀ c ∈ text, legalForm? c = none := by
  intro c among
  cases legal : legalForm? c with
  | none => rfl
  | some form =>
    obtain ⟨-, nonempty, -⟩ := legalForm?_eq_some_iff.mp legal
    obtain ⟨d, inside⟩ := List.exists_mem_of_ne_nil form nonempty
    have written : d ∈ legalizeFrom legalForm? (.replace '_') inRun text :=
      mem_legalizeFrom among legal inside inRun
    rw [nothing] at written
    cases written

end Written

/-- Two underscores are written for two neighbours: between the characters that they are written for
stand only such as go on with the run of the first. -/
theorem exists_meeting {text before after : List Char}
    (written : legalizeFrom legalForm? (.replace '_') false text = before ++ '_' :: '_' :: after)
    (ahead : ∃ c ∈ before, c ≠ '_') (behind : ∃ c ∈ after, c ≠ '_') :
    ∃ front x y back, Meeting text front x y back := by
  obtain ⟨front, x, rest, u, v, rfl, first, atFront, atRest⟩ := exists_of_legalizeFrom_eq written
  obtain ⟨rfl, rfl, leaves, -⟩ := leavesUnderscore_of_legalizeStep first
  have later : legalizeFrom legalForm? (.replace '_') (legalForm? x).isNone rest =
      [] ++ '_' :: after := atRest.symm
  obtain ⟨run, y, back, u, v, rfl, second, atRun, atBack⟩ := exists_of_legalizeFrom_eq later
  obtain ⟨rfl, rfl, leaves', inRun⟩ := leavesUnderscore_of_legalizeStep second
  rw [List.append_nil] at atFront atRun
  rw [List.nil_append] at atBack
  rw [atFront, exists_mem_legalizeFrom_iff] at ahead
  rw [atBack, exists_mem_legalizeFrom_iff] at behind
  rcases List.eq_nil_or_concat' run with rfl | ⟨run, z, rfl⟩
  · have either : legalForm? x = some ['_'] ∨ legalForm? y = some ['_'] := by
      rcases leaves with none | legal
      · right
        apply inRun
        rw [none]
        rfl
      · exact .inl legal
    exact ⟨front, x, y, back, rfl, leaves, leaves', either, ahead, behind⟩
  · have none : legalForm? z = none :=
      rejected_of_legalizeFrom_eq_nil atRun.symm z (List.mem_append_right run List.mem_cons_self)
    have legal : legalForm? y = some ['_'] := by
      apply inRun
      rw [runAfter_concat, none]
      rfl
    obtain ⟨c, inFront, kept⟩ := ahead
    refine ⟨front ++ x :: run, z, y, back, by simp, .inl none, leaves', .inr legal, ?_, behind⟩
    exact ⟨c, List.mem_append_left _ inFront, kept⟩

theorem exists_legalizeFrom_concat_of_leaves {x : Char} (leaves : LeavesUnderscore x)
    (front : List Char) :
    ∃ before, legalizeFrom legalForm? (.replace '_') false (front ++ [x]) = before ++ ['_'] := by
  rcases leaves with rejected | legal
  · exact exists_legalizeFrom_concat rejected
  · rw [legalizeFrom_append, legalizeFrom_cons, legalizeStep, legal]
    exact ⟨_, rfl⟩

theorem Meeting.written {text front back : List Char} {x y : Char}
    (meeting : Meeting text front x y back) :
    ∃ before after,
      legalizeFrom legalForm? (.replace '_') false text = before ++ '_' :: '_' :: after ∧
        (∃ c ∈ before, c ≠ '_') ∧ ∃ c ∈ after, c ≠ '_' := by
  obtain ⟨before, ends⟩ := exists_legalizeFrom_concat_of_leaves meeting.first front
  have step : legalizeStep legalForm? (.replace '_') (legalForm? x).isNone y = ['_'] := by
    rcases meeting.second with rejected | legal
    · rcases meeting.legal with legal | legal
      · rw [legalizeStep, rejected, legal]
        rfl
      · rw [legal] at rejected
        cases rejected
    · rw [legalizeStep, legal]
      rfl
  refine ⟨before, legalizeFrom legalForm? (.replace '_') (legalForm? y).isNone back, ?_, ?_, ?_⟩
  · rw [meeting.whole, List.append_cons, legalizeFrom_append, ends, runAfter_concat,
      legalizeFrom_cons, step, List.append_assoc]
    rfl
  · obtain ⟨c, inFront, kept⟩ := meeting.before
    obtain ⟨d, among, other⟩ : ∃ d ∈ before ++ ['_'], d ≠ '_' := by
      rw [← ends, exists_mem_legalizeFrom_iff]
      exact ⟨c, List.mem_append_left [x] inFront, kept⟩
    exact ⟨d, (List.mem_append.mp among).resolve_right (by simpa using other), other⟩
  · exact exists_mem_legalizeFrom_iff.mpr meeting.behind

/-- Two underscores stand in a row in a legalized word just where two neighbours of the word meet
that both leave `_` and do not share it. So runs of characters that are not legal are collapsed, but
a `_` from a legal character neither joins such a run nor another `_`. -/
theorem underscores_meet_iff (word : String) :
    ['_', '_'] <:+: (legalizeWord word).toList ↔
      ∃ front x y back, Meeting word.toList front x y back := by
  rw [legalizeWord, String.toList_ofList, legalizeChars, Text.infix_trim_iff (by simp) (by simp)]
  simp only [decide_eq_false_iff_not]
  constructor
  · rintro ⟨before, after, whole, ahead, behind⟩
    rw [List.append_assoc] at whole
    exact exists_meeting whole ahead behind
  · rintro ⟨front, x, y, back, meeting⟩
    obtain ⟨before, after, whole, ahead, behind⟩ := meeting.written
    refine ⟨before, after, ?_, ahead, behind⟩
    rw [legalizeCharacters, whole, List.append_assoc]
    rfl

/-- A full-width low line is legal and becomes `_`; the currency sign behind it is not and becomes
another. No word ends between them, so that the name has both. -/
theorem lowLine_underscores :
    legalizeWord "a＿€b" = "a__b" ∧ ['_', '_'] <:+: (legalizeWord "a＿€b").toList ∧
      makeName "a＿€b" .property = "a__b" := by
  have word : legalizeWord "a＿€b" = "a__b" := by decide +kernel
  refine ⟨word, ?_, by decide +kernel⟩
  rw [word]
  decide

end JsonBinding
