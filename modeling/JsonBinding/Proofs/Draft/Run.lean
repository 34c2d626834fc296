import JsonBinding.Proofs.Draft.Step
/-!
Runs. Requests are performed one after another, whether or not the ones before failed, and each
leaves an attempt: the request with its outcome. A run may be cut in two anywhere
(`attempts_append`, `after_append`), and what holds at its start and is kept by every step holds at
its end, be it of one run (`run_induction`) or of two (`run_rel`).
-/
namespace JsonBinding

abbrev Attempt := Request × Except Fault Unit

def AllSucceed (history : List Attempt) : Prop :=
  ∀ attempt ∈ history, attempt.2 = .ok ()

theorem allSucceed_nil : AllSucceed [] :=
  fun _ among => absurd among List.not_mem_nil

theorem allSucceed_cons {attempt : Attempt} {rest : List Attempt} :
    AllSucceed (attempt :: rest) ↔ attempt.2 = .ok () ∧ AllSucceed rest :=
  List.forall_mem_cons

theorem allSucceed_append {past rest : List Attempt} :
    AllSucceed (past ++ rest) ↔ AllSucceed past ∧ AllSucceed rest :=
  List.forall_mem_append

namespace Plan

/-- The attempts of a run. -/
def attempts (plan : Plan) (requests : List Request) (draft : Draft) : List Attempt :=
  requests.zip (plan.performAll requests draft).1

/-- The draft that a run leaves. -/
def after (plan : Plan) (requests : List Request) (draft : Draft) : Draft :=
  (plan.performAll requests draft).2

def history (plan : Plan) (requests : List Request) : List Attempt :=
  plan.attempts requests .empty

/-- The draft that a run leaves that starts with nothing. -/
def draftOf (plan : Plan) (requests : List Request) : Draft :=
  plan.after requests .empty

theorem attempts_cons (plan : Plan) (request : Request) (rest : List Request) (draft : Draft) :
    plan.attempts (request :: rest) draft =
      (request, ((plan.perform request).on draft).1) ::
        plan.attempts rest ((plan.perform request).on draft).2 := rfl

theorem after_cons (plan : Plan) (request : Request) (rest : List Request) (draft : Draft) :
    plan.after (request :: rest) draft =
      plan.after rest ((plan.perform request).on draft).2 := rfl

theorem map_fst_attempts (plan : Plan) (requests : List Request) (draft : Draft) :
    (plan.attempts requests draft).map Prod.fst = requests := by
  induction requests generalizing draft with
  | nil => rfl
  | cons request rest ih =>
    rw [attempts_cons, List.map_cons, ih]

theorem length_attempts (plan : Plan) (requests : List Request) (draft : Draft) :
    (plan.attempts requests draft).length = requests.length := by
  have lengths := congrArg List.length (plan.map_fst_attempts requests draft)
  rwa [List.length_map] at lengths

theorem attempts_append (plan : Plan) (earlier later : List Request) (draft : Draft) :
    plan.attempts (earlier ++ later) draft =
      plan.attempts earlier draft ++ plan.attempts later (plan.after earlier draft) := by
  induction earlier generalizing draft with
  | nil => rfl
  | cons request rest ih =>
    rw [List.cons_append, attempts_cons, attempts_cons, after_cons, ih, List.cons_append]

theorem after_append (plan : Plan) (earlier later : List Request) (draft : Draft) :
    plan.after (earlier ++ later) draft = plan.after later (plan.after earlier draft) := by
  induction earlier generalizing draft with
  | nil => rfl
  | cons request rest ih =>
    rw [List.cons_append, after_cons, after_cons, ih]

theorem exists_cut_of_mem_attempts {plan : Plan} {requests : List Request} {draft : Draft}
    {attempt : Attempt} (among : attempt ∈ plan.attempts requests draft) :
    ∃ earlier later, requests = earlier ++ attempt.1 :: later ∧
      plan.Step (plan.after earlier draft) attempt.1 attempt.2
        (plan.after (earlier ++ [attempt.1]) draft) := by
  induction requests generalizing draft with
  | nil => cases among
  | cons request rest ih =>
    rw [attempts_cons] at among
    rcases List.mem_cons.mp among with rfl | among
    · exact ⟨[], rest, rfl, plan.step_perform draft request⟩
    · obtain ⟨earlier, later, rfl, step⟩ := ih among
      exact ⟨request :: earlier, later, rfl, step⟩

/-- What every step keeps holds at the end of a run if it holds at the start. The attempts of the
past are at hand, so that the draft can be compared with them. -/
theorem run_induction {plan : Plan} {P : List Attempt → Draft → Prop}
    (step : ∀ past draft request outcome next, P past draft →
      plan.Step draft request outcome next → P (past ++ [(request, outcome)]) next)
    (requests : List Request) {past : List Attempt} {draft : Draft} (start : P past draft) :
    P (past ++ plan.attempts requests draft) (plan.after requests draft) := by
  induction requests generalizing past draft with
  | nil =>
    have same : past ++ plan.attempts [] draft = past := List.append_nil past
    rw [same]
    exact start
  | cons request rest ih =>
    have first := step past draft request _ _ start (plan.step_perform draft request)
    have end' := ih first
    rw [List.append_assoc] at end'
    exact end'

/-- Two runs go side by side if their steps do: the attempts are the same, and drafts that are
related at the start are related at the end. -/
theorem run_rel {p q : Plan} {R : Draft → Draft → Prop} (requests : List Request)
    (step : ∀ request ∈ requests, ∀ draft draft' outcome next, R draft draft' →
      p.Step draft request outcome next →
      ∃ next', q.Step draft' request outcome next' ∧ R next next')
    {draft draft' : Draft} (start : R draft draft') :
    q.attempts requests draft' = p.attempts requests draft ∧
      R (p.after requests draft) (q.after requests draft') := by
  induction requests generalizing draft draft' with
  | nil => exact ⟨rfl, start⟩
  | cons request rest ih =>
    obtain ⟨next', performed, related⟩ := step request List.mem_cons_self draft draft' _ _ start
      (p.step_perform draft request)
    obtain ⟨attempts, end'⟩ := ih (fun later among => step later (List.mem_cons_of_mem _ among))
      related
    rw [attempts_cons, attempts_cons, after_cons, after_cons, performed.on_perform]
    exact ⟨congrArg _ attempts, end'⟩

end Plan

end JsonBinding
