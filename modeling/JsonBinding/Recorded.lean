import JsonBinding.Fault
/-!
Computations that record what they use and may stop at a fault. What was recorded before the fault
stays recorded, so a failed computation still tells how far it came. The main statements say what
the record and the outcome of two computations in a row are (`record_bind`, `outcome_bind`).
-/
namespace JsonBinding

/-- A record, in order, together with a value or the fault that ended the computation. -/
structure Recorded (ω α : Type) where
  record : List ω
  outcome : Except Fault α

namespace Recorded

variable {ω α β : Type}

def note (entry : ω) : Recorded ω Unit :=
  ⟨[entry], .ok ()⟩

def fail (fault : Fault) : Recorded ω α :=
  ⟨[], .error fault⟩

instance : Monad (Recorded ω) where
  pure value := ⟨[], .ok value⟩
  bind x f :=
    match x.outcome with
    | .ok value => ⟨x.record ++ (f value).record, (f value).outcome⟩
    | .error fault => ⟨x.record, .error fault⟩

@[simp] theorem record_pure (value : α) : (pure value : Recorded ω α).record = [] := rfl

@[simp] theorem outcome_pure (value : α) : (pure value : Recorded ω α).outcome = .ok value := rfl

/-- The second computation adds to the record iff the first one succeeds. -/
theorem record_bind (x : Recorded ω α) (f : α → Recorded ω β) :
    (x >>= f).record =
      match x.outcome with
      | .ok value => x.record ++ (f value).record
      | .error _ => x.record := by
  obtain ⟨record, outcome⟩ := x
  cases outcome <;> rfl

theorem outcome_bind (x : Recorded ω α) (f : α → Recorded ω β) :
    (x >>= f).outcome =
      match x.outcome with
      | .ok value => (f value).outcome
      | .error fault => .error fault := by
  obtain ⟨record, outcome⟩ := x
  cases outcome <;> rfl

instance : LawfulMonad (Recorded ω) := LawfulMonad.mk' (Recorded ω)
  (by
    intro α x
    obtain ⟨record, outcome⟩ := x
    cases outcome with
    | error fault => rfl
    | ok value => simp [Functor.map])
  (by
    intro α β value f
    simp [bind, pure])
  (by
    intro α β γ x f g
    obtain ⟨record, outcome⟩ := x
    cases outcome with
    | error fault => rfl
    | ok value =>
      simp only [bind]
      split <;> simp)

end Recorded

end JsonBinding
