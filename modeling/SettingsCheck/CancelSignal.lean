namespace SettingsCheck

/-- A handle that may raise a signal, and the holders of this signal, who all see the same. -/
structure CancelSignal where
  raised : Bool := false
  /-- The handle is still there. -/
  held : Bool := true
  clones : Nat := 0
  deriving DecidableEq, Repr

namespace CancelSignal

inductive Step where
  | clone
  | cancel
  /-- The handle goes away. -/
  | drop
  deriving DecidableEq, Repr

def step (s : CancelSignal) : Step → CancelSignal
  | .clone => { s with clones := s.clones + 1 }
  | .cancel => { s with raised := s.raised || s.held }
  | .drop => { s with held := false }

def run (s : CancelSignal) (steps : List Step) : CancelSignal := steps.foldl step s

/-- A signal without a handle, which nothing can raise. -/
def never : CancelSignal where
  held := false

/-- What the handle says of the signal. -/
def handle? (s : CancelSignal) : Option Bool := if s.held then some s.raised else none

/-- What the holders say, the first of them and then its clones. -/
def views (s : CancelSignal) : List Bool := List.replicate (s.clones + 1) s.raised

theorem run_cons (s : CancelSignal) (first : Step) (rest : List Step) :
    s.run (first :: rest) = (s.step first).run rest := rfl

/-- A signal stays raised, and after the handle has gone it stays as it is. -/
theorem raised_run_of_settled {s : CancelSignal} (h : s.raised = true ∨ s.held = false)
    (steps : List Step) : (s.run steps).raised = s.raised := by
  induction steps generalizing s with
  | nil => rfl
  | cons first rest ih =>
    have hstep : (s.step first).raised = s.raised ∧
        ((s.step first).raised = true ∨ (s.step first).held = false) := by
      cases first <;> rcases h with h | h <;> simp [step, h]
    rw [run_cons, ih hstep.2, hstep.1]

/-- A signal is raised just if its handle was used while it was there. -/
theorem raised_run_iff {s : CancelSignal} (hraised : s.raised = false) (hheld : s.held = true)
    (steps : List Step) :
    (s.run steps).raised = true ↔
      ∃ before after, steps = before ++ .cancel :: after ∧ .drop ∉ before := by
  induction steps generalizing s with
  | nil => simp [run, hraised]
  | cons first rest ih =>
    rw [run_cons]
    cases first with
    | clone =>
      rw [@ih (s.step .clone) hraised hheld]
      constructor
      · rintro ⟨before, after, rfl, hdrop⟩
        exact ⟨.clone :: before, after, rfl, by simpa using hdrop⟩
      · rintro ⟨before, after, hsteps, hdrop⟩
        cases before with
        | nil => cases hsteps
        | cons _ before =>
          cases hsteps
          exact ⟨before, after, rfl, fun h => hdrop (List.mem_cons_of_mem _ h)⟩
    | cancel =>
      have hnow : (s.step .cancel).raised = true := by simp [step, hheld]
      rw [raised_run_of_settled (.inl hnow)]
      exact ⟨fun _ => ⟨[], rest, rfl, nofun⟩, fun _ => hnow⟩
    | drop =>
      rw [raised_run_of_settled (.inr rfl), step, hraised]
      refine ⟨nofun, ?_⟩
      rintro ⟨before, after, hsteps, hdrop⟩
      cases before with
      | nil => cases hsteps
      | cons _ before =>
        cases hsteps
        exact absurd List.mem_cons_self hdrop

end CancelSignal

end SettingsCheck
