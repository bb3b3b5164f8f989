import SettingsCheck.BatchRun
import SettingsCheck.Proofs.Canonical
import SettingsCheck.Proofs.Lookup

namespace SettingsCheck

/-- The report that a job gets for itself, given whether the cancellation came before its checks
were dispatched, and how the run of its checks moves. -/
def Job.alone (job : Job) (before : Bool) (ms : List CheckRun.Move) : Report :=
  match job.document with
  | .error reason => .fatal reason
  | .ok document => (job.validator.check job.options document before ms).getD .incomplete

namespace CheckRun

/-- Checks that were never dispatched have no moves. -/
theorem outcomeOf_of_idle {labels : List CheckLabel} {before : Bool}
    (h : (labels.isEmpty || before) = true) (ms rest : List Move) :
    outcomeOf labels before ms = outcomeOf labels before rest := by
  unfold outcomeOf
  cases labels with
  | nil => rfl
  | cons label labels =>
    have hb : before = true := by simpa using h
    simp [hb]

/-- What comes after the end of a run has no part in its outcome. -/
theorem outcomeOf_append_of_finished {labels : List CheckLabel} {ms : List Move}
    (hf : ((State.start labels).moves ms).finished = true) (before : Bool) (rest : List Move) :
    outcomeOf labels before (ms ++ rest) = outcomeOf labels before ms := by
  simp [outcomeOf, State.moves_append, State.moves_of_finished hf]

theorem outcomeOf_of_dispatched {labels : List CheckLabel} (hl : labels.isEmpty = false)
    (ms : List Move) : outcomeOf labels false ms = ((State.start labels).moves ms).outcome := by
  simp [outcomeOf, hl]

end CheckRun

namespace BatchRun

/-- What one document sees of the moves of a batch. -/
structure View where
  raised : Bool := false
  /-- Whether the cancellation had been raised when the task of the document began. -/
  begun : Option Bool := none
  /-- The moves of its own checks. -/
  own : List CheckRun.Move := []

namespace View

def next (i : Nat) (w : View) : Move → View
  | .raises => { w with raised := true }
  | .starts j => if j = i ∧ w.begun = none then { w with begun := some w.raised } else w
  | .checks j m =>
    if j = i ∧ w.begun ≠ none ∧ (m = .cancels → w.raised = true) then
      { w with own := w.own ++ [m] }
    else w
  | .joins _ => w

variable {i j : Nat} {w : View}

theorem next_starts_of_ne (h : j ≠ i) : w.next i (.starts j) = w := by
  simp [next, h]

theorem next_starts_of_begun (h : w.begun ≠ none) : w.next i (.starts j) = w := by
  simp [next, h]

theorem next_starts_of_ready (h : w.begun = none) :
    w.next i (.starts i) = { w with begun := some w.raised } := by
  simp [next, h]

theorem next_checks_of_begun (hb : w.begun ≠ none) {m : CheckRun.Move}
    (hm : m = .cancels → w.raised = true) :
    w.next i (.checks i m) = { w with own := w.own ++ [m] } :=
  if_pos ⟨rfl, hb, hm⟩

theorem next_checks_of_not {m : CheckRun.Move}
    (h : ¬(w.begun ≠ none ∧ (m = .cancels → w.raised = true))) : w.next i (.checks j m) = w :=
  if_neg fun hall => h hall.2

theorem next_checks_of_ne (h : j ≠ i) (m : CheckRun.Move) : w.next i (.checks j m) = w := by
  simp [next, h]

end View

/-- What the document with index `i` sees. -/
def view (i : Nat) (ms : List Move) : View := ms.foldl (View.next i) {}

theorem view_append (i : Nat) (ms : List Move) (m : Move) :
    view i (ms ++ [m]) = (view i ms).next i m := by
  simp [view]

/-- The task of a document has returned, with what the document gives alone. Moves of its checks
that come later have no part in it. -/
def Returned (job : Job) (w : View) (report : Option Report) : Prop :=
  ∃ document before, job.document = .ok document ∧ w.begun = some before ∧
    ∀ rest, job.validator.check job.options document before (w.own ++ rest) = report

/-- How the task and the slot of a job stand after what its document has seen. -/
inductive Stands (job : Job) (w : View) : Option Task → Option Report → Prop
  | unread {reason : String} :
    job.document = .error reason → Stands job w none (some (.fatal reason))
  | ready {document : Value} :
    job.document = .ok document → w.begun = none → w.own = [] →
    Stands job w (some (.ready job.validator job.options document)) none
  | checking {document : Value} {s : StructuralOutcome} {run : CheckRun.State} :
    job.document = .ok document → w.begun = some false →
    s = job.validator.checkStructure job.options document → s.crashed = false →
    (s.labels job.options).isEmpty = false →
    run = (CheckRun.State.start (s.labels job.options)).moves w.own → run.finished = false →
    Stands job w (some (.checking job.options s run)) none
  | ended {report : Option Report} :
    Returned job w report → Stands job w (some (.ended report)) none
  | joined {report : Option Report} :
    Returned job w report → Stands job w none report

section Steps

variable {job : Job} {w : View} {task : Option Task} {slot : Option Report}

theorem Returned.own {report : Option Report} (h : Returned job w report) (m : CheckRun.Move) :
    Returned job { w with own := w.own ++ [m] } report := by
  obtain ⟨document, before, hd, hb, hreport⟩ := h
  refine ⟨document, before, hd, hb, fun rest => ?_⟩
  rw [← hreport (m :: rest)]
  simp

theorem Returned.begun {report : Option Report} (h : Returned job w report) : w.begun ≠ none := by
  obtain ⟨_, _, _, hb, _⟩ := h
  simp [hb]

theorem Stands.raises (h : Stands job w task slot) :
    Stands job { w with raised := true } task slot := by
  cases h with
  | unread hd => exact .unread hd
  | ready hd hb ho => exact .ready hd hb ho
  | checking hd hb hs hc hl hr hf => exact .checking hd hb hs hc hl hr hf
  | ended hr => exact .ended hr
  | joined hr => exact .joined hr

theorem Stands.starts (h : Stands job w task slot) (i : Nat) :
    Stands job (w.next i (.starts i)) (task.map (Task.begin w.raised)) slot := by
  cases h with
  | unread hd => exact .unread hd
  | @ready document hd hb ho =>
    rw [View.next_starts_of_ready hb, Option.map_some, Task.begin]
    generalize hs : job.validator.checkStructure job.options document = s
    cases hc : s.crashed with
    | true =>
      exact .ended ⟨document, _, hd, rfl, fun rest => by simp [DocumentValidator.check, hs, hc]⟩
    | false =>
      by_cases hidle : ((s.labels job.options).isEmpty || w.raised) = true
      · simp only [hidle, if_true, Bool.false_eq_true, if_false]
        refine .ended ⟨document, _, hd, rfl, fun rest => ?_⟩
        simp [DocumentValidator.check, hs, hc, CheckRun.outcomeOf_of_idle hidle (w.own ++ rest) []]
      · simp only [hidle, Bool.false_eq_true, if_false]
        obtain ⟨hl, hraised⟩ : (s.labels job.options).isEmpty = false ∧ w.raised = false := by
          simpa using hidle
        refine .checking hd (by simp [hraised]) hs.symm hc hl ?_ rfl
        simp [ho, CheckRun.State.moves]
  | checking hd hb hs hc hl hr hf =>
    rw [View.next_starts_of_begun (by simp [hb])]
    exact .checking hd hb hs hc hl hr hf
  | ended hr =>
    rw [View.next_starts_of_begun hr.begun]
    exact .ended hr
  | joined hr =>
    rw [View.next_starts_of_begun hr.begun]
    exact .joined hr

theorem Returned.checks {report : Option Report} (h : Returned job w report) (i : Nat)
    (m : CheckRun.Move) : Returned job (w.next i (.checks i m)) report := by
  by_cases hm : m = .cancels → w.raised = true
  · rw [View.next_checks_of_begun h.begun hm]
    exact h.own m
  · rw [View.next_checks_of_not fun hall => hm hall.2]
    exact h

theorem Stands.checks (h : Stands job w task slot) (i : Nat) (m : CheckRun.Move) :
    Stands job (w.next i (.checks i m)) (task.map (Task.check w.raised m)) slot := by
  cases h with
  | unread hd => exact .unread hd
  | ready hd hb ho =>
    rw [View.next_checks_of_not fun hall => hall.1 hb]
    exact .ready hd hb ho
  | @checking document s run hd hb hs hc hl hr hf =>
    rw [Option.map_some, Task.check]
    by_cases hearly : m = .cancels ∧ w.raised = false
    · rw [if_pos hearly, View.next_checks_of_not fun hall => by simpa [hearly] using hall.2]
      exact .checking hd hb hs hc hl hr hf
    · have hmoved : run.move m =
          (CheckRun.State.start (s.labels job.options)).moves (w.own ++ [m]) := by
        rw [CheckRun.State.moves_append, ← hr]
        rfl
      rw [if_neg hearly, View.next_checks_of_begun (by simp [hb]) (by simpa using hearly)]
      cases hend : (run.move m).finished with
      | true =>
        refine .ended ⟨document, false, hd, hb, fun rest => ?_⟩
        rw [hmoved] at hend
        have hrun := (CheckRun.outcomeOf_append_of_finished hend false rest).trans
          (CheckRun.outcomeOf_of_dispatched hl _)
        simp only [DocumentValidator.check, ← hs, hc, Bool.false_eq_true, if_false, hrun, hmoved]
      | false => exact .checking hd hb hs hc hl hmoved hend
  | ended hr => exact .ended (hr.checks i m)
  | joined hr => exact .joined (hr.checks i m)

theorem Stands.joins {report : Option Report} (h : Stands job w (some (.ended report)) slot) :
    slot = none ∧ Stands job w none report := by
  cases h with
  | ended hr => exact ⟨rfl, .joined hr⟩

end Steps

theorem lookup_start (jobs : List Job) (i : Nat) :
    (State.start jobs).tasks.lookup i = jobs[i]?.bind Task.ofJob? := by
  have hlookup := lookup_filterMap_zipIdx Task.ofJob? jobs 0 i
  rwa [if_pos (Nat.zero_le i)] at hlookup

/-- Every job has its slot, and its task and slot stand as they should. -/
structure Seated (jobs : List Job) (ms : List Move) (s : State) : Prop where
  slots : s.slots.length = jobs.length
  raised : ∀ i, (view i ms).raised = s.raised
  stands : ∀ i job, jobs[i]? = some job → ∃ slot, s.slots[i]? = some slot ∧
    Stands job (view i ms) (s.tasks.lookup i) slot

namespace Seated

variable {jobs : List Job} {ms : List Move} {s : State}

theorem start (jobs : List Job) : Seated jobs [] (State.start jobs) where
  slots := by simp [State.start]
  raised _ := rfl
  stands i job hi := by
    rw [lookup_start, hi, Option.bind_some, Task.ofJob?]
    cases hd : job.document with
    | error reason => exact ⟨some (.fatal reason), by simp [State.start, hi, hd], .unread hd⟩
    | ok document => exact ⟨none, by simp [State.start, hi, hd], .ready hd rfl rfl⟩

/-- A move of one task leaves the others as they stand. -/
theorem update (h : Seated jobs ms s) {m : Move} (i : Nat) {f : Task → Task}
    (hother : ∀ j, j ≠ i → ∀ w, View.next j w m = w)
    (hraised : ∀ w, (View.next i w m).raised = w.raised)
    (hown : ∀ job w task slot, w.raised = s.raised → Stands job w task slot →
      Stands job (View.next i w m) (task.map f) slot) :
    Seated jobs (ms ++ [m]) (s.update i f) where
  slots := h.slots
  raised j := by
    rw [view_append]
    by_cases hj : j = i
    · subst hj
      exact (hraised _).trans (h.raised j)
    · rw [hother j hj]
      exact h.raised j
  stands j job hjob := by
    obtain ⟨slot, hslot, hstands⟩ := h.stands j job hjob
    refine ⟨slot, hslot, ?_⟩
    rw [view_append, State.update, lookup_update]
    by_cases hj : j = i
    · subst hj
      rw [if_pos rfl]
      exact hown job _ _ slot (h.raised j) hstands
    · rw [if_neg hj, hother j hj]
      exact hstands

theorem joins (h : Seated jobs ms s) (i : Nat) : Seated jobs (ms ++ [.joins i]) (s.join i) := by
  have hview : ∀ j, view j (ms ++ [.joins i]) = view j ms := fun j => view_append j ms _
  unfold State.join
  split
  next report hi =>
    refine ⟨?_, fun j => (congrArg View.raised (hview j)).trans (h.raised j), fun j job hjob => ?_⟩
    · cases report <;> simp [h.slots]
    · obtain ⟨slot, hslot, hstands⟩ := h.stands j job hjob
      rw [hview, lookup_filter_ne]
      by_cases hj : j = i
      · subst hj
        rw [hi] at hstands
        obtain ⟨rfl, hjoined⟩ := hstands.joins
        refine ⟨report, ?_, by simpa using hjoined⟩
        cases report with
        | none => exact hslot
        | some report =>
          obtain ⟨hlt, _⟩ := List.getElem?_eq_some_iff.mp hslot
          simp [hlt]
      · refine ⟨slot, ?_, by simpa [hj] using hstands⟩
        cases report with
        | none => exact hslot
        | some report => rw [List.getElem?_set_ne (Ne.symm hj), hslot]
  next => exact ⟨h.slots, fun j => (congrArg View.raised (hview j)).trans (h.raised j),
      fun j job hjob => hview j ▸ h.stands j job hjob⟩

/-- One step of the batch. -/
theorem move (h : Seated jobs ms s) (m : Move) : Seated jobs (ms ++ [m]) (s.move m) := by
  cases m with
  | raises =>
    refine ⟨h.slots, fun i => by rw [view_append]; rfl, fun i job hi => ?_⟩
    obtain ⟨slot, hslot, hstands⟩ := h.stands i job hi
    rw [view_append]
    exact ⟨slot, hslot, hstands.raises⟩
  | starts i =>
    refine h.update i (fun j hj w => View.next_starts_of_ne (Ne.symm hj)) (fun w => ?_)
      fun job w task slot hw hstands => hw ▸ hstands.starts i
    simp only [View.next]
    split <;> rfl
  | checks i m =>
    refine h.update i (fun j hj w => View.next_checks_of_ne (Ne.symm hj) m) (fun w => ?_)
      fun job w task slot hw hstands => hw ▸ hstands.checks i m
    simp only [View.next]
    split <;> rfl
  | joins i => exact h.joins i

theorem moves (jobs : List Job) (ms : List Move) :
    Seated jobs ms ((State.start jobs).moves ms) := by
  induction ms using List.reverseRecOn with
  | nil => exact .start jobs
  | append_singleton ms m ih =>
    rw [State.moves_append]
    exact ih.move m

end Seated

/-- Whether the cancellation had been raised when the document's checks were to be dispatched. -/
def View.before (w : View) : Bool := w.begun.getD false

theorem Returned.alone {job : Job} {w : View} {report : Option Report}
    (h : Returned job w report) : report.getD .incomplete = job.alone w.before w.own := by
  obtain ⟨document, before, hd, hb, hreport⟩ := h
  have hown := hreport []
  rw [List.append_nil] at hown
  simp only [Job.alone, hd, View.before, hb, Option.getD_some, hown]

/-- A job without a task has its own report. -/
theorem Stands.alone {job : Job} {w : View} {slot : Option Report} (h : Stands job w none slot) :
    slot.getD .incomplete = job.alone w.before w.own := by
  cases h with
  | unread hd => simp [Job.alone, hd]
  | joined hr => exact hr.alone

theorem Seated.documents {jobs : List Job} {ms : List Move} {s : State} (h : Seated jobs ms s)
    (hall : s.tasks = []) :
    (s.report jobs).documents = jobs.zipIdx.map fun (job, i) =>
      ⟨job.name, job.alone (view i ms).before (view i ms).own⟩ := by
  apply List.ext_getElem?
  intro i
  simp only [State.report, List.getElem?_map, List.getElem?_zipIdx]
  cases hi : jobs[i]? with
  | none =>
    have hlen : (jobs.zip s.slots).length ≤ i := by
      rw [List.length_zip]
      exact Nat.le_trans (Nat.min_le_left _ _) (List.getElem?_eq_none_iff.mp hi)
    rw [List.getElem?_eq_none hlen]
    rfl
  | some job =>
    obtain ⟨slot, hslot, hstands⟩ := h.stands i job hi
    rw [hall, List.lookup_nil] at hstands
    have hzip : (jobs.zip s.slots)[i]? = some (job, slot) :=
      List.getElem?_zip_eq_some.mpr ⟨hi, hslot⟩
    simp [hzip, hstands.alone]

end BatchRun

end SettingsCheck
