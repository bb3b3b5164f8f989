import SettingsCheck.CheckRun
import SettingsCheck.Proofs.Lookup
import Mathlib.Data.List.Nodup
import Mathlib.Data.List.Perm.Subperm

/-!
Runs of deferred checks in which tasks may end without a report. The collector stops when nothing
can come any more and does not look at what is still in flight: a check whose task sent nothing
leaves no error, and only the number of completed checks tells.
-/

namespace SettingsCheck.CheckRun

/-- Which of these tasks run on after a move. -/
def Move.leaves : Move → List Nat → List Nat
  | .ends id _, running => running.filter (· != id)
  | .vanishes id, running => running.filter (· != id)
  | _, running => running

/-- The report that a move sends, if it is of one of these tasks. -/
def Move.sends? : Move → List Nat → Option (Nat × TaskResult)
  | .ends id result, running => if id ∈ running then some (id, result) else none
  | _, _ => none

/-- What these tasks send by some moves, in the order of sending. -/
def sendings : List Nat → List Move → List (Nat × TaskResult)
  | _, [] => []
  | running, m :: ms => (m.sends? running).toList ++ sendings (m.leaves running) ms

/-- The error that a report of one of these checks makes. -/
def reportError? (labels : List CheckLabel) (report : Nat × TaskResult) : Option ValidationError :=
  labels[report.1]?.bind report.2.error?

theorem Move.leaves_sublist (m : Move) (running : List Nat) :
    (m.leaves running).Sublist running := by
  cases m with
  | ends | vanishes => exact List.filter_sublist
  | takes | closes | cancels => exact List.Sublist.refl _

theorem Move.sends?_eq_some_iff {m : Move} {running : List Nat} {id : Nat} {result : TaskResult} :
    m.sends? running = some (id, result) ↔ m = .ends id result ∧ id ∈ running := by
  cases m with
  | ends other r =>
    by_cases hm : other ∈ running <;> simp [sends?, hm]
    · rintro rfl rfl
      exact hm
    · rintro rfl rfl
      exact hm
  | vanishes | takes | closes | cancels => simp [sends?]

theorem Move.not_mem_leaves {m : Move} {running : List Nat} {report : Nat × TaskResult}
    (h : m.sends? running = some report) : report.1 ∉ m.leaves running := by
  obtain ⟨rfl, _⟩ := sends?_eq_some_iff.mp h
  simp [leaves]

theorem mem_of_mem_sendings {running : List Nat} {ms : List Move} {report : Nat × TaskResult}
    (h : report ∈ sendings running ms) : report.1 ∈ running := by
  induction ms generalizing running with
  | nil => simp [sendings] at h
  | cons m ms ih =>
    rcases List.mem_append.mp h with h | h
    · exact (Move.sends?_eq_some_iff.mp (Option.mem_toList.mp h)).2
    · exact (m.leaves_sublist running).subset (ih h)

/-- No task sends two reports. -/
theorem nodup_sendings (running : List Nat) (ms : List Move) :
    ((sendings running ms).map Prod.fst).Nodup := by
  induction ms generalizing running with
  | nil => exact List.nodup_nil
  | cons m ms ih =>
    cases hsend : m.sends? running with
    | none => simpa [sendings, hsend] using ih (m.leaves running)
    | some report =>
      have hfresh : report.1 ∉ (sendings (m.leaves running) ms).map Prod.fst := by
        intro hm
        obtain ⟨other, ho, heq⟩ := List.mem_map.mp hm
        exact Move.not_mem_leaves hsend (heq ▸ mem_of_mem_sendings ho)
      rw [sendings, hsend, Option.toList_some, List.singleton_append, List.map_cons]
      exact List.nodup_cons.mpr ⟨hfresh, ih (m.leaves running)⟩

theorem sendings_nil (ms : List Move) : sendings [] ms = [] :=
  List.eq_nil_iff_forall_not_mem.mpr fun _ h => nomatch mem_of_mem_sendings h

namespace State

/-- The reports that the collector has still to take. -/
def awaited (s : State) (ms : List Move) : List (Nat × TaskResult) :=
  s.queue ++ sendings s.running ms

/-- What the run comes to, errors and completed checks, when every awaited report is taken. -/
def prospect (labels : List CheckLabel) (s : State) (ms : List Move) :
    List ValidationError × Nat :=
  (s.errors ++ (s.awaited ms).filterMap (reportError? labels),
    s.completed + (s.awaited ms).length)

end State

/-- The collector knows every task that may still report. -/
structure Expecting (labels : List CheckLabel) (s : State) : Prop where
  nodup : (s.queue.map Prod.fst ++ s.running).Nodup
  known : ∀ id ∈ s.queue.map Prod.fst ++ s.running,
    id < labels.length ∧ s.inFlight.lookup id = labels[id]?
  dispatched : s.dispatched = labels.length
  cancelled : s.cancelled = false
  closed : s.finished = true → s.running = [] ∧ s.queue = []

namespace Expecting

variable {labels : List CheckLabel} {s : State}

theorem start (labels : List CheckLabel) : Expecting labels (State.start labels) where
  nodup := by simpa [State.start] using List.nodup_range
  known := by
    intro id hid
    have hlookup := lookup_filterMap_zipIdx some labels 0 id
    refine ⟨by simpa [State.start] using hid, ?_⟩
    simpa [State.start, List.filterMap_eq_map'] using hlookup
  dispatched := rfl
  cancelled := rfl
  closed := by simp [State.start]

theorem record (h : Expecting labels s) {id : Nat} {result : TaskResult}
    {rest : List (Nat × TaskResult)} (hq : s.queue = (id, result) :: rest) :
    let t := ({ s with queue := rest } : State).record id result
    Expecting labels t ∧ t.completed = s.completed + 1 ∧
      t.errors = s.errors ++ (reportError? labels (id, result)).toList := by
  intro t
  have hid : id ∈ s.queue.map Prod.fst ++ s.running := by simp [hq]
  -- the collector knows the task, so its report is not ignored
  obtain ⟨hlt, hlookup⟩ := h.known id hid
  have hlabel : labels[id]? = some labels[id] := List.getElem?_eq_getElem hlt
  have hnodup : (id :: (rest.map Prod.fst ++ s.running)).Nodup := by simpa [hq] using h.nodup
  have hopen : s.finished ≠ true := fun hf => absurd (h.closed hf).2 (by simp [hq])
  have ht : t = { s with
      queue := rest
      inFlight := s.inFlight.filter (·.1 != id)
      completed := s.completed + 1
      errors := s.errors ++ (result.error? labels[id]).toList } := by
    simp only [t, State.record, hlookup, hlabel]
  rw [ht]
  refine ⟨?_, rfl, by simp [reportError?, hlabel]⟩
  exact
    { nodup := (List.nodup_cons.mp hnodup).2
      known := by
        intro other ho
        have hne : other ≠ id := fun heq => (List.nodup_cons.mp hnodup).1 (heq ▸ ho)
        have hother := h.known other (by simpa [hq] using .inr (by simpa using ho))
        rw [lookup_filter_ne, if_neg hne]
        exact hother
      dispatched := h.dispatched
      cancelled := h.cancelled
      closed := fun hf => absurd hf hopen }

/-- Tasks stop, and these reports wait then. -/
theorem stop (h : Expecting labels s) (hf : s.finished = false) {queue : List (Nat × TaskResult)}
    {running : List Nat}
    (hsub : (queue.map Prod.fst ++ running).Subperm (s.queue.map Prod.fst ++ s.running)) :
    Expecting labels { s with queue := queue, running := running } where
  nodup := by
    obtain ⟨l, hperm, hl⟩ := hsub
    exact hperm.nodup_iff.mp (h.nodup.sublist hl)
  known := fun id hid => h.known id (hsub.subset hid)
  dispatched := h.dispatched
  cancelled := h.cancelled
  closed := fun hc => absurd (hf.symm.trans hc) (by simp)

/-- No move but a cancellation changes what the run comes to. -/
theorem move (h : Expecting labels s) {m : Move} (hc : m ≠ .cancels) (ms : List Move) :
    Expecting labels (s.move m) ∧ (s.move m).prospect labels ms = s.prospect labels (m :: ms) := by
  cases hf : s.finished with
  | true =>
    -- nothing runs and nothing waits, so nothing was awaited
    obtain ⟨hr, hq⟩ := h.closed hf
    rw [State.move_of_finished hf]
    exact ⟨h, by simp [State.prospect, State.awaited, hr, hq, sendings_nil]⟩
  | false =>
    have hself : ∀ id ∉ s.running, s.running.filter (· != id) = s.running := by
      intro id hid
      refine List.filter_eq_self.mpr fun other ho => ?_
      have hne : other ≠ id := fun heq => hid (heq ▸ ho)
      simpa using hne
    cases m with
    | ends id result =>
      by_cases hid : id ∈ s.running
      · rw [State.move_ends_of_mem hf hid]
        refine ⟨h.stop hf ?_, ?_⟩
        · have hperm : (id :: s.running.filter (· != id)).Subperm s.running := by
            have hnodup := (List.nodup_append.mp h.nodup).2.1
            rw [← hnodup.erase_eq_filter]
            exact (List.perm_cons_erase hid).symm.subperm
          simpa using (List.subperm_append_left _).mpr hperm
        · simp [State.prospect, State.awaited, sendings, Move.sends?, Move.leaves, hid]
      · rw [State.move_ends_of_not_mem hid]
        refine ⟨h, ?_⟩
        simp [State.prospect, State.awaited, sendings, Move.sends?, Move.leaves, hid, hself id hid]
    | vanishes id =>
      have hmove : s.move (.vanishes id) = { s with running := s.running.filter (· != id) } := by
        simp [State.move, hf]
      rw [hmove]
      refine ⟨h.stop hf ((List.subperm_append_left _).mpr List.filter_sublist.subperm), ?_⟩
      simp [State.prospect, State.awaited, sendings, Move.sends?, Move.leaves]
    | takes =>
      cases hq : s.queue with
      | nil =>
        rw [State.move_takes_of_nil hq]
        exact ⟨h, by simp [State.prospect, State.awaited, sendings, Move.sends?, Move.leaves]⟩
      | cons report rest =>
        rw [State.move_takes_of_cons hf hq]
        obtain ⟨ht, hcompleted, herrors⟩ := h.record hq
        refine ⟨ht, ?_⟩
        simp only [State.prospect, State.awaited, herrors, hcompleted, hq]
        cases he : reportError? labels report <;>
          simp [sendings, Move.sends?, Move.leaves, he] <;> omega
    | closes =>
      by_cases hempty : s.running = [] ∧ s.queue = []
      · rw [State.move_closes_of_empty hf hempty.1 hempty.2]
        refine ⟨{ h with closed := fun _ => hempty }, ?_⟩
        simp [State.prospect, State.awaited, sendings, Move.sends?, Move.leaves]
      · rw [State.move_closes_of_not_empty hempty]
        refine ⟨h, ?_⟩
        simp [State.prospect, State.awaited, sendings, Move.sends?, Move.leaves]
    | cancels => exact absurd rfl hc

theorem moves (h : Expecting labels s) {ms : List Move} (hc : .cancels ∉ ms) :
    Expecting labels (s.moves ms) ∧ (s.moves ms).prospect labels [] = s.prospect labels ms := by
  induction ms generalizing s with
  | nil => exact ⟨h, rfl⟩
  | cons m ms ih =>
    obtain ⟨hm, hms⟩ := List.ne_and_not_mem_of_not_mem_cons hc
    obtain ⟨ht, hstep⟩ := h.move (m := m) hm.symm ms
    obtain ⟨hend, hrest⟩ := ih ht hms
    exact ⟨hend, hrest.trans hstep⟩

end Expecting

section Reports

variable {labels : List CheckLabel} {sent : List (Nat × TaskResult)}

theorem reportError?_eq_none_iff {report : Nat × TaskResult} (h : report.1 < labels.length) :
    reportError? labels report = none ↔ report.2 = .accepted := by
  obtain ⟨id, result⟩ := report
  have hlabel : labels[id]? = some labels[id] := List.getElem?_eq_getElem h
  cases result <;> simp [reportError?, hlabel, TaskResult.error?]

/-- The checks that sent no acceptance. -/
def unaccepted (labels : List CheckLabel) (sent : List (Nat × TaskResult)) : List Nat :=
  (List.range labels.length).filter fun id => (id, .accepted) ∉ sent

theorem length_unaccepted (hknown : ∀ report ∈ sent, report.1 < labels.length)
    (hnodup : (sent.map Prod.fst).Nodup) :
    (unaccepted labels sent).length + (sent.filter (·.2 = .accepted)).length = labels.length := by
  have hmem : ∀ id,
      id ∈ (sent.filter (·.2 = .accepted)).map Prod.fst ↔ (id, .accepted) ∈ sent := by simp
  have hperm : ((List.range labels.length).filter fun id => (id, .accepted) ∈ sent).Perm
      ((sent.filter (·.2 = .accepted)).map Prod.fst) := by
    have hless : ((sent.filter (·.2 = .accepted)).map Prod.fst).Nodup :=
      hnodup.sublist (List.filter_sublist.map _)
    refine (List.perm_ext_iff_of_nodup (List.nodup_range.filter _) hless).mpr fun id => ?_
    rw [hmem, List.mem_filter, decide_eq_true_eq, List.mem_range, and_iff_right_iff_imp]
    exact fun hid => hknown _ hid
  have hsplit := List.length_eq_length_filter_add (l := List.range labels.length)
    fun id => decide ((id, TaskResult.accepted) ∈ sent)
  rw [hperm.length_eq, List.length_map, List.length_range] at hsplit
  have hrest : (unaccepted labels sent).length =
      ((List.range labels.length).filter
        fun id => !decide ((id, TaskResult.accepted) ∈ sent)).length := by
    simp [unaccepted]
  omega

theorem length_reportErrors (hknown : ∀ report ∈ sent, report.1 < labels.length) :
    (sent.filterMap (reportError? labels)).length + (sent.filter (·.2 = .accepted)).length =
      sent.length := by
  have hsplit := List.length_eq_countP_add_countP (l := sent)
    fun report => (reportError? labels report).isSome
  have hnone : sent.countP (fun report => ¬(reportError? labels report).isSome) =
      sent.countP fun report => decide (report.2 = .accepted) := by
    apply List.countP_congr
    intro report hm
    simpa using reportError?_eq_none_iff (hknown report hm)
  rw [List.length_filterMap_eq_countP, ← List.countP_eq_length_filter, ← hnone]
  exact hsplit.symm

theorem length_sent_eq_iff (hknown : ∀ report ∈ sent, report.1 < labels.length)
    (hnodup : (sent.map Prod.fst).Nodup) :
    sent.length = labels.length ↔ ∀ id < labels.length, ∃ result, (id, result) ∈ sent := by
  have hsub : (sent.map Prod.fst).Subperm (List.range labels.length) := by
    refine List.subperm_of_subset hnodup fun id hid => ?_
    obtain ⟨report, hm, rfl⟩ := List.mem_map.mp hid
    exact List.mem_range.mpr (hknown report hm)
  have hmem : ∀ id, id ∈ sent.map Prod.fst ↔ ∃ result, (id, result) ∈ sent := by simp
  simp only [← hmem]
  constructor
  · intro hlen id hid
    have hperm := hsub.perm_of_length_le (by simp [hlen])
    exact hperm.mem_iff.mpr (List.mem_range.mpr hid)
  · intro hall
    have hperm : (List.range labels.length).Subperm (sent.map Prod.fst) :=
      List.subperm_of_subset List.nodup_range fun id hid => hall id (List.mem_range.mp hid)
    simpa using (hsub.antisymm hperm).length_eq

end Reports

/-- What a run that was not cancelled shows if these reports were sent. -/
structure Shown (labels : List CheckLabel) (sent : List (Nat × TaskResult)) (o : Outcome) :
    Prop where
  cancelled : o.cancelled = false
  dispatched : o.dispatched = labels.length
  completed : o.completed = sent.length
  errors : o.errors.Perm (sent.filterMap (reportError? labels))

theorem shown_of_finished {labels : List CheckLabel} {ms : List Move} (hc : .cancels ∉ ms)
    (hf : ((State.start labels).moves ms).finished = true) :
    Shown labels (sendings (List.range labels.length) ms) (outcomeOf labels false ms) := by
  cases labels with
  | nil =>
    rw [List.length_nil, List.range_zero, sendings_nil]
    exact ⟨rfl, rfl, rfl, .refl _⟩
  | cons label labels =>
    -- at the end nothing is awaited, and the prospect of the start is what the run has come to
    obtain ⟨hend, hprospect⟩ := (Expecting.start (label :: labels)).moves hc
    obtain ⟨hr, hq⟩ := hend.closed hf
    simp only [State.prospect, State.awaited, hr, hq, sendings_nil, List.append_nil,
      List.filterMap_nil, List.length_nil, Nat.add_zero, Prod.mk.injEq] at hprospect
    obtain ⟨herrors, hcompleted⟩ := hprospect
    refine ⟨hend.cancelled, hend.dispatched, hcompleted.trans (Nat.zero_add _), ?_⟩
    exact (List.mergeSort_perm _ _).trans (.of_eq herrors)

/-- A run that was not cancelled shows the errors of the reports that were sent, and no others. A
check whose task ended without a report leaves none, so there is an error for each check that did
not succeed only if every check reported. -/
theorem silent_checks_leave_no_error (labels : List CheckLabel) (ms : List Move)
    (hc : .cancels ∉ ms) (hf : ((State.start labels).moves ms).finished = true) :
    let sent := sendings (List.range labels.length) ms
    let o := outcomeOf labels false ms
    Shown labels sent o ∧
    (o.errors = [] ↔ ∀ report ∈ sent, report.2 = .accepted) ∧
    (o.completed = o.dispatched ↔ ∀ id < labels.length, ∃ result, (id, result) ∈ sent) ∧
    (o.errors.length = (unaccepted labels sent).length ↔ o.completed = o.dispatched) := by
  intro sent o
  have hknown : ∀ report ∈ sent, report.1 < labels.length :=
    fun _ h => List.mem_range.mp (mem_of_mem_sendings h)
  have hnodup : (sent.map Prod.fst).Nodup := nodup_sendings _ _
  have h : Shown labels sent o := shown_of_finished hc hf
  refine ⟨h, ?_, ?_, ?_⟩
  · rw [← List.length_eq_zero_iff, h.errors.length_eq, List.length_eq_zero_iff,
      List.filterMap_eq_nil_iff]
    exact forall₂_congr fun report hm => reportError?_eq_none_iff (hknown report hm)
  · rw [h.completed, h.dispatched]
    exact length_sent_eq_iff hknown hnodup
  · have herrors := length_reportErrors hknown
    have hwanting := length_unaccepted hknown hnodup
    rw [← h.errors.length_eq] at herrors
    have hcompleted := h.completed
    have hdispatched := h.dispatched
    omega

example : outcomeOf [⟨"reachable", FieldPath.root.key "host"⟩] false [.vanishes 0, .closes] =
    { dispatched := 1 } := by decide +kernel

end SettingsCheck.CheckRun
