import SettingsCheck.CheckRun
import Mathlib.Data.List.Perm.Basic
import Mathlib.Data.List.Induction

namespace SettingsCheck.CheckRun

/-- How a check fails under a deadline. -/
inductive Fails (deadline : Nat) (c : Completion) : String → Prop
  | refused {t : Nat} {reason : String} :
    c.endsAt = some t → t ≤ deadline → c.verdict = .refused reason → Fails deadline c reason
  | panicked {t : Nat} :
    c.endsAt = some t → t ≤ deadline → c.verdict = .crashed →
    Fails deadline c "validator panicked"
  | late : (∀ t, c.endsAt = some t → deadline < t) →
    Fails deadline c ("timed out after " ++ durationText deadline)

theorem taskResult_eq_refused_iff {deadline : Nat} {c : Completion} {reason : String} :
    taskResult deadline c = .refused reason ↔ Fails deadline c reason := by
  obtain ⟨endsAt, verdict⟩ := c
  constructor
  · intro h
    cases endsAt with
    | none =>
      cases h
      exact .late (by simp)
    | some t =>
      by_cases hlate : deadline < t
      · simp only [taskResult, if_pos hlate, TaskResult.refused.injEq] at h
        exact h ▸ .late (by simpa using hlate)
      · have hintime : t ≤ deadline := by omega
        cases verdict with
        | accepted => simp [taskResult, hlate] at h
        | refused r =>
          simp only [taskResult, if_neg hlate, TaskResult.refused.injEq] at h
          exact .refused rfl hintime (by rw [h])
        | crashed =>
          simp only [taskResult, if_neg hlate, TaskResult.refused.injEq] at h
          exact h ▸ .panicked rfl hintime rfl
  · intro h
    cases h with
    | refused ht hle hv => simp_all [taskResult, Nat.not_lt.mpr hle]
    | panicked ht hle hv => simp_all [taskResult, Nat.not_lt.mpr hle]
    | late hlate => cases endsAt <;> simp_all [taskResult]

/-- What the tasks of these checks send under a deadline. -/
def reports (deadline : Nat) (checks : List (CheckLabel × Completion)) :
    List (CheckLabel × TaskResult) :=
  checks.map fun check => (check.1, taskResult deadline check.2)

theorem map_fst_reports (deadline : Nat) (checks : List (CheckLabel × Completion)) :
    (reports deadline checks).map Prod.fst = checks.map Prod.fst := by
  simp [reports, Function.comp_def]

theorem length_reports (deadline : Nat) (checks : List (CheckLabel × Completion)) :
    (reports deadline checks).length = checks.length :=
  List.length_map _

/-- Moves that are open to tasks with these reports: a task that ends sends its own report. -/
structure Plays (tasks : List (CheckLabel × TaskResult)) (ms : List Move) : Prop where
  reported : ∀ id result, Move.ends id result ∈ ms → ∀ task, tasks[id]? = some task →
    result = task.2
  returned : ∀ id, Move.vanishes id ∉ ms

def Move.ended? : Move → Option Nat
  | .ends id _ => some id
  | _ => none

/-- The tasks that sent a report before the run was cancelled. -/
def sent (ms : List Move) : List Nat := (ms.takeWhile (· ≠ .cancels)).filterMap Move.ended?

/-- The error that a report makes. -/
def failure? (task : CheckLabel × TaskResult) : Option ValidationError := task.2.error? task.1

def failureAt (tasks : List (CheckLabel × TaskResult)) (id : Nat) : Option ValidationError :=
  tasks[id]?.bind failure?

/-- The accounts of a run that was not cancelled, after some moves: which tasks were recorded, and
where all others are. -/
structure Kept (tasks : List (CheckLabel × TaskResult)) (ms : List Move) (s : State)
    (taken : List Nat) : Prop where
  parts : (taken ++ (s.queue.map Prod.fst ++ s.running)).Perm (List.range tasks.length)
  running : s.running = (List.range tasks.length).filter (· ∉ ms.filterMap Move.ended?)
  queue : ∀ entry ∈ s.queue, ∀ task, tasks[entry.1]? = some task → entry.2 = task.2
  inFlight : s.inFlight = (State.start (tasks.map Prod.fst)).inFlight.filter (·.1 ∉ taken)
  completed : s.completed = taken.length
  errors : s.errors = taken.filterMap (failureAt tasks)
  dispatched : s.dispatched = tasks.length
  cancelled : s.cancelled = false
  closed : s.finished = true → s.running = [] ∧ s.queue = []

namespace Kept

variable {tasks : List (CheckLabel × TaskResult)} {ms : List Move} {s : State} {taken : List Nat}

theorem start (tasks : List (CheckLabel × TaskResult)) :
    Kept tasks [] (State.start (tasks.map Prod.fst)) [] where
  parts := by simp [State.start]
  running := by simp [State.start]
  queue := by simp [State.start]
  inFlight := by simp
  completed := rfl
  errors := rfl
  dispatched := by simp [State.start]
  cancelled := rfl
  closed := by simp [State.start]

theorem nodup (h : Kept tasks ms s taken) :
    (taken ++ (s.queue.map Prod.fst ++ s.running)).Nodup :=
  h.parts.nodup_iff.mpr List.nodup_range

theorem mem_inFlight {labels : List CheckLabel} {id : Nat} {label : CheckLabel} :
    (id, label) ∈ (State.start labels).inFlight ↔ labels[id]? = some label := by
  simp only [State.start, List.mem_map, Prod.mk.injEq, Prod.exists]
  constructor
  · rintro ⟨l, i, hm, rfl, rfl⟩
    exact List.mem_zipIdx_iff_getElem?.mp hm
  · intro h
    exact ⟨label, id, List.mem_zipIdx_iff_getElem?.mpr h, rfl, rfl⟩

theorem map_inFlight (labels : List CheckLabel) :
    (State.start labels).inFlight.map Prod.fst = List.range labels.length := by
  simp only [State.start, List.map_map]
  rw [show (Prod.fst ∘ fun x : CheckLabel × Nat => (x.2, x.1)) = Prod.snd from rfl,
    List.zipIdx_map_snd, List.range_eq_range']

/-- A report that waits belongs to a check in flight. -/
theorem lookup_of_queue (h : Kept tasks ms s taken) {id : Nat} {result : TaskResult}
    {rest : List (Nat × TaskResult)} (hq : s.queue = (id, result) :: rest) :
    id ∉ taken ∧ ∃ task, tasks[id]? = some task ∧ result = task.2 ∧
      s.inFlight.lookup id = some task.1 := by
  have hfresh : id ∉ taken := by
    intro hm
    have hdisjoint := (List.nodup_append.mp h.nodup).2.2 id hm
    exact hdisjoint id (by simp [hq]) rfl
  have hlt : id < tasks.length := by
    have hm : id ∈ taken ++ (s.queue.map Prod.fst ++ s.running) := by simp [hq]
    exact List.mem_range.mp (h.parts.mem_iff.mp hm)
  have htask : tasks[id]? = some tasks[id] := List.getElem?_eq_getElem hlt
  refine ⟨hfresh, tasks[id], htask, h.queue (id, result) (by simp [hq]) _ htask, ?_⟩
  have hm : (id, tasks[id].1) ∈ s.inFlight := by
    rw [h.inFlight]
    exact List.mem_filter.mpr ⟨mem_inFlight.mpr (by simp [htask]), by simpa using hfresh⟩
  cases hl : s.inFlight.lookup id with
  | none =>
    have hne := List.lookup_eq_none_iff.mp hl _ hm
    simp at hne
  | some label =>
    obtain ⟨before, after, heq, _⟩ := List.lookup_eq_some_iff.mp hl
    have hm' : (id, label) ∈ s.inFlight := by simp [heq]
    rw [h.inFlight] at hm'
    have hlabel := mem_inFlight.mp (List.mem_filter.mp hm').1
    simpa [htask] using hlabel.symm

/-- Recording the first report that waits. -/
theorem record (h : Kept tasks ms s taken) {id : Nat} {result : TaskResult}
    {rest : List (Nat × TaskResult)} (hq : s.queue = (id, result) :: rest) :
    Kept tasks ms (({ s with queue := rest } : State).record id result) (taken ++ [id]) := by
  obtain ⟨_, task, htask, rfl, hl⟩ := h.lookup_of_queue hq
  have hin : s.inFlight.filter (·.1 != id) =
      (State.start (tasks.map Prod.fst)).inFlight.filter (·.1 ∉ taken ++ [id]) := by
    rw [h.inFlight, List.filter_filter]
    apply List.filter_congr
    intro entry _
    by_cases he : entry.1 = id <;> simp [he]
  have herr : s.errors ++ (task.2.error? task.1).toList =
      (taken ++ [id]).filterMap (failureAt tasks) := by
    have hfail : failureAt tasks id = task.2.error? task.1 := by simp [failureAt, htask, failure?]
    rw [h.errors, List.filterMap_append]
    cases he : task.2.error? task.1 <;> simp [hfail, he]
  have hopen : s.finished ≠ true := fun hf => absurd (h.closed hf).2 (by simp [hq])
  simp only [State.record, hl]
  exact
    { parts := by simpa [hq] using h.parts
      running := h.running
      queue := fun entry he => h.queue entry (by simp [hq, he])
      inFlight := hin
      completed := by simp [h.completed]
      errors := herr
      dispatched := h.dispatched
      cancelled := h.cancelled
      closed := fun hf => absurd hf hopen }

/-- Draining the queue is taking its reports one by one. -/
theorem drain_cons {id : Nat} {result : TaskResult} {rest : List (Nat × TaskResult)}
    (hq : s.queue = (id, result) :: rest) :
    s.drain = (({ s with queue := rest } : State).record id result).drain := by
  have hempty : ({ s with queue := [] } : State).record id result =
      { ({ s with queue := rest } : State).record id result with queue := [] } := by
    unfold State.record
    simp only
    split <;> rfl
  simp only [State.drain, hq, State.record_queue, List.foldl_cons]
  rw [hempty]

theorem drain (h : Kept tasks ms s taken) :
    Kept tasks ms s.drain (taken ++ s.queue.map Prod.fst) ∧ s.drain.queue = [] ∧
      s.drain.running = s.running := by
  generalize hq : s.queue = queue
  induction queue generalizing s taken with
  | nil =>
    have hs : s.drain = s := by
      unfold State.drain
      rw [hq, List.foldl_nil, ← hq]
    rw [hs]
    exact ⟨by simpa using h, hq, rfl⟩
  | cons entry rest ih =>
    obtain ⟨id, result⟩ := entry
    rw [drain_cons hq]
    simpa using ih (h.record hq) (State.record_queue _ _ _)

/-- What is recorded and what is in flight make up all that was dispatched. -/
theorem balance (h : Kept tasks ms s taken) :
    s.completed + s.inFlight.length = tasks.length := by
  have hrest : ((List.range tasks.length).filter (· ∉ taken)).Perm
      (s.queue.map Prod.fst ++ s.running) := by
    refine (h.parts.symm.filter _).trans ?_
    have hdisjoint := (List.nodup_append.mp h.nodup).2.2
    have hnone : taken.filter (· ∉ taken) = [] := by simp
    have hall : (s.queue.map Prod.fst ++ s.running).filter (· ∉ taken) =
        s.queue.map Prod.fst ++ s.running := by
      apply List.filter_eq_self.mpr
      intro id hm
      have hne : id ∉ taken := fun ht => hdisjoint id ht id hm rfl
      simpa using hne
    rw [List.filter_append, hnone, hall, List.nil_append]
  have hmap : s.inFlight.map Prod.fst = (List.range tasks.length).filter (· ∉ taken) := by
    have hstart := map_inFlight (tasks.map Prod.fst)
    rw [List.length_map] at hstart
    rw [h.inFlight, ← hstart, List.filter_map]
    rfl
  have hlen := h.parts.length_eq
  have hflight := congrArg List.length hmap
  rw [hrest.length_eq] at hflight
  simp only [List.length_append, List.length_map, List.length_range] at hlen hflight
  rw [h.completed]
  omega

/-- A move that ends no running task leaves the account of the running ones as it is. -/
theorem extend (h : Kept tasks ms s taken) {m : Move}
    (hm : ∀ id, m.ended? = some id → id ∉ s.running) : Kept tasks (ms ++ [m]) s taken := by
  have hrunning : s.running =
      (List.range tasks.length).filter (· ∉ (ms ++ [m]).filterMap Move.ended?) := by
    cases he : m.ended? with
    | none => simpa [List.filterMap_append, he] using h.running
    | some id =>
      have hself : s.running.filter (· ≠ id) = s.running := by
        apply List.filter_eq_self.mpr
        intro other ho
        have hne : other ≠ id := fun heq => hm id he (heq ▸ ho)
        simpa using hne
      rw [← hself, h.running, List.filter_filter]
      apply List.filter_congr
      intro other _
      simp [List.filterMap_append, he, and_comm]
  exact { h with running := hrunning }

theorem ends (h : Kept tasks ms s taken) (hf : s.finished = false) {id : Nat} {result : TaskResult}
    (hid : id ∈ s.running) (hr : ∀ task, tasks[id]? = some task → result = task.2) :
    Kept tasks (ms ++ [.ends id result])
      { s with running := s.running.filter (· != id), queue := s.queue ++ [(id, result)] }
      taken := by
  have hnodup : s.running.Nodup :=
    (List.nodup_append.mp (List.nodup_append.mp h.nodup).2.1).2.1
  have hperm : s.running.Perm (id :: s.running.filter (· != id)) := by
    rw [← hnodup.erase_eq_filter]
    exact List.perm_cons_erase hid
  have hparts : (taken ++ ((s.queue ++ [(id, result)]).map Prod.fst ++
      s.running.filter (· != id))).Perm (List.range tasks.length) := by
    refine List.Perm.trans ?_ h.parts
    simpa using ((hperm.symm.append_left _).append_left taken)
  have hrunning : s.running.filter (· != id) = (List.range tasks.length).filter
      (· ∉ (ms ++ [Move.ends id result]).filterMap Move.ended?) := by
    have hsent : (ms ++ [Move.ends id result]).filterMap Move.ended? =
        ms.filterMap Move.ended? ++ [id] := List.filterMap_append
    rw [hsent, h.running, List.filter_filter]
    apply List.filter_congr
    intro other _
    by_cases ho : other = id <;> simp [ho]
  have hqueue : ∀ entry ∈ s.queue ++ [(id, result)], ∀ task, tasks[entry.1]? = some task →
      entry.2 = task.2 := by
    intro entry he
    rcases List.mem_append.mp he with he | he
    · exact h.queue entry he
    · cases List.mem_singleton.mp he
      exact hr
  exact
    { h with
      parts := hparts
      running := hrunning
      queue := hqueue
      closed := fun hc => absurd hc (by simp [hf]) }

/-- One step: whatever moves, the accounts are kept. -/
theorem move (h : Kept tasks ms s taken) {m : Move} (hp : Plays tasks [m]) (hc : m ≠ .cancels) :
    ∃ taken', Kept tasks (ms ++ [m]) (s.move m) taken' := by
  cases hf : s.finished with
  | true =>
    -- nothing runs any more, so a task that ends now was not among the running ones
    rw [State.move_of_finished hf]
    exact ⟨taken, h.extend fun id _ => by simp [(h.closed hf).1]⟩
  | false =>
    cases m with
    | ends id result =>
      by_cases hid : id ∈ s.running
      · rw [State.move_ends_of_mem hf hid]
        exact ⟨taken, h.ends hf hid (hp.reported id result List.mem_cons_self)⟩
      · rw [State.move_ends_of_not_mem hid]
        refine ⟨taken, h.extend fun other ho => ?_⟩
        cases ho
        exact hid
    | vanishes id => exact absurd List.mem_cons_self (hp.returned id)
    | takes =>
      have hkeep := h.extend (m := .takes) (by simp [Move.ended?])
      cases hq : s.queue with
      | nil =>
        rw [State.move_takes_of_nil hq]
        exact ⟨taken, hkeep⟩
      | cons entry rest =>
        rw [State.move_takes_of_cons hf hq]
        exact ⟨taken ++ [entry.1], hkeep.record hq⟩
    | closes =>
      have hkeep := h.extend (m := .closes) (by simp [Move.ended?])
      by_cases hempty : s.running = [] ∧ s.queue = []
      · rw [State.move_closes_of_empty hf hempty.1 hempty.2]
        exact ⟨taken, { hkeep with closed := fun _ => hempty }⟩
      · rw [State.move_closes_of_not_empty hempty]
        exact ⟨taken, hkeep⟩
    | cancels => exact absurd rfl hc

end Kept

theorem Plays.append {tasks : List (CheckLabel × TaskResult)} {ms rest : List Move} :
    Plays tasks (ms ++ rest) ↔ Plays tasks ms ∧ Plays tasks rest := by
  constructor
  · intro h
    exact ⟨⟨fun id r hm => h.reported id r (List.mem_append_left _ hm),
        fun id hm => h.returned id (List.mem_append_left _ hm)⟩,
      ⟨fun id r hm => h.reported id r (List.mem_append_right _ hm),
        fun id hm => h.returned id (List.mem_append_right _ hm)⟩⟩
  · rintro ⟨hl, hr⟩
    refine ⟨fun id r hm => ?_, fun id hm => ?_⟩
    · rcases List.mem_append.mp hm with hm | hm
      · exact hl.reported id r hm
      · exact hr.reported id r hm
    · rcases List.mem_append.mp hm with hm | hm
      · exact hl.returned id hm
      · exact hr.returned id hm

/-- A whole run without cancellation keeps the accounts. -/
theorem kept_moves {tasks : List (CheckLabel × TaskResult)} {ms : List Move}
    (hp : Plays tasks ms) (hc : Move.cancels ∉ ms) :
    ∃ taken, Kept tasks ms ((State.start (tasks.map Prod.fst)).moves ms) taken := by
  induction ms using List.reverseRecOn with
  | nil => exact ⟨[], .start tasks⟩
  | append_singleton ms m ih =>
    obtain ⟨hms, hm⟩ := Plays.append.mp hp
    obtain ⟨taken, h⟩ := ih hms fun hmem => hc (List.mem_append_left _ hmem)
    have hne : m ≠ .cancels := fun heq => hc (by simp [heq])
    rw [State.moves_append]
    exact h.move hm hne

end SettingsCheck.CheckRun
