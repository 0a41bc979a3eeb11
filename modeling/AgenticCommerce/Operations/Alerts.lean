/-
# The queue of alerts

`AlertManager` of `services/operations/alerts.py`: a queue of a fixed capacity into which alerts
are fired, with what looks like a credential masked, and out of which an exporter drains them.

The queue keeps its bound and its order on any run.  Two promises are kept only as long as the
queue is not full when an alert is fired (`policy_iff`): the alert that makes room for another is
not counted, and a critical alert is refused when the oldest one is critical, whatever stands
behind it.
-/

import AgenticCommerce.Operations.AlertContext
import Mathlib.Data.List.Count

namespace AgenticCommerce
namespace Operations

/-- `AlertSeverity`. -/
inductive AlertSeverity where
  | info | warning | critical
  deriving DecidableEq, Repr

/-- `AlertKind`. -/
inductive AlertKind where
  | webhookDeadLetter | webhookRetryExhausted | reconciliationMismatch | workerHeartbeatLost
  | workerBacklogHigh | providerError | authorizationAnomaly | catalogImportFailed
  | paymentIncident
  deriving DecidableEq, Repr

/-- `Alert`. -/
structure Alert where
  kind : AlertKind
  severity : AlertSeverity
  message : String
  context : List (String × ContextValue)
  createdAt : ℤ
  deriving DecidableEq

/-- The alert that is logged and kept of one that is fired. -/
def Alert.safe (alert : Alert) : Alert := { alert with context := redact alert.context }

/-! ### The manager -/

/-- `AlertManager`, without its lock. -/
structure AlertManager where
  maxPending : ℕ := 1024
  queue : List Alert := []
  droppedCount : ℕ := 0
  deriving DecidableEq

/-- An alert at the end of the queue, from which the oldest one falls out when it is full. -/
def AlertManager.append (manager : AlertManager) (alert : Alert) : AlertManager :=
  { manager with queue :=
      if manager.queue.length < manager.maxPending then manager.queue ++ [alert]
      else (manager.queue ++ [alert]).tail }

/-- `fire`. -/
def AlertManager.fire (manager : AlertManager) (alert : Alert) : AlertManager :=
  if manager.queue.length = manager.maxPending then
    match manager.queue with
    | oldest :: rest =>
        if oldest.severity ≠ .critical then
          AlertManager.append { manager with queue := rest } alert.safe
        else { manager with droppedCount := manager.droppedCount + 1 }
    -- a queue of no capacity; the code raises here
    | [] => manager
  else manager.append alert.safe

/-- `drain`. -/
def AlertManager.drain (manager : AlertManager) : List Alert × AlertManager :=
  (manager.queue, { manager with queue := [] })

/-! ### Runs -/

/-- A call. -/
inductive Call where
  | fire (alert : Alert)
  | drain

/-- A manager, with the alerts that were fired and those that were drained, in order. -/
structure History where
  manager : AlertManager
  fired : List Alert := []
  drained : List Alert := []

/-- What a call does. -/
def History.step (history : History) : Call → History
  | .fire alert =>
      { history with
        manager := history.manager.fire alert
        fired := history.fired ++ [alert.safe] }
  | .drain =>
      { history with
        manager := history.manager.drain.2
        drained := history.drained ++ history.manager.drain.1 }

/-- A run of a manager of a capacity. -/
def after (capacity : ℕ) (calls : List Call) : History :=
  calls.foldl History.step { manager := { maxPending := capacity } }

/-- The queue keeps within its capacity, what was drained and what is queued are in the order in
which they were fired, and the counter says how many are missing. -/
structure Kept (capacity : ℕ) (history : History) : Prop where
  bounded : history.manager.queue.length ≤ capacity
  ordered : (history.drained ++ history.manager.queue).Sublist history.fired
  counted : history.manager.droppedCount + history.drained.length +
    history.manager.queue.length = history.fired.length

/-- An alert is dropped when another is fired: it was queued, or is the one that is fired, and is
not queued afterwards, or not as often. -/
def Dropped (manager : AlertManager) (fired alert : Alert) : Prop :=
  (manager.fire fired).queue.count alert < (manager.queue ++ [fired.safe]).count alert

/-- The queue is full, and of critical alerts. -/
def FullOfCritical (manager : AlertManager) : Prop :=
  manager.queue.length = manager.maxPending ∧ ∀ alert ∈ manager.queue, alert.severity = .critical

/-- A critical alert is dropped only from a queue that is full of such. -/
def SparesCritical (manager : AlertManager) : Call → Prop
  | .fire fired =>
      ∀ alert, alert.severity = .critical → Dropped manager fired alert → FullOfCritical manager
  | .drain => True

/-- **The drop policy**, throughout a run. -/
def Policy (capacity : ℕ) (calls : List Call) : Prop :=
  (∀ done, done <+: calls → Kept capacity (after capacity done)) ∧
    ∀ done call, done ++ [call] <+: calls → SparesCritical (after capacity done).manager call

/-- There is room, or the queue is full from a critical alert on and the alert that is fired does
not matter, or no alert in the queue would make room for it. -/
def Admits (manager : AlertManager) : Call → Prop
  | .fire fired =>
      manager.queue.length = manager.maxPending →
        (∀ oldest, manager.queue.head? = some oldest → oldest.severity = .critical) ∧
          (fired.severity = .critical → FullOfCritical manager)
  | .drain => True

/-! ### One call -/

section

variable {manager : AlertManager} {alert : Alert}

@[simp] theorem Alert.safe_severity (alert : Alert) : alert.safe.severity = alert.severity := rfl

/-- Where there is room the alert is queued. -/
theorem AlertManager.fire_of_room (h : manager.queue.length < manager.maxPending) :
    manager.fire alert = { manager with queue := manager.queue ++ [alert.safe] } := by
  rw [fire, if_neg (by omega), append, if_pos h]

/-- A full queue makes room by its oldest alert, if that is not critical. -/
theorem AlertManager.fire_of_evicted {oldest : Alert} {rest : List Alert}
    (hqueue : manager.queue = oldest :: rest) (hfull : manager.queue.length = manager.maxPending)
    (hoptional : oldest.severity ≠ .critical) :
    manager.fire alert = { manager with queue := rest ++ [alert.safe] } := by
  have hroom : rest.length < manager.maxPending := by
    rw [hqueue, List.length_cons] at hfull
    omega
  rw [fire, if_pos hfull, hqueue]
  dsimp only
  rw [if_pos hoptional, append, if_pos hroom]

/-- A full queue refuses the alert if its oldest one is critical. -/
theorem AlertManager.fire_of_refused {oldest : Alert} {rest : List Alert}
    (hqueue : manager.queue = oldest :: rest) (hfull : manager.queue.length = manager.maxPending)
    (hcritical : oldest.severity = .critical) :
    manager.fire alert = { manager with droppedCount := manager.droppedCount + 1 } := by
  rw [fire, if_pos hfull]
  split
  · rename_i head tail htail
    obtain ⟨rfl, rfl⟩ := List.cons.inj (htail.symm.trans hqueue)
    rw [if_neg (not_not.2 hcritical)]
  · rename_i hnil
    rw [hqueue] at hnil
    cases hnil

/-- **What firing can do**, of a queue that has a capacity and keeps within it. -/
theorem AlertManager.fire_cases (hpositive : 0 < manager.maxPending)
    (hbounded : manager.queue.length ≤ manager.maxPending) :
    (manager.queue.length < manager.maxPending ∧
        manager.fire alert = { manager with queue := manager.queue ++ [alert.safe] }) ∨
      ∃ oldest rest, manager.queue = oldest :: rest ∧ manager.queue.length = manager.maxPending ∧
        (oldest.severity ≠ .critical ∧
            manager.fire alert = { manager with queue := rest ++ [alert.safe] } ∨
          oldest.severity = .critical ∧
            manager.fire alert = { manager with droppedCount := manager.droppedCount + 1 }) := by
  rcases Nat.lt_or_ge manager.queue.length manager.maxPending with hroom | hfull
  · exact .inl ⟨hroom, fire_of_room hroom⟩
  · have hfull' : manager.queue.length = manager.maxPending := by omega
    cases hqueue : manager.queue with
    | nil =>
        rw [hqueue, List.length_nil] at hfull'
        omega
    | cons oldest rest =>
        refine .inr ⟨oldest, rest, rfl, hqueue ▸ hfull', ?_⟩
        rw [← hqueue]
        by_cases hcritical : oldest.severity = .critical
        · exact .inr ⟨hcritical, fire_of_refused hqueue hfull' hcritical⟩
        · exact .inl ⟨hcritical, fire_of_evicted hqueue hfull' hcritical⟩

@[simp] theorem AlertManager.fire_maxPending :
    (manager.fire alert).maxPending = manager.maxPending := by
  unfold fire append
  split
  · split
    · split <;> rfl
    · rfl
  · rfl

end

variable {capacity : ℕ} {history : History} {call : Call}

@[simp] theorem step_maxPending :
    (history.step call).manager.maxPending = history.manager.maxPending := by
  cases call with
  | fire alert => exact AlertManager.fire_maxPending
  | drain => rfl

theorem after_concat (done : List Call) (call : Call) :
    after capacity (done ++ [call]) = (after capacity done).step call := by
  rw [after, List.foldl_append]
  rfl

theorem after_maxPending (calls : List Call) : (after capacity calls).manager.maxPending = capacity := by
  induction calls using List.reverseRecOn with
  | nil => rfl
  | append_singleton done call ih => rw [after_concat, step_maxPending, ih]

/-- A call that is admitted keeps what is kept. -/
theorem Kept.step (h : Kept capacity history) (hpositive : 0 < capacity)
    (hcapacity : history.manager.maxPending = capacity) (hadmits : Admits history.manager call) :
    Kept capacity (history.step call) := by
  obtain ⟨hbounded, hordered, hcounted⟩ := h
  cases call with
  | drain =>
      refine ⟨Nat.zero_le _, ?_, ?_⟩
      · show ((history.drained ++ history.manager.queue) ++ []).Sublist history.fired
        rw [List.append_nil]
        exact hordered
      · show _ + (history.drained ++ history.manager.queue).length + [].length = _
        rw [List.length_append, List.length_nil]
        show history.manager.droppedCount + _ + 0 = history.fired.length
        omega
  | fire alert =>
      have hfired : (history.fired ++ [alert.safe]).length = history.fired.length + 1 := by simp
      rcases @AlertManager.fire_cases _ alert (hcapacity ▸ hpositive)
        (hcapacity ▸ hbounded) with ⟨hroom, hfire⟩ | ⟨oldest, rest, hqueue, hfull, hfire⟩
      · have hlength : (history.manager.queue ++ [alert.safe]).length =
            history.manager.queue.length + 1 := by simp
        refine ⟨?_, ?_, ?_⟩
        · show (history.manager.fire alert).queue.length ≤ capacity
          rw [hfire, hlength]
          omega
        · show (history.drained ++ (history.manager.fire alert).queue).Sublist _
          rw [hfire, ← List.append_assoc]
          exact hordered.append (List.Sublist.refl _)
        · show (history.manager.fire alert).droppedCount + history.drained.length +
            (history.manager.fire alert).queue.length = (history.fired ++ [alert.safe]).length
          rw [hfire, hlength, hfired]
          show history.manager.droppedCount + _ + _ = _
          omega
      · have hcritical : oldest.severity = .critical :=
          (hadmits hfull).1 oldest (by rw [hqueue]; rfl)
        rcases hfire with ⟨hoptional, -⟩ | ⟨-, hfire⟩
        · exact absurd hcritical hoptional
        · refine ⟨?_, ?_, ?_⟩
          · show (history.manager.fire alert).queue.length ≤ capacity
            rw [hfire]
            exact hbounded
          · show (history.drained ++ (history.manager.fire alert).queue).Sublist _
            rw [hfire]
            exact hordered.trans (List.sublist_append_left _ _)
          · show (history.manager.fire alert).droppedCount + history.drained.length +
              (history.manager.fire alert).queue.length = (history.fired ++ [alert.safe]).length
            rw [hfire, hfired]
            show history.manager.droppedCount + 1 + history.drained.length +
              history.manager.queue.length = _
            omega

/-- The alert that is fired at a full queue with a critical head is the one that is dropped. -/
theorem dropped_of_refused {manager : AlertManager} {fired alert : Alert}
    (hfire : (manager.fire fired).queue = manager.queue) :
    Dropped manager fired alert ↔ alert = fired.safe := by
  rw [Dropped, hfire, List.count_append, List.count_singleton]
  constructor
  · intro h
    by_contra hne
    rw [if_neg (by simpa using Ne.symm hne)] at h
    omega
  · rintro rfl
    rw [if_pos (beq_self_eq_true _)]
    omega

/-- A call that is admitted drops no critical alert that could be kept. -/
theorem Admits.spares {manager : AlertManager} (h : Admits manager call)
    (hpositive : 0 < manager.maxPending) (hbounded : manager.queue.length ≤ manager.maxPending) :
    SparesCritical manager call := by
  cases call with
  | drain => trivial
  | fire fired =>
      intro alert hcritical hdropped
      rcases @AlertManager.fire_cases _ fired hpositive hbounded with
        ⟨-, hfire⟩ | ⟨oldest, rest, hqueue, hfull, hfire⟩
      · rw [Dropped, hfire] at hdropped
        exact absurd hdropped (Nat.lt_irrefl _)
      · rcases hfire with ⟨hoptional, -⟩ | ⟨-, hfire⟩
        · exact absurd ((h hfull).1 oldest (by rw [hqueue]; rfl)) hoptional
        · obtain rfl := (dropped_of_refused (by rw [hfire])).1 hdropped
          exact (h hfull).2 hcritical

/-- **The drop policy holds throughout a run** exactly when every alert is fired at a queue with
room, or at a full one whose oldest alert is critical, and no critical alert at a full one that
holds another kind. -/
theorem policy_iff (hpositive : 0 < capacity) (calls : List Call) :
    Policy capacity calls ↔
      ∀ done call, done ++ [call] <+: calls → Admits (after capacity done).manager call := by
  constructor
  · rintro ⟨hkept, hspares⟩ done call hinitial
    cases call with
    | drain => trivial
    | fire fired =>
        intro hfull
        have hbefore := hkept done ((List.prefix_append _ _).trans hinitial)
        have hafter := hkept _ hinitial
        rw [after_concat] at hafter
        have hcapacity := @after_maxPending capacity done
        rcases @AlertManager.fire_cases _ fired (hcapacity.symm ▸ hpositive)
          (hcapacity.symm ▸ hbefore.bounded) with ⟨hroom, -⟩ | ⟨oldest, rest, hqueue, -, hfire⟩
        · omega
        · rcases hfire with ⟨-, hfire⟩ | ⟨hcritical, hfire⟩
          · -- the oldest alert is gone, and the counter does not say so
            have hcounted := hbefore.counted
            have hcounted' : ((after capacity done).manager.fire fired).droppedCount +
                (after capacity done).drained.length +
                ((after capacity done).manager.fire fired).queue.length =
                  ((after capacity done).fired ++ [fired.safe]).length := hafter.counted
            rw [hfire] at hcounted'
            simp only [List.length_append, List.length_singleton] at hcounted'
            rw [hqueue, List.length_cons] at hcounted
            omega
          · refine ⟨fun head hhead => ?_, fun hfired => ?_⟩
            · rw [hqueue] at hhead
              exact Option.some.inj hhead ▸ hcritical
            · exact hspares done (.fire fired) hinitial fired.safe hfired
                ((dropped_of_refused (by rw [hfire])).2 rfl)
  · intro hadmits
    have hkept (done : List Call) : done <+: calls → Kept capacity (after capacity done) := by
      induction done using List.reverseRecOn with
      | nil => exact fun _ => ⟨Nat.zero_le _, List.Sublist.refl _, rfl⟩
      | append_singleton done call ih =>
          intro hinitial
          rw [after_concat]
          exact (ih ((List.prefix_append _ _).trans hinitial)).step hpositive (after_maxPending done)
            (hadmits done call hinitial)
    refine ⟨hkept, fun done call hinitial => ?_⟩
    have hcapacity := @after_maxPending capacity done
    exact (hadmits done call hinitial).spares (hcapacity.symm ▸ hpositive)
      (hcapacity.symm ▸ (hkept done ((List.prefix_append _ _).trans hinitial)).bounded)

/-! ### An alert that is not counted -/

/-- An alert of a severity. -/
private def sampleAlert (severity : AlertSeverity) : Alert :=
  { kind := .providerError, severity, message := "", context := [], createdAt := 0 }

/-- A queue of one critical alert refuses a second one, and keeps the policy. -/
theorem critical_kept : Policy 1 [.fire (sampleAlert .critical), .fire (sampleAlert .critical)] := by
  refine (policy_iff (by decide) _).2 fun done call hinitial => ?_
  obtain ⟨rest, hrest⟩ := hinitial
  match done, hrest with
  | [], hrest =>
      obtain ⟨rfl, -⟩ := List.cons.inj hrest
      exact fun hfull => absurd hfull (by decide)
  | [first], hrest =>
      obtain ⟨rfl, htail⟩ := List.cons.inj hrest
      obtain ⟨rfl, -⟩ := List.cons.inj htail
      exact fun _ => ⟨by decide, fun _ => ⟨by decide, by decide⟩⟩
  | first :: second :: more, hrest =>
      have hlength := congrArg List.length hrest
      simp only [List.length_append, List.length_cons, List.length_nil] at hlength
      omega

/-- **An alert is lost without being counted** when it makes room for another, and a critical alert
is refused though the queue holds one that is not critical. -/
theorem alerts_lost : ¬Policy 1 [.fire (sampleAlert .info), .fire (sampleAlert .info)] ∧
    ¬Policy 2 [.fire (sampleAlert .critical), .fire (sampleAlert .info),
      .fire (sampleAlert .critical)] := by
  constructor
  · rintro ⟨hkept, -⟩
    exact absurd (hkept _ (List.prefix_refl _)).counted (by decide)
  · rintro ⟨-, hspares⟩
    have hfull := hspares [.fire (sampleAlert .critical), .fire (sampleAlert .info)]
      (.fire (sampleAlert .critical)) (List.prefix_refl _) (sampleAlert .critical).safe rfl
      (by unfold Dropped; decide)
    exact absurd (hfull.2 (sampleAlert .info).safe (by decide)) (by decide)

end Operations
end AgenticCommerce
