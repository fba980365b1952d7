import NastyEngine.Alerts.State
import Mathlib.Data.Set.Lattice

/-!
An occurrence is one continuous run of a condition: the same rule about the same source, and for a failed
backup with the same message.
-/

namespace NastyEngine.Alerts
open Lib List

structure SameCondition (earlier later : ActiveAlert) : Prop where
  rule : earlier.ruleId = later.ruleId
  source : earlier.source = later.source
  message : later.metric = .backupFailure → earlier.message = later.message

variable {alert : ActiveAlert} {i j : AlertInstanceState} {id : String}

theorem continues_iff : i.continues alert = true ↔ SameCondition i.alert alert := by
  simp only [AlertInstanceState.continues, Bool.and_eq_true, Bool.or_eq_true, decide_eq_true_eq, bne_iff_ne]
  constructor
  · rintro ⟨⟨rule, source⟩, ne | message⟩
    · exact ⟨rule, source, fun backup => absurd backup ne⟩
    · exact ⟨rule, source, fun _ => message⟩
  · rintro ⟨rule, source, message⟩
    refine ⟨⟨rule, source⟩, ?_⟩
    by_cases backup : alert.metric = .backupFailure
    · exact .inr (message backup)
    · exact .inl backup

/-- Two alerts of one evaluation differ in the rule or in the source. -/
def Distinct (alerts : List ActiveAlert) : Prop := (alerts.map fun alert => (alert.ruleId, alert.source)).Nodup

section
variable {metricOf : String → AlertMetric}

/-- A rule id stands for one metric. -/
def Tagged (metricOf : String → AlertMetric) (alert : ActiveAlert) : Prop := alert.metric = metricOf alert.ruleId

/-- Two stored occurrences of one rule about one source are two failures of one backup. -/
def Apart (i j : AlertInstanceState) : Prop :=
  i.alert.ruleId = j.alert.ruleId → i.alert.source = j.alert.source →
    j.alert.metric = .backupFailure ∧ i.alert.message ≠ j.alert.message

structure Orderly (metricOf : String → AlertMetric) (instances : List AlertInstanceState) : Prop where
  ids : (instances.map (·.instanceId)).Nodup
  tagged : ∀ i ∈ instances, Tagged metricOf i.alert
  apart : instances.Pairwise Apart

theorem Orderly.sublist {instances some_ : List AlertInstanceState} (orderly : Orderly metricOf instances)
    (fewer : some_.Sublist instances) : Orderly metricOf some_ :=
  ⟨orderly.ids.sublist (fewer.map _), fun i mem => orderly.tagged i (fewer.subset mem), orderly.apart.sublist fewer⟩

theorem Apart.not_both (apart : Apart i j)
    (tagged : Tagged metricOf alert) (known : Tagged metricOf j.alert) (first : SameCondition i.alert alert) :
    ¬SameCondition j.alert alert := by
  intro second
  have ⟨backup, different⟩ := apart (first.rule.trans second.rule.symm) (first.source.trans second.source.symm)
  have eq : alert.metric = .backupFailure := by
    rw [tagged, ← second.rule, ← known]
    exact backup
  exact different ((first.message eq).trans (second.message eq).symm)

end

section Consume
variable {fresh : Nat → String} {k : Nat} {existing : List AlertInstanceState} {alerts : List ActiveAlert}
  {i j : AlertInstanceState}

structure SameOccurrence (i j : AlertInstanceState) : Prop where
  id : j.instanceId = i.instanceId
  rule : j.alert.ruleId = i.alert.ruleId
  source : j.alert.source = i.alert.source
  at_ : j.acknowledgedAt = i.acknowledgedAt
  by_ : j.acknowledgedBy = i.acknowledgedBy

theorem SameOccurrence.refl {i : AlertInstanceState} : SameOccurrence i i := ⟨rfl, rfl, rfl, rfl, rfl⟩

theorem sameOccurrence_fired (goes_on : SameCondition i.alert alert) :
    SameOccurrence i { i with alert } := ⟨rfl, goes_on.rule.symm, goes_on.source.symm, rfl, rfl⟩

theorem consume_alerts (fresh : Nat → String) (k : Nat) (existing : List AlertInstanceState)
    (alerts : List ActiveAlert) : (consume fresh k existing alerts).1.map (·.alert) = alerts := by
  induction alerts generalizing k existing with
  | nil => rfl
  | cons alert rest ih => exact congrArg (alert :: ·) (ih _ _)

theorem consumed_alert (fired : j ∈ (consume fresh k existing alerts).1) : j.alert ∈ alerts := by
  have named := mem_map_of_mem (f := (·.alert)) fired
  rwa [consume_alerts] at named

theorem consume_remaining (fresh : Nat → String) (k : Nat) (existing : List AlertInstanceState)
    (alerts : List ActiveAlert) : (consume fresh k existing alerts).2.Sublist existing := by
  induction alerts generalizing k existing with
  | nil => exact List.Sublist.refl _
  | cons alert rest ih => exact (ih _ _).trans eraseP_sublist

theorem find_continues (eq : existing.find? (·.continues alert) = some i) :
    SameCondition i.alert alert := continues_iff.mp (by simpa using find?_some eq)

theorem mem_consume (fired : j ∈ (consume fresh k existing alerts).1) :
    (∃ i ∈ existing, SameCondition i.alert j.alert ∧ SameOccurrence i j) ∨
      ∃ n, k ≤ n ∧ j.instanceId = fresh n ∧ j.acknowledgedAt = none ∧ j.acknowledgedBy = none := by
  induction alerts generalizing k existing with
  | nil => cases fired
  | cons alert rest ih =>
    rcases mem_cons.mp fired with rfl | later
    · cases eq : existing.find? (·.continues alert) with
      | none => exact .inr ⟨k, Nat.le_refl k, rfl, rfl, rfl⟩
      | some i =>
        have goes_on := find_continues eq
        exact .inl ⟨i, mem_of_find?_eq_some eq, goes_on, sameOccurrence_fired goes_on⟩
    · rcases ih later with ⟨i, mem, known⟩ | ⟨n, after, new⟩
      · exact .inl ⟨i, mem_of_mem_eraseP mem, known⟩
      · exact .inr ⟨n, Nat.le_of_succ_le after, new⟩

theorem consume_conserves {fresh : Nat → String} (k : Nat) {alerts : List ActiveAlert} (mem : i ∈ existing) :
    i ∈ (consume fresh k existing alerts).2 ∨ ∃ j ∈ (consume fresh k existing alerts).1, SameOccurrence i j := by
  induction alerts generalizing k existing with
  | nil => exact .inl mem
  | cons alert rest ih =>
    by_cases taken : existing.find? (·.continues alert) = some i
    · refine .inr ⟨_, mem_cons_self, ?_⟩
      simp only [taken, Option.getD_some]
      exact sameOccurrence_fired (find_continues taken)
    · have left := mem_eraseP_of_find mem taken
      rcases ih (k + 1) left with kept | ⟨j, fired, same⟩
      · exact .inl kept
      · exact .inr ⟨j, mem_cons_of_mem _ fired, same⟩

theorem consume_left {metricOf : String → AlertMetric} (orderly : Orderly metricOf existing)
    (tagged : ∀ alert ∈ alerts, Tagged metricOf alert) (left : i ∈ (consume fresh k existing alerts).2)
    (fired : alert ∈ alerts) : ¬SameCondition i.alert alert := by
  induction alerts generalizing k existing with
  | nil => cases fired
  | cons first rest ih =>
    have still : i ∈ existing.eraseP (·.continues first) := (consume_remaining _ _ _ _).subset left
    rcases mem_cons.mp fired with rfl | later
    · intro goes_on
      have hit := continues_iff.mpr goes_on
      have mem : i ∈ existing := mem_of_mem_eraseP still
      cases eq : existing.find? (·.continues alert) with
      | none => exact find?_eq_none.mp eq i mem hit
      | some taken =>
        obtain ⟨before, after, rfl, earlier, erased⟩ := eraseP_of_find eq
        rw [erased] at still
        rcases mem_append.mp still with hm | hm
        · exact Bool.eq_false_iff.mp (earlier i hm) hit
        · -- The occurrence that was taken stood before this one and fits the alert too.
          have apart := (pairwise_cons.mp (pairwise_append.mp orderly.apart).2.1).1 i hm
          exact apart.not_both (tagged _ mem_cons_self) (orderly.tagged i mem) (find_continues eq) goes_on
    · exact ih (orderly.sublist eraseP_sublist) (fun other mem => tagged other (mem_cons_of_mem _ mem))
        left later

def ids (instances : List AlertInstanceState) : List String := instances.map (·.instanceId)

theorem consume_ids (mem : id ∈ ids (consume fresh k existing alerts).1 ++ ids (consume fresh k existing alerts).2) :
    id ∈ ids existing ∨ ∃ n, k ≤ n ∧ id = fresh n := by
  rcases mem_append.mp mem with fired | left
  · obtain ⟨j, hm, rfl⟩ := mem_map.mp fired
    rcases mem_consume hm with ⟨i, known, _, same⟩ | ⟨n, after, drawn, _⟩
    · exact .inl (same.id ▸ mem_map_of_mem known)
    · exact .inr ⟨n, after, drawn⟩
  · exact .inl ((consume_remaining _ _ _ _).map _ |>.subset left)

theorem consume_nodup (k : Nat) (alerts : List ActiveAlert) (unique : (ids existing).Nodup)
    (injective : Function.Injective fresh) (unused : ∀ n, fresh n ∉ ids existing) :
    (ids (consume fresh k existing alerts).1 ++ ids (consume fresh k existing alerts).2).Nodup := by
  induction alerts generalizing k existing with
  | nil => exact unique
  | cons alert rest ih =>
    have fewer : (ids (existing.eraseP (·.continues alert))).Sublist (ids existing) := eraseP_sublist.map _
    refine nodup_cons.mpr ⟨?_, ih (k + 1) (unique.sublist fewer) fun n mem => unused n (fewer.subset mem)⟩
    intro again
    have seen := consume_ids again
    cases hit : existing.find? (·.continues alert) with
    | none =>
      rw [hit] at seen
      rcases seen with known | ⟨n, after, new⟩
      · exact unused k (fewer.subset known)
      · have eq : k = n := injective new
        omega
    | some i =>
      rw [hit] at seen
      change i.instanceId ∈ _ ∨ ∃ n, _ ∧ i.instanceId = _ at seen
      rcases seen with known | ⟨n, after, new⟩
      · obtain ⟨before, after, rfl, _, erased⟩ := eraseP_of_find hit
        rw [erased] at known
        simp only [ids, map_append, map_cons] at unique known
        exact (nodup_middle.mp unique).notMem known
      · exact unused n (new ▸ mem_map_of_mem (mem_of_find?_eq_some hit))

end Consume

section Reconcile
variable {metricOf : String → AlertMetric} {fresh : Nat → String} {existing : List AlertInstanceState}
  {alerts : List ActiveAlert} {isObserved : ActiveAlert → Bool} {i j : AlertInstanceState}

theorem mem_reconciled : j ∈ (reconcileInstances fresh existing alerts isObserved).1 ↔
      j ∈ (consume fresh 0 existing alerts).1 ∨ j ∈ (consume fresh 0 existing alerts).2 ∧ isObserved j.alert = false := by
  simp [reconcileInstances, mem_append, mem_filter]

theorem reconciled_kept (orderly : Orderly metricOf existing) (tagged : ∀ alert ∈ alerts, Tagged metricOf alert)
    (mem : i ∈ existing)
    (sustained : (∃ alert ∈ alerts, SameCondition i.alert alert) ∨ isObserved i.alert = false) :
    ∃ j ∈ (reconcileInstances fresh existing alerts isObserved).1, SameOccurrence i j := by
  rcases consume_conserves 0 mem with left | ⟨j, fired, same⟩
  · rcases sustained with ⟨alert, fired, goes_on⟩ | unobserved
    · exact absurd goes_on (consume_left orderly tagged left fired)
    · exact ⟨i, mem_reconciled.mpr (.inr ⟨left, unobserved⟩), .refl⟩
  · exact ⟨j, mem_reconciled.mpr (.inl fired), same⟩

theorem reconciled_origin (mem : j ∈ (reconcileInstances fresh existing alerts isObserved).1) :
    (∃ i ∈ existing, SameOccurrence i j) ∨
      j.alert ∈ alerts ∧ (∃ n, j.instanceId = fresh n) ∧ j.acknowledgedAt = none ∧ j.acknowledgedBy = none := by
  rcases mem_reconciled.mp mem with fired | ⟨left, _⟩
  · rcases mem_consume fired with ⟨i, known, _, same⟩ | ⟨n, _, drawn, unmarked⟩
    · exact .inl ⟨i, known, same⟩
    · exact .inr ⟨consumed_alert fired, ⟨n, drawn⟩, unmarked⟩
  · exact .inl ⟨j, (consume_remaining _ _ _ _).subset left, .refl⟩

theorem reconciled_fresh {fresh : Nat → String} {isObserved : ActiveAlert → Bool} (fired : alert ∈ alerts)
    (unknown : ∀ i ∈ existing, ¬SameCondition i.alert alert) :
    ∃ j ∈ (reconcileInstances fresh existing alerts isObserved).1,
      j.alert = alert ∧ (∃ n, j.instanceId = fresh n) ∧ j.acknowledgedAt = none ∧ j.acknowledgedBy = none := by
  have named : alert ∈ (consume fresh 0 existing alerts).1.map (·.alert) := by rwa [consume_alerts]
  obtain ⟨j, mem, rfl⟩ := mem_map.mp named
  refine ⟨j, mem_reconciled.mpr (.inl mem), rfl, ?_⟩
  rcases mem_consume mem with ⟨i, known, goes_on, _⟩ | ⟨n, _, drawn, unmarked⟩
  · exact absurd goes_on (unknown i known)
  · exact ⟨⟨n, drawn⟩, unmarked⟩

theorem reconciled_orderly (orderly : Orderly metricOf existing) (distinct : Distinct alerts)
    (tagged : ∀ alert ∈ alerts, Tagged metricOf alert) (injective : Function.Injective fresh)
    (unused : ∀ n, fresh n ∉ ids existing) :
    Orderly metricOf (reconcileInstances fresh existing alerts isObserved).1 := by
  have remaining := consume_remaining fresh 0 existing alerts
  refine ⟨?_, ?_, ?_⟩
  · have unique := consume_nodup 0 alerts orderly.ids injective unused
    rw [ids, ids, ← map_append] at unique
    exact unique.sublist ((filter_sublist.append_left _).map _)
  · intro j mem
    rcases mem_reconciled.mp mem with fired | ⟨left, _⟩
    · exact tagged _ (consumed_alert fired)
    · exact orderly.tagged j (remaining.subset left)
  · apply pairwise_append.mpr
    refine ⟨?_, orderly.apart.sublist (filter_sublist.trans remaining), ?_⟩
    · -- The fired alerts are distinct, so no two of their occurrences are of one rule and source.
      have apart : ((consume fresh 0 existing alerts).1.map (·.alert)).Pairwise fun a b =>
          (a.ruleId, a.source) ≠ (b.ruleId, b.source) := by
        rw [consume_alerts]
        exact pairwise_map.mp distinct
      refine (pairwise_map.mp apart).imp ?_
      intro i j different rule source
      exact absurd (Prod.ext rule source) different
    · intro j fired r left rule source
      have hm := (mem_filter.mp left).1
      have named := consumed_alert fired
      have stays := consume_left orderly tagged hm named
      have metric : r.alert.metric = j.alert.metric := by
        rw [orderly.tagged r (remaining.subset hm), tagged _ named, rule]
      by_cases backup : j.alert.metric = .backupFailure
      · refine ⟨metric.trans backup, ?_⟩
        intro eq
        exact stays ⟨rule.symm, source.symm, fun _ => eq.symm⟩
      · exact absurd ⟨rule.symm, source.symm, fun other => absurd other backup⟩ stays

end Reconcile

structure Ledger where
  service : AlertService
  issued : Set String

def Ledger.occurrences (s : Ledger) : List AlertInstanceState := s.service.state.activeInstances

def Ledger.rules (s : Ledger) : List AlertRule := s.service.state.rules

namespace AlertRequest

def drawn : AlertRequest → Set String
  | reconcile _ fresh _ _ => Set.range fresh
  | create .. | update .. | delete .. | acknowledge .. => ∅

def Evaluates (metricOf : String → AlertMetric) : AlertRequest → Ledger → Prop
  | reconcile _ fresh alerts _, s =>
    Distinct alerts ∧ (∀ alert ∈ alerts, Tagged metricOf alert) ∧ Function.Injective fresh ∧ ∀ n, fresh n ∉ s.issued
  | create .., _ | update .., _ | delete .., _ | acknowledge .., _ => True

end AlertRequest

def LedgerStep (metricOf : String → AlertMetric) (s : Ledger) (request : AlertRequest) (t : Ledger) : Prop :=
  request.Evaluates metricOf s ∧ t = ⟨(s.service.serve request).2, s.issued ∪ request.drawn⟩

structure Ledger.Sound (metricOf : String → AlertMetric) (s : Ledger) : Prop where
  orderly : Orderly metricOf s.occurrences
  issued : ∀ i ∈ s.occurrences, i.instanceId ∈ s.issued

structure Evaluated (alerts : List ActiveAlert) (isObserved : ActiveAlert → Bool) (s t : Ledger) : Prop where
  kept : ∀ i ∈ s.occurrences, isEnabled s.rules i.alert.ruleId →
    (∃ alert ∈ alerts, SameCondition i.alert alert) ∨ isObserved i.alert = false → ∃ j ∈ t.occurrences, SameOccurrence i j
  gone : ∀ i ∈ s.occurrences, i.instanceId ∉ ids t.occurrences → isEnabled s.rules i.alert.ruleId = false ∨
      isObserved i.alert = true ∧ ∀ alert ∈ alerts, ¬SameCondition i.alert alert
  fired : ∀ alert ∈ alerts, isEnabled s.rules alert.ruleId → (∀ i ∈ s.occurrences, ¬SameCondition i.alert alert) →
      ∃ j ∈ t.occurrences, j.alert = alert ∧ j.instanceId ∉ s.issued ∧ j.acknowledgedAt = none ∧ j.acknowledgedBy = none
  origin : ∀ j ∈ t.occurrences, (∃ i ∈ s.occurrences, SameOccurrence i j) ∨
    j.alert ∈ alerts ∧ j.instanceId ∉ s.issued ∧ j.acknowledgedAt = none ∧ j.acknowledgedBy = none

/-- An acknowledgement of `instanceId` between two moments of one occurrence: the first one stays. -/
structure Marked (instanceId : String) (i j : AlertInstanceState) : Prop where
  id : j.instanceId = i.instanceId
  alert : j.alert = i.alert
  at_ : i.acknowledgedAt.isSome → j.acknowledgedAt = i.acknowledgedAt
  by_ : i.acknowledgedBy.isSome → j.acknowledgedBy = i.acknowledgedBy
  other : i.instanceId ≠ instanceId → j = i

theorem Marked.refl {instanceId : String} (i : AlertInstanceState) : Marked instanceId i i :=
  ⟨rfl, rfl, fun _ => rfl, fun _ => rfl, fun _ => rfl⟩

def AlertRequest.Lawful : AlertRequest → Ledger → Ledger → Prop
  | .reconcile _ _ alerts isObserved, s, t => Evaluated alerts isObserved s t
  | .acknowledge _ _ instanceId _, s, t => List.Forall₂ (Marked instanceId) s.occurrences t.occurrences
  | .create .., s, t | .update .., s, t | .delete .., s, t => t.occurrences = s.occurrences

section Steps
variable {metricOf : String → AlertMetric} {s t : Ledger} {request : AlertRequest}

theorem reconcileActive_instances (saved : Except String Unit) (fresh : Nat → String) (alerts : List ActiveAlert)
    (isObserved : ActiveAlert → Bool) (s : AlertService) :
    (s.reconcileActive saved fresh alerts isObserved).2.state.activeInstances =
      (reconcileInstances fresh (s.state.activeInstances.filter (isEnabled s.state.rules ·.alert.ruleId))
        (alerts.filter (isEnabled s.state.rules ·.ruleId)) isObserved).1 := by
  simp only [AlertService.reconcileActive]
  split
  · rfl
  · cases saved <;> rfl

theorem reconcile_evaluated {saved : Except String Unit} {fresh : Nat → String} {alerts : List ActiveAlert}
    {isObserved : ActiveAlert → Bool} (sound : s.Sound metricOf)
    (step : LedgerStep metricOf s (.reconcile saved fresh alerts isObserved) t) :
    Evaluated alerts isObserved s t ∧ t.Sound metricOf := by
  obtain ⟨⟨distinct, tagged, injective, unused⟩, moved⟩ := step
  let known := s.occurrences.filter (isEnabled s.rules ·.alert.ruleId)
  let reported := alerts.filter (isEnabled s.rules ·.ruleId)
  have mem_known : ∀ i, i ∈ known ↔ i ∈ s.occurrences ∧ isEnabled s.rules i.alert.ruleId = true :=
    fun i => mem_filter
  have mem_reported : ∀ a, a ∈ reported ↔ a ∈ alerts ∧ isEnabled s.rules a.ruleId = true := fun a => mem_filter
  have after : t.occurrences = (reconcileInstances fresh known reported isObserved).1 := by
    rw [moved]
    exact reconcileActive_instances saved fresh alerts isObserved s.service
  have orderly : Orderly metricOf known := sound.orderly.sublist filter_sublist
  have tagged : ∀ a ∈ reported, Tagged metricOf a := fun a mem => tagged a ((mem_reported a).mp mem).1
  have kept : ∀ i ∈ s.occurrences, isEnabled s.rules i.alert.ruleId →
      (∃ alert ∈ alerts, SameCondition i.alert alert) ∨ isObserved i.alert = false →
        ∃ j ∈ t.occurrences, SameOccurrence i j := by
    intro i mem enabled sustained
    rw [after]
    apply reconciled_kept orderly tagged ((mem_known i).mpr ⟨mem, enabled⟩)
    apply sustained.imp_left
    rintro ⟨alert, fired, goes_on⟩
    exact ⟨alert, (mem_reported alert).mpr ⟨fired, goes_on.rule ▸ enabled⟩, goes_on⟩
  have new : ∀ {n : Nat} {id : String}, id = fresh n → id ∉ s.issued := fun {n _} drawn => drawn ▸ unused n
  refine ⟨⟨kept, ?_, ?_, ?_⟩, ?_, ?_⟩
  · intro i mem absent
    by_cases enabled : isEnabled s.rules i.alert.ruleId = true
    · have resolved : ¬((∃ alert ∈ alerts, SameCondition i.alert alert) ∨ isObserved i.alert = false) := by
        intro sustained
        obtain ⟨j, stored, same⟩ := kept i mem enabled sustained
        exact absent (same.id ▸ mem_map_of_mem stored)
      rw [not_or, Bool.not_eq_false] at resolved
      exact .inr ⟨resolved.2, fun alert fired goes_on => resolved.1 ⟨alert, fired, goes_on⟩⟩
    · exact .inl (Bool.eq_false_iff.mpr enabled)
  · intro alert fired enabled unknown
    obtain ⟨j, stored, about, ⟨n, drawn⟩, unmarked⟩ :=
      reconciled_fresh ((mem_reported alert).mpr ⟨fired, enabled⟩) fun i mem => unknown i ((mem_known i).mp mem).1
    exact ⟨j, after ▸ stored, about, new drawn, unmarked⟩
  · intro j stored
    rcases reconciled_origin (after ▸ stored) with ⟨i, mem, same⟩ | ⟨fired, ⟨n, drawn⟩, unmarked⟩
    · exact .inl ⟨i, ((mem_known i).mp mem).1, same⟩
    · exact .inr ⟨((mem_reported _).mp fired).1, new drawn, unmarked⟩
  · rw [after]
    apply reconciled_orderly orderly (distinct.sublist (filter_sublist.map _)) tagged injective
    intro n mem
    obtain ⟨i, stored, same⟩ := mem_map.mp mem
    exact unused n (same ▸ sound.issued i ((mem_known i).mp stored).1)
  · intro j stored
    have issued : t.issued = s.issued ∪ Set.range fresh := by
      rw [moved]
      rfl
    rw [issued]
    rcases reconciled_origin (after ▸ stored) with ⟨i, mem, same⟩ | ⟨_, ⟨n, drawn⟩, _⟩
    · exact .inl (same.id ▸ sound.issued i ((mem_known i).mp mem).1)
    · exact .inr ⟨n, drawn.symm⟩

theorem acknowledge_marked {username now : String} (i : AlertInstanceState) :
    Marked i.instanceId i (i.acknowledge username now) := by
  have first : ∀ (mark : Option String) (new : String), mark.isSome → some (mark.getD new) = mark
    | some _, _, _ => rfl
  exact ⟨rfl, rfl, first _ _, first _ _, fun ne => absurd rfl ne⟩

variable {after before : List AlertInstanceState} {instanceId : String} {requests : List AlertRequest}

theorem markAcknowledged_marks {instances : List AlertInstanceState} {username now : String}
    {acknowledgement : AlertAcknowledgement}
    (marked : markAcknowledged instances instanceId username now = .ok (acknowledgement, after)) :
    List.Forall₂ (Marked instanceId) instances after := by
  rw [markAcknowledged] at marked
  split at marked
  · cases marked
  · cases marked
    apply forall₂_replaceF .refl
    intro i j changed
    split at changed
    next named =>
      cases changed
      exact named ▸ acknowledge_marked i
    · cases changed

theorem acknowledge_marks {saved : Except String Unit} {now instanceId username : String} {s : AlertService} :
    List.Forall₂ (Marked instanceId) s.state.activeInstances
      (s.acknowledge saved now instanceId username).2.state.activeInstances := by
  have unchanged : List.Forall₂ (Marked instanceId) s.state.activeInstances s.state.activeInstances :=
    forall₂_same.mpr fun i _ => .refl i
  rw [AlertService.acknowledge]
  split
  · exact unchanged
  next marked =>
    cases saved with
    | ok _ => exact markAcknowledged_marks marked
    | error e => exact unchanged

theorem step_lawful (sound : s.Sound metricOf) (step : LedgerStep metricOf s request t) : request.Lawful s t := by
  cases request with
  | reconcile saved fresh alerts isObserved => exact (reconcile_evaluated sound step).1
  | acknowledge saved now instanceId username =>
    obtain ⟨_, rfl⟩ := step
    exact acknowledge_marks
  | create | update | delete =>
    obtain ⟨_, rfl⟩ := step
    simp only [AlertRequest.Lawful, Ledger.occurrences, AlertService.serve, AlertService.serve.failure,
      AlertService.createRule, AlertService.updateRule, AlertService.deleteRule]
    split
    · rfl
    · unfold AlertService.commit
      split <;> rfl

section
variable (marked : List.Forall₂ (Marked instanceId) before after)
include marked

theorem marked_map {α : Type} {f : AlertInstanceState → α} (same : ∀ {i j}, Marked instanceId i j → f j = f i) :
    after.map f = before.map f := by
  induction marked with
  | nil => rfl
  | cons one _ ih => exact congrArg₂ List.cons (same one) ih

theorem marked_mem (mem : i ∈ before) : ∃ j ∈ after, Marked instanceId i j := by
  induction marked with
  | nil => cases mem
  | cons one _ ih =>
    rcases mem_cons.mp mem with rfl | later
    · exact ⟨_, mem_cons_self, one⟩
    · obtain ⟨j, hm, marked⟩ := ih later
      exact ⟨j, mem_cons_of_mem _ hm, marked⟩

end

theorem orderly_of_eq (orderly : Orderly metricOf before)
    (same_ids : ids after = ids before) (same_alerts : after.map (·.alert) = before.map (·.alert)) :
    Orderly metricOf after := by
  have apart_iff (instances : List AlertInstanceState) : instances.Pairwise Apart ↔
      (instances.map (·.alert)).Pairwise fun a b => a.ruleId = b.ruleId → a.source = b.source →
        b.metric = .backupFailure ∧ a.message ≠ b.message := by
    rw [pairwise_map]
    rfl
  refine ⟨?_, ?_, ?_⟩
  · change (ids after).Nodup
    rw [same_ids]
    exact orderly.ids
  · intro j mem
    have named : j.alert ∈ before.map (·.alert) := same_alerts ▸ mem_map_of_mem mem
    obtain ⟨i, stored, eq⟩ := mem_map.mp named
    exact eq ▸ orderly.tagged i stored
  · rw [apart_iff, same_alerts, ← apart_iff]
    exact orderly.apart

theorem step_ids (lawful : request.Lawful s t) (stored : id ∈ ids t.occurrences) :
    id ∈ ids s.occurrences ∨ id ∉ s.issued := by
  cases request with
  | reconcile saved fresh alerts isObserved =>
    obtain ⟨j, mem, rfl⟩ := mem_map.mp stored
    rcases lawful.origin j mem with ⟨i, known, same⟩ | ⟨_, new, _⟩
    · exact .inl (same.id ▸ mem_map_of_mem known)
    · exact .inr new
  | acknowledge saved now instanceId username =>
    rw [ids, marked_map lawful (·.id)] at stored
    exact .inl stored
  | create | update | delete => exact .inl (lawful ▸ stored)

theorem sound_of_eq (sound : s.Sound metricOf) (same_ids : ids t.occurrences = ids s.occurrences)
    (same_alerts : t.occurrences.map (·.alert) = s.occurrences.map (·.alert)) (issued : s.issued ⊆ t.issued) :
    t.Sound metricOf := by
  refine ⟨orderly_of_eq sound.orderly same_ids same_alerts, ?_⟩
  intro j mem
  have named : j.instanceId ∈ ids s.occurrences := same_ids ▸ mem_map_of_mem mem
  obtain ⟨i, stored, eq⟩ := mem_map.mp named
  exact issued (eq ▸ sound.issued i stored)

theorem step_issued (step : LedgerStep metricOf s request t) : s.issued ⊆ t.issued := by
  obtain ⟨_, rfl⟩ := step
  exact Set.subset_union_left

theorem step_sound (sound : s.Sound metricOf) (step : LedgerStep metricOf s request t) : t.Sound metricOf := by
  have lawful := step_lawful sound step
  have issued := step_issued step
  cases request with
  | reconcile saved fresh alerts isObserved => exact (reconcile_evaluated sound step).2
  | acknowledge saved now instanceId username =>
    exact sound_of_eq sound (marked_map lawful (·.id)) (marked_map lawful (·.alert)) issued
  | create | update | delete => exact sound_of_eq sound (congrArg ids lawful) (congrArg _ lawful) issued

/-- The request does not resolve the occurrence `id`: its rule is enabled, and its condition fires or
could not be observed. -/
def AlertRequest.Sustains (id : String) : AlertRequest → Ledger → Prop
  | .reconcile _ _ alerts isObserved, s => ∀ i ∈ s.occurrences, i.instanceId = id →
    isEnabled s.rules i.alert.ruleId ∧ ((∃ alert ∈ alerts, SameCondition i.alert alert) ∨ isObserved i.alert = false)
  | .create .., _ | .update .., _ | .delete .., _ | .acknowledge .., _ => True

structure Retained (i j : AlertInstanceState) : Prop where
  id : j.instanceId = i.instanceId
  rule : j.alert.ruleId = i.alert.ruleId
  source : j.alert.source = i.alert.source
  at_ : i.acknowledgedAt.isSome → j.acknowledgedAt = i.acknowledgedAt
  by_ : i.acknowledgedBy.isSome → j.acknowledgedBy = i.acknowledgedBy

theorem Retained.refl {i : AlertInstanceState} : Retained i i := ⟨rfl, rfl, rfl, fun _ => rfl, fun _ => rfl⟩

theorem Retained.trans {k : AlertInstanceState} (first : Retained i j) (second : Retained j k) : Retained i k := by
  refine ⟨second.id.trans first.id, second.rule.trans first.rule, second.source.trans first.source, ?_, ?_⟩
  · intro marked
    have eq := first.at_ marked
    exact (second.at_ (eq ▸ marked)).trans eq
  · intro marked
    have eq := first.by_ marked
    exact (second.by_ (eq ▸ marked)).trans eq

theorem SameOccurrence.retained (same : SameOccurrence i j) : Retained i j :=
  ⟨same.id, same.rule, same.source, fun _ => same.at_, fun _ => same.by_⟩

theorem Marked.retained (marked : Marked instanceId i j) :
    Retained i j := ⟨marked.id, congrArg _ marked.alert, congrArg _ marked.alert, marked.at_, marked.by_⟩

theorem step_retains (lawful : request.Lawful s t) (stored : i ∈ s.occurrences)
    (sustains : request.Sustains i.instanceId s) : ∃ j ∈ t.occurrences, Retained i j := by
  cases request with
  | reconcile saved fresh alerts isObserved =>
    obtain ⟨enabled, sustained⟩ := sustains i stored rfl
    obtain ⟨j, mem, same⟩ := lawful.kept i stored enabled sustained
    exact ⟨j, mem, same.retained⟩
  | acknowledge saved now instanceId username =>
    obtain ⟨j, mem, marked⟩ := marked_mem lawful stored
    exact ⟨j, mem, marked.retained⟩
  | create | update | delete => exact ⟨i, lawful ▸ stored, .refl⟩

variable (sound : s.Sound metricOf)
include sound

theorem run_sound (ran : Run (LedgerStep metricOf) s requests t) : t.Sound metricOf :=
  ran.invariant sound fun _ _ _ sound step => step_sound sound step

theorem run_retains (stored : i ∈ s.occurrences)
    (ran : Run (fun s request t => LedgerStep metricOf s request t ∧ request.Sustains i.instanceId s) s requests t) :
    ∃ j ∈ t.occurrences, Retained i j := by
  have both : t.Sound metricOf ∧ ∃ j ∈ t.occurrences, Retained i j := by
    apply ran.invariant ⟨sound, i, stored, .refl⟩
    rintro s request t ⟨sound, j, mem, held⟩ ⟨step, sustains⟩
    refine ⟨step_sound sound step, ?_⟩
    obtain ⟨k, later, again⟩ := step_retains (step_lawful sound step) mem (held.id ▸ sustains)
    exact ⟨k, later, held.trans again⟩
  exact both.2

theorem run_never_reused (used : id ∈ s.issued)
    (absent : id ∉ ids s.occurrences) (ran : Run (LedgerStep metricOf) s requests t) : id ∉ ids t.occurrences := by
  have all : t.Sound metricOf ∧ id ∈ t.issued ∧ id ∉ ids t.occurrences := by
    apply ran.invariant ⟨sound, used, absent⟩
    rintro s request t ⟨sound, used, absent⟩ step
    refine ⟨step_sound sound step, step_issued step used, ?_⟩
    intro back
    exact (step_ids (step_lawful sound step) back).elim absent fun unused => unused used
  exact all.2.2

end Steps

/-- Occurrences have ids of their own that never come back, last while their alert does, and change only as the request
says. -/
theorem occurrence_lifecycle {metricOf : String → AlertMetric} {start s : Ledger} {requests : List AlertRequest}
    (sound : start.Sound metricOf) (ran : Run (LedgerStep metricOf) start requests s) :
    (ids s.occurrences).Nodup ∧ (∀ id ∈ s.issued, id ∉ ids s.occurrences → ∀ more t, Run (LedgerStep metricOf) s more t →
        id ∉ ids t.occurrences) ∧
      (∀ i ∈ s.occurrences, i.instanceId ∈ s.issued ∧ ∀ more t,
        Run (fun s request t => LedgerStep metricOf s request t ∧ request.Sustains i.instanceId s) s more t →
          ∃ j ∈ t.occurrences, Retained i j) ∧
      ∀ request t, LedgerStep metricOf s request t → request.Lawful s t := by
  have reached := run_sound sound ran
  refine ⟨reached.orderly.ids, ?_, ?_, ?_⟩
  · intro id used absent more t later
    exact run_never_reused reached used absent later
  · intro i stored
    exact ⟨reached.issued i stored, fun more t later => run_retains reached stored later⟩
  · intro request t step
    exact step_lawful reached step

def hotDisk : ActiveAlert :=
  ⟨"disk-temp-warn", "Disk temperature warning", .warning, .diskTemperature, "Disk sda temperature at 55°C", 55, 50,
    "sda"⟩

def longer (n : Nat) : String := String.ofList (List.replicate (n + 1) 'a')

theorem longer_injective : Function.Injective longer := by
  intro m n eq
  have lengths := congrArg List.length (String.ofList_injective eq)
  simpa using lengths

def firstRun : Ledger := ⟨.new (.ok ()) none, ∅⟩

theorem firstRun_sound : firstRun.Sound fun _ => .diskTemperature :=
  ⟨⟨nodup_nil, by simp [firstRun, Ledger.occurrences, AlertService.new, loadState], .nil⟩,
    by simp [firstRun, Ledger.occurrences, AlertService.new, loadState]⟩

def hotDiskRequest : AlertRequest := .reconcile (.ok ()) longer [hotDisk] fun _ => true

def hotDiskRun : Ledger := ⟨(firstRun.service.serve hotDiskRequest).2, ∅ ∪ Set.range longer⟩

theorem hotDisk_ran : Run (LedgerStep fun _ => .diskTemperature) firstRun [hotDiskRequest] hotDiskRun := by
  apply Run.snoc (Run.nil _)
  refine ⟨⟨nodup_singleton _, ?_, longer_injective, fun _ => Set.notMem_empty _⟩, rfl⟩
  intro alert fired
  rw [mem_singleton.mp fired]
  rfl

theorem occurrence_lifecycle_hotDisk : ids hotDiskRun.occurrences = ["a"] ∧ (ids hotDiskRun.occurrences).Nodup ∧
      (∀ id ∈ hotDiskRun.issued, id ∉ ids hotDiskRun.occurrences → ∀ more t,
        Run (LedgerStep fun _ => .diskTemperature) hotDiskRun more t → id ∉ ids t.occurrences) ∧
      (∀ i ∈ hotDiskRun.occurrences, i.instanceId ∈ hotDiskRun.issued ∧ ∀ more t,
        Run (fun s request t => LedgerStep (fun _ => .diskTemperature) s request t ∧
          request.Sustains i.instanceId s) hotDiskRun more t → ∃ j ∈ t.occurrences, Retained i j) ∧
      ∀ request t, LedgerStep (fun _ => .diskTemperature) hotDiskRun request t → request.Lawful hotDiskRun t :=
  ⟨by decide +kernel, occurrence_lifecycle firstRun_sound hotDisk_ran⟩

def failedBackup (metric : AlertMetric) (message : String) : ActiveAlert :=
  ⟨"backup-failure", "Backup failed", .warning, metric, message, 1, 1, "photos"⟩

/-- A failed backup that fails otherwise is a new occurrence, although its rule fires about the same source;
and once a rule id stands for another metric, an occurrence may go while its condition fires. -/
theorem occurrence_replaced :
    (let first := (reconcileInstances longer [] [failedBackup .backupFailure "no route"] fun _ => true).1
     let second := (reconcileInstances (longer ∘ (· + 1)) first [failedBackup .backupFailure "disk full"]
       fun _ => true).1
     ids first = ["a"] ∧ ids second = ["aa"]) ∧
    (let first := (reconcileInstances longer [] [failedBackup .backupFailure "no route"] fun _ => false).1
     let second := (reconcileInstances (longer ∘ (· + 1)) first [failedBackup .backupFailure "disk full"]
       fun _ => false).1
     let third := (reconcileInstances (longer ∘ (· + 2)) second [failedBackup .smartHealth "no route"]
       fun _ => false).1
     let fourth := (reconcileInstances (longer ∘ (· + 3)) third [failedBackup .backupFailure "no route"]
       fun _ => true).1
     ids third = ["aa", "a"] ∧ ids fourth = ["aa"]) := by
  decide +kernel

end NastyEngine.Alerts
