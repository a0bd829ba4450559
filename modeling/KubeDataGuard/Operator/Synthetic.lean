import KubeDataGuard.Operator.Branches

/-!
# Synthetic statuses

Without a checker an Invariant's status is made from an annotation. The mode is
an annotation as well: a status of one mode may be there when a pass of the
other comes.
-/

namespace KubeDataGuard

def annotationSyntheticDriftCount : String := "dataguard.io/synthetic-drift-count"

/-- An empty annotation counts as absent. -/
def syntheticDriftCount (invariant : Unstructured) : Except Error Int :=
  let raw := invariant.annotation annotationSyntheticDriftCount
  if raw = "" then .ok 0
  else
    match parseInt64 raw with
    | none => .error (.because ("parse " ++ annotationSyntheticDriftCount) (.message "ParseInt"))
    | some value =>
      if value < 0 then .error (.message (annotationSyntheticDriftCount ++ " must be non-negative"))
      else .ok value

def buildSyntheticInvariantStatus (invariant : Unstructured) (now : Int) : Except Error Fields := do
  let driftCount ← syntheticDriftCount invariant
  let maxLag ← maxLagSeconds invariant
  let type ← readError "spec.type" (nestedString invariant.object ["spec", "type"])
  let phase := if 0 < driftCount then Phase.driftDetected else .healthy
  let checkedAt := rfc3339 (unix now)
  return [
    ("healthy", .bool (decide (driftCount = 0))), ("phase", .str phase.text),
    ("guarantee", .str (guaranteeForInvariantType (type.getD ""))),
    ("checkStatus", .str CheckStatus.complete.text), ("driftCount", .int driftCount),
    ("counterexampleCount", .int driftCount), ("checkedRecords", .int 0),
    ("lastCheckedAt", .str checkedAt),
    ("observationWindow", .obj [
      ("checkedAt", .str checkedAt), ("targetReadAt", .str checkedAt),
      ("maxLagSeconds", .int maxLag),
      ("eligibleRecordsBefore", .str (rfc3339 (unix (now + durationSeconds (-maxLag))))),
      ("sourceWatermark", .str checkedAt), ("streamTopic", .str (streamTopic invariant)),
      ("streamOffsetStart", .int 1), ("streamOffsetEnd", .int 0),
      ("completeness", .str CheckStatus.complete.text)]),
    ("reportRef", .str ("synthetic://" ++ invariant.ns ++ "/" ++ invariant.name)),
    ("observedGeneration", .int invariant.generation)]

/-- `Reconcile`, of an Invariant that is there. -/
def reconcile (c : Cluster) (invariant : Unstructured) : Outcome :=
  if checkerMode invariant = "job" then reconcileJobBackedInvariant c invariant
  else
    match buildSyntheticInvariantStatus invariant c.now with
    | .error e => .fail e
    | .ok status => ⟨[.patchStatus .built status], .ok none⟩

/-! ## What a synthetic status says -/

/-- The status says what the annotation says, in what a pass compares of a report. -/
structure Tells (invariant : Unstructured) (driftCount : Int) (status : Fields) : Prop where
  counted : int64Field status "driftCount" = some driftCount
  counterexamples : int64Field status "counterexampleCount" = some driftCount
  generation : int64Field status "observedGeneration" = some invariant.generation
  unscheduled : int64Field status "checkIntervalSeconds" = none
  phase : stringField status "phase" =
    some (if 0 < driftCount then Phase.driftDetected else .healthy).text
  checkStatus : stringField status "checkStatus" = some CheckStatus.complete.text
  guarantee : stringField status "guarantee" =
    some (guaranteeForInvariantType (invariantType invariant))
  reason : stringField status "reason" = none
  repairAction : stringField status "repairAction" = none
  health : boolField status "healthy" = some (decide (driftCount = 0))

section Built

variable {invariant : Unstructured} {now : Int} {status : Fields}

/-- No annotation counts less than nothing. -/
theorem syntheticDriftCount_nonneg {driftCount : Int}
    (h : syntheticDriftCount invariant = .ok driftCount) : 0 ≤ driftCount := by
  unfold syntheticDriftCount at h
  simp only at h
  split at h
  · exact (Except.ok.inj h).le
  split at h
  · cases h
  split at h
  · cases h
  · rename_i value _ counted
    rw [← Except.ok.inj h]
    exact not_lt.mp counted

/-- A type that can be read is the one a status shows. -/
theorem readType_ok {type : Option String}
    (h : readError "spec.type" (nestedString invariant.object ["spec", "type"]) = .ok type) :
    type.getD "" = invariantType invariant := by
  unfold invariantType nestedStringOrEmpty
  cases read : nestedString invariant.object ["spec", "type"] with
  | error e =>
    rw [read] at h
    cases h
  | ok found =>
    rw [read] at h
    rw [← Except.ok.inj h]
    cases found <;> rfl

/-- What a status made without a checker holds of what a pass compares. -/
theorem buildSyntheticInvariantStatus_tells
    (h : buildSyntheticInvariantStatus invariant now = .ok status) :
    ∃ driftCount, syntheticDriftCount invariant = .ok driftCount ∧
      Tells invariant driftCount status := by
  unfold buildSyntheticInvariantStatus at h
  cases counted : syntheticDriftCount invariant with
  | error e =>
    rw [counted] at h
    cases h
  | ok driftCount =>
    rw [counted] at h
    cases lag : maxLagSeconds invariant with
    | error e =>
      rw [lag] at h
      cases h
    | ok maxLag =>
      rw [lag] at h
      cases type : readError "spec.type" (nestedString invariant.object ["spec", "type"]) with
      | error e =>
        rw [type] at h
        cases h
      | ok type' =>
        rw [type] at h
        rw [← Except.ok.inj h]
        refine ⟨driftCount, rfl, ⟨rfl, rfl, rfl, rfl, rfl, rfl, ?_, rfl, rfl, rfl⟩⟩
        rw [← readType_ok type]
        rfl

end Built

end KubeDataGuard
