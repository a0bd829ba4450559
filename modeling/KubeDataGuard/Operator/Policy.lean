import KubeDataGuard.Operator.Objects

/-!
# Repair policies

The search for a policy that lets the operator repair an Invariant by itself,
and the repair mode it allows.
-/

namespace KubeDataGuard

def annotationAllowUnsafeReindex : String := "dataguard.io/allow-unsafe-direct-reindex"

/-- `action["type"].(string)`, empty when it is no text. -/
def actionType (action : Fields) : String := (stringField action "type").getD ""

/-- The repair mode of an action type; empty for one that is not executed. -/
def repairModeForAction (actionType : String) (policy : Unstructured) : String :=
  match actionType with
  | "emit-reconcile-events" => "emit-reconcile-events"
  | "replay-kafka" => "replay-kafka"
  | "call-webhook" => "call-webhook"
  | "invalidate-cache" => "invalidate-cache"
  | "clickhouse-backfill" => "clickhouse-backfill"
  | "reindex-records" =>
    if policy.annotation annotationAllowUnsafeReindex = "true" then "direct-reindex" else ""
  | _ => ""

/-- The mode of one entry of `spec.actions`; an entry that is no object has none. -/
def entryMode (policy : Unstructured) : Json → String
  | .obj action => repairModeForAction (actionType action) policy
  | _ => ""

/-- The loop over the actions: the first mode there is. -/
def firstMode (policy : Unstructured) : List Json → Option String
  | [] => none
  | raw :: actions =>
    if entryMode policy raw = "" then firstMode policy actions else some (entryMode policy raw)

def repairPolicyAutoRepairMode (policy : Unstructured) : Except Error (Option String) :=
  match readError ("RepairPolicy " ++ policy.name ++ " spec.approvalRequired")
      (nestedBool policy.object ["spec", "approvalRequired"]) with
  | .error e => .error e
  | .ok (some true) => .ok none
  | .ok _ =>
    match readError ("RepairPolicy " ++ policy.name ++ " spec.actions")
        (nestedSlice policy.object ["spec", "actions"]) with
    | .error e => .error e
    | .ok none => .ok none
    | .ok (some actions) => .ok (firstMode policy actions)

def repairPolicyAllowsAutoReindex (policy : Unstructured) : Except Error Bool :=
  match repairPolicyAutoRepairMode policy with
  | .error e => .error e
  | .ok mode => .ok (decide (mode = some "direct-reindex"))

/-- `spec.invariantRef`, empty when absent. -/
def policyInvariantRef (policy : Unstructured) : Except Error String :=
  (nestedString policy.object ["spec", "invariantRef"]).map (·.getD "")

/-- The search over the policies of the namespace. -/
def findAutoRepairPolicy (invariant : Unstructured) :
    List Unstructured → Except Error (Option (Unstructured × String))
  | [] => .ok none
  | policy :: policies =>
    match readError ("RepairPolicy " ++ policy.name ++ " spec.invariantRef")
        (policyInvariantRef policy) with
    | .error e => .error e
    | .ok invariantRef =>
      if invariantRef ≠ invariant.name then findAutoRepairPolicy invariant policies
      else
        match repairPolicyAutoRepairMode policy with
        | .error e => .error e
        | .ok (some mode) => .ok (some (policy, mode))
        | .ok none => findAutoRepairPolicy invariant policies

def numberLikeString : Option Json → Option String
  | some (.int n) => some (toString n)
  | some (.float q) => some (toString (truncate64 q))
  | some (.str s) => if s = "" then none else some s
  | _ => none

def actionEnv (action : Fields) : List EnvVar :=
  let text := fun key name =>
    match stringField action key with
    | some value => if value = "" then [] else [EnvVar.mk name (.value value)]
    | none => []
  text "endpoint" "REPAIR_WEBHOOK_URL" ++ text "topic" "REPAIR_KAFKA_TOPIC" ++
    text "keyTemplate" "REDIS_KEY_TEMPLATE" ++ text "table" "CLICKHOUSE_BACKFILL_TABLE" ++
    match numberLikeString (action.get? "batchSize") with
    | some batchSize => [⟨"REPAIR_WEBHOOK_BATCH_SIZE", .value batchSize⟩]
    | none => []

/-- The settings of the first action with the mode. -/
def repairPolicyEnv (policy : Unstructured) (repairMode : String) : List EnvVar :=
  match nestedSlice policy.object ["spec", "actions"] with
  | .ok (some actions) =>
    match actions.find? fun raw => match raw with
      | .obj _ => entryMode policy raw == repairMode
      | _ => false with
    | some (.obj action) => actionEnv action
    | _ => []
  | _ => []

/-- What the API server stores of a policy: an absent `approvalRequired` is
filled with the default, and one that is no boolean is refused. -/
def admitRepairPolicy (policy : Unstructured) : Option Unstructured :=
  match policy.object.get? "spec" with
  | none | some .null => some policy
  | some (.obj spec) =>
    match Fields.get? spec "approvalRequired" with
    | some (.bool _) => some policy
    | none | some .null =>
      some { policy with
        object := policy.object.set "spec" (.obj (Fields.set spec "approvalRequired" (.bool true))) }
    | some _ => none
  | some _ => none

/-! ## What allows a repair -/

/-- Only the annotation unfences the direct write. -/
theorem repairModeForAction_direct {actionType : String} {policy : Unstructured}
    (h : repairModeForAction actionType policy = "direct-reindex") :
    policy.annotation annotationAllowUnsafeReindex = "true" := by
  unfold repairModeForAction at h
  split at h
  case h_6 =>
    split at h
    · assumption
    · exact absurd h (by decide)
  all_goals exact absurd h (by decide)

/-- A policy that lets the operator repair an Invariant in a mode: it names the
Invariant, wants no approval, and the mode is that of its first executable action. -/
structure Allows (policy : Unstructured) (invariantName mode : String) : Prop where
  invariantRef : policyInvariantRef policy = .ok invariantName
  approvalRequired : nestedBool policy.object ["spec", "approvalRequired"] = .ok (some false)
  action : ∃ before action after,
    nestedSlice policy.object ["spec", "actions"] = .ok (some (before ++ .obj action :: after)) ∧
    (∀ raw ∈ before, entryMode policy raw = "") ∧
    repairModeForAction (actionType action) policy = mode ∧ mode ≠ ""

theorem firstMode_some {policy : Unstructured} {actions : List Json} {mode : String}
    (h : firstMode policy actions = some mode) :
    ∃ before action after, actions = before ++ .obj action :: after ∧
      (∀ raw ∈ before, entryMode policy raw = "") ∧
      repairModeForAction (actionType action) policy = mode ∧ mode ≠ "" := by
  induction actions with
  | nil => cases h
  | cons raw actions ih =>
    unfold firstMode at h
    split at h
    · rename_i skipped
      obtain ⟨before, action, after, rfl, hbefore, found⟩ := ih h
      refine ⟨raw :: before, action, after, rfl, ?_, found⟩
      intro raw' hraw
      obtain rfl | hraw := List.mem_cons.mp hraw
      · exact skipped
      · exact hbefore raw' hraw
    · rename_i executable
      cases raw with
      | obj action =>
        refine ⟨[], action, actions, rfl, nofun, Option.some.inj h, ?_⟩
        rw [← Option.some.inj h]
        exact executable
      | _ => exact absurd rfl executable

theorem firstMode_none {policy : Unstructured} {actions : List Json} :
    firstMode policy actions = none ↔ ∀ raw ∈ actions, entryMode policy raw = "" := by
  induction actions with
  | nil => simp [firstMode]
  | cons raw actions ih =>
    rw [firstMode, List.forall_mem_cons]
    split
    · rename_i skipped
      rw [ih]
      exact ⟨fun h => ⟨skipped, h⟩, fun h => h.2⟩
    · rename_i executable
      exact ⟨nofun, fun h => absurd h.1 executable⟩

theorem repairPolicyAutoRepairMode_some {policy : Unstructured} {mode : String}
    (h : repairPolicyAutoRepairMode policy = .ok (some mode)) :
    nestedBool policy.object ["spec", "approvalRequired"] ≠ .ok (some true) ∧
      ∃ actions, nestedSlice policy.object ["spec", "actions"] = .ok (some actions) ∧
        firstMode policy actions = some mode := by
  unfold repairPolicyAutoRepairMode at h
  cases hbool : nestedBool policy.object ["spec", "approvalRequired"] with
  | error e =>
    rw [hbool] at h
    cases h
  | ok approval =>
    cases hslice : nestedSlice policy.object ["spec", "actions"] with
    | error e =>
      rw [hbool, hslice] at h
      cases approval with
      | none => cases h
      | some b => cases b <;> cases h
    | ok actions =>
      rw [hbool, hslice] at h
      cases approval with
      | some b =>
        cases b with
        | true => cases h
        | false =>
          cases actions with
          | none => cases h
          | some actions => exact ⟨by simp, actions, rfl, Except.ok.inj h⟩
      | none =>
        cases actions with
        | none => cases h
        | some actions => exact ⟨by simp, actions, rfl, Except.ok.inj h⟩

/-- A slice found under `spec` makes `spec` an object. -/
theorem spec_of_slice {object : Fields} {key : String} {items : List Json}
    (h : nestedSlice object ["spec", key] = .ok (some items)) :
    ∃ spec, object.get? "spec" = some (.obj spec) := by
  unfold nestedSlice nestedAs at h
  cases hspec : Fields.get? object "spec" with
  | none => simp [nestedField, hspec] at h
  | some value =>
    cases value with
    | obj spec => exact ⟨spec, rfl⟩
    | _ => simp [nestedField, hspec] at h

/-- Once admitted, a policy with a `spec` says whether it wants approval. -/
theorem admitted_approval {raw policy : Unstructured} (h : admitRepairPolicy raw = some policy)
    {spec : Fields} (hspec : policy.object.get? "spec" = some (.obj spec)) :
    ∃ b, nestedBool policy.object ["spec", "approvalRequired"] = .ok (some b) := by
  have read : ∀ {b}, Fields.get? spec "approvalRequired" = some (.bool b) →
      nestedBool policy.object ["spec", "approvalRequired"] = .ok (some b) := by
    intro b hb
    simp [nestedBool, nestedAs, nestedField, hspec, hb]
  have defaulted : ∀ {m}, raw.object.get? "spec" = some (.obj m) →
      some { raw with
        object := raw.object.set "spec" (.obj (Fields.set m "approvalRequired" (.bool true))) } =
        some policy → Fields.get? spec "approvalRequired" = some (.bool true) := by
    intro m _ h
    rw [← Option.some.inj h, Fields.get?_set_self] at hspec
    cases hspec
    exact Fields.get?_set_self _ _ _
  unfold admitRepairPolicy at h
  split at h
  · rename_i absent
    rw [Option.some.inj h, hspec] at absent
    cases absent
  · rename_i null
    rw [Option.some.inj h, hspec] at null
    cases null
  · rename_i m hm
    split at h
    · rename_i b hb
      rw [Option.some.inj h, hspec] at hm
      cases hm
      exact ⟨b, read hb⟩
    · exact ⟨true, read (defaulted hm h)⟩
    · exact ⟨true, read (defaulted hm h)⟩
    · cases h
  · cases h

/-- The search passes over a policy for another Invariant or without a mode. -/
def Skipped (invariant p : Unstructured) : Prop :=
  policyInvariantRef p ≠ .ok invariant.name ∨ repairPolicyAutoRepairMode p = .ok none

theorem findAutoRepairPolicy_found {invariant policy : Unstructured} {policies : List Unstructured}
    {mode : String} (h : findAutoRepairPolicy invariant policies = .ok (some (policy, mode))) :
    ∃ before after, policies = before ++ policy :: after ∧ (∀ p ∈ before, Skipped invariant p) ∧
      policyInvariantRef policy = .ok invariant.name ∧
      repairPolicyAutoRepairMode policy = .ok (some mode) := by
  induction policies with
  | nil => cases h
  | cons p policies ih =>
    unfold findAutoRepairPolicy at h
    have skip : findAutoRepairPolicy invariant policies = .ok (some (policy, mode)) →
        Skipped invariant p → ∃ before after, p :: policies = before ++ policy :: after ∧
          (∀ p ∈ before, Skipped invariant p) ∧ policyInvariantRef policy = .ok invariant.name ∧
          repairPolicyAutoRepairMode policy = .ok (some mode) := by
      intro h passed
      obtain ⟨before, after, rfl, hbefore, found⟩ := ih h
      exact ⟨p :: before, after, rfl, List.forall_mem_cons.mpr ⟨passed, hbefore⟩, found⟩
    cases href : policyInvariantRef p with
    | error e =>
      rw [href] at h
      cases h
    | ok invariantRef =>
      simp only [href, readError] at h
      split at h
      · rename_i other
        refine skip h (Or.inl ?_)
        rw [href]
        exact fun same => other (Except.ok.inj same)
      · rename_i same
        rw [ne_eq, not_not] at same
        split at h
        · cases h
        · rename_i mode' hmode
          cases h
          exact ⟨[], policies, rfl, nofun, by rw [href, same], hmode⟩
        · rename_i hmode
          exact skip h (Or.inr hmode)

/-- The search finds the first policy that allows a repair, and its mode. -/
theorem findAutoRepairPolicy_allows {invariant policy : Unstructured} {policies : List Unstructured}
    {mode : String} (admitted : ∀ p ∈ policies, ∃ raw, admitRepairPolicy raw = some p)
    (h : findAutoRepairPolicy invariant policies = .ok (some (policy, mode))) :
    ∃ before after, policies = before ++ policy :: after ∧ Allows policy invariant.name mode ∧
      ∀ p ∈ before, ∀ m, ¬Allows p invariant.name m := by
  obtain ⟨before, after, rfl, hbefore, href, hmode⟩ := findAutoRepairPolicy_found h
  obtain ⟨unapproved, actions, hactions, hfirst⟩ := repairPolicyAutoRepairMode_some hmode
  refine ⟨before, after, rfl, ⟨href, ?_, ?_⟩, ?_⟩
  · obtain ⟨spec, hspec⟩ := spec_of_slice hactions
    obtain ⟨raw, hraw⟩ := admitted policy (by simp)
    obtain ⟨b, hb⟩ := admitted_approval hraw hspec
    cases b with
    | false => exact hb
    | true => exact absurd hb unapproved
  · obtain ⟨skipped, action, rest, rfl, found⟩ := firstMode_some hfirst
    exact ⟨skipped, action, rest, hactions, found⟩
  · intro p hp m allows
    obtain other | none := hbefore p hp
    · exact other allows.invariantRef
    · obtain ⟨skipped, action, rest, hslice, -, hentry, executable⟩ := allows.action
      unfold repairPolicyAutoRepairMode at none
      rw [allows.approvalRequired, hslice] at none
      have hnone : firstMode p (skipped ++ .obj action :: rest) = Option.none := Except.ok.inj none
      have hskip := firstMode_none.mp hnone (.obj action) (by simp)
      rw [entryMode, hentry] at hskip
      exact executable hskip

end KubeDataGuard
