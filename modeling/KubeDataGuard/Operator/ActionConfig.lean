import KubeDataGuard.Operator.Policy
import KubeDataGuard.Operator.Settings

/-!
# The action a repair is configured by

One scan of a policy's actions selects the repair mode, by a table of its own;
another finds the action whose settings the repair Job gets. Both stop at the
same action.
-/

namespace KubeDataGuard

/-! ## The two scans -/

/-- The `switch` of the first scan; `none` goes on to the next action. -/
def autoRepairSwitch (policy : Unstructured) (action : Fields) : Option String :=
  match actionType action with
  | "emit-reconcile-events" => some "emit-reconcile-events"
  | "replay-kafka" => some "replay-kafka"
  | "call-webhook" => some "call-webhook"
  | "invalidate-cache" => some "invalidate-cache"
  | "clickhouse-backfill" => some "clickhouse-backfill"
  | "reindex-records" =>
    if policy.annotation annotationAllowUnsafeReindex = "true" then some "direct-reindex" else none
  | _ => none

def autoRepairScan (policy : Unstructured) : List Json → Option String
  | [] => none
  | .obj action :: actions =>
    match autoRepairSwitch policy action with
    | some mode => some mode
    | none => autoRepairScan policy actions
  | _ :: actions => autoRepairScan policy actions

def repairEnvScan (policy : Unstructured) (repairMode : String) : List Json → List EnvVar
  | [] => []
  | .obj action :: actions =>
    if repairModeForAction (actionType action) policy ≠ repairMode then
      repairEnvScan policy repairMode actions
    else actionEnv action
  | _ :: actions => repairEnvScan policy repairMode actions

/-- The two tables say the same of an action. -/
theorem autoRepairSwitch_eq (policy : Unstructured) (action : Fields) :
    autoRepairSwitch policy action =
      if repairModeForAction (actionType action) policy = "" then none
      else some (repairModeForAction (actionType action) policy) := by
  unfold autoRepairSwitch repairModeForAction
  generalize actionType action = type
  by_cases unfenced : policy.annotation annotationAllowUnsafeReindex = "true" <;>
    split <;> simp [unfenced]

theorem autoRepairScan_eq (policy : Unstructured) (actions : List Json) :
    autoRepairScan policy actions = firstMode policy actions := by
  induction actions with
  | nil => rfl
  | cons raw actions ih =>
    rw [firstMode]
    cases raw with
    | obj action =>
      rw [autoRepairScan, autoRepairSwitch_eq, entryMode]
      by_cases skipped : repairModeForAction (actionType action) policy = ""
      · rw [if_pos skipped, if_pos skipped]
        exact ih
      · rw [if_neg skipped, if_neg skipped]
    | _ => exact ih

theorem repairEnvScan_eq {policy : Unstructured} {actions : List Json}
    (held : nestedSlice policy.object ["spec", "actions"] = .ok (some actions)) (mode : String) :
    repairPolicyEnv policy mode = repairEnvScan policy mode actions := by
  unfold repairPolicyEnv
  rw [held]
  simp only
  clear held
  induction actions with
  | nil => rfl
  | cons raw actions ih =>
    cases raw with
    | obj action =>
      rw [repairEnvScan, List.find?_cons]
      by_cases same : repairModeForAction (actionType action) policy = mode
      · have hit : (entryMode policy (.obj action) == mode) = true := beq_iff_eq.mpr same
        simp only [hit, same, ne_eq, not_true_eq_false, if_false]
      · have miss : (entryMode policy (.obj action) == mode) = false := beq_false_of_ne same
        rw [if_pos same, ← ih]
        simp only [miss]
    | _ => exact ih

/-- The first scan stops at the first action with a mode. -/
theorem autoRepairScan_some {policy : Unstructured} {actions : List Json} {mode : String}
    (h : autoRepairScan policy actions = some mode) :
    ∃ before action after, actions = before ++ .obj action :: after ∧
      (∀ skipped, .obj skipped ∈ before → repairModeForAction (actionType skipped) policy = "") ∧
      repairModeForAction (actionType action) policy = mode ∧ mode ≠ "" := by
  rw [autoRepairScan_eq] at h
  obtain ⟨before, action, after, split, skips, found⟩ := firstMode_some h
  exact ⟨before, action, after, split, fun skipped mem => skips (.obj skipped) mem, found⟩

/-- The second scan passes over what the first one passed over. -/
theorem repairEnvScan_append {policy : Unstructured} {mode : String} {before : List Json}
    (executable : mode ≠ "")
    (skips : ∀ skipped, .obj skipped ∈ before →
      repairModeForAction (actionType skipped) policy = "") (rest : List Json) :
    repairEnvScan policy mode (before ++ rest) = repairEnvScan policy mode rest := by
  induction before with
  | nil => rfl
  | cons raw before ih =>
    have later := ih fun skipped mem => skips skipped (List.mem_cons_of_mem _ mem)
    cases raw with
    | obj action =>
      have other : repairModeForAction (actionType action) policy ≠ mode := by
        rw [skips action List.mem_cons_self]
        exact executable.symm
      rw [List.cons_append, repairEnvScan, if_pos other, later]
    | _ => exact later

/-! ## The settings of an action -/

/-- The text of a field, if there is one that is not empty. -/
def fieldText (key : String) (action : Fields) : Option EnvSource :=
  ((stringField action key).filter fun value => value ≠ "").map .value

/-- An integer as it is, another number without its decimals, and a text that is not empty. -/
def batchSizeText (action : Fields) : Option EnvSource :=
  match action.get? "batchSize" with
  | some (.int n) => some (.value (toString n))
  | some (.float q) => some (.value (toString (truncate64 q)))
  | some (.str text) => if text = "" then none else some (.value text)
  | _ => none

/-- The variables of a repair Job, each with what it reads of the action. -/
def actionSettings : Settings Fields :=
  [("REPAIR_WEBHOOK_URL", fieldText "endpoint"), ("REPAIR_KAFKA_TOPIC", fieldText "topic"),
    ("REDIS_KEY_TEMPLATE", fieldText "keyTemplate"),
    ("CLICKHOUSE_BACKFILL_TABLE", fieldText "table"),
    ("REPAIR_WEBHOOK_BATCH_SIZE", batchSizeText)]

theorem fieldText_env (action : Fields) (key name : String) :
    (match stringField action key with
      | some value => if value = "" then [] else [EnvVar.mk name (.value value)]
      | none => []) = ((fieldText key action).map (EnvVar.mk name)).toList := by
  unfold fieldText
  cases stringField action key with
  | none => rfl
  | some value => by_cases empty : value = "" <;> simp [Option.filter, empty]

theorem batchSizeText_env (action : Fields) (name : String) :
    (match numberLikeString (action.get? "batchSize") with
      | some batchSize => [EnvVar.mk name (.value batchSize)]
      | none => []) = ((batchSizeText action).map (EnvVar.mk name)).toList := by
  unfold batchSizeText
  cases action.get? "batchSize" with
  | none => rfl
  | some value =>
    cases value with
    | str text => by_cases empty : text = "" <;> simp [numberLikeString, empty]
    | _ => rfl

theorem actionEnv_settings (action : Fields) : actionEnv action = actionSettings.env action := by
  rw [Settings.env_flatMap]
  unfold actionEnv actionSettings
  simp only [List.flatMap_cons, List.flatMap_nil, List.append_nil, List.append_assoc]
  refine congrArg₂ (· ++ ·) (fieldText_env action "endpoint" _) ?_
  refine congrArg₂ (· ++ ·) (fieldText_env action "topic" _) ?_
  refine congrArg₂ (· ++ ·) (fieldText_env action "keyTemplate" _) ?_
  exact congrArg₂ (· ++ ·) (fieldText_env action "table" _) (batchSizeText_env action _)

/-! ## Mode and configuration -/

/-- The action a repair in a mode is for: the first one with a mode has it, and the Job gets the
settings of that action. -/
structure ConfiguredBy (policy : Unstructured) (mode : String) (before : List Json)
    (action : Fields) : Prop where
  skipped : ∀ other, .obj other ∈ before → repairModeForAction (actionType other) policy = ""
  executable : repairModeForAction (actionType action) policy ≠ ""
  selected : repairModeForAction (actionType action) policy = mode
  settings : repairPolicyEnv policy mode = actionSettings.env action
  once : ((repairPolicyEnv policy mode).map EnvVar.name).Nodup

/-- A policy that allows a mode configures it by its first action with a mode. -/
theorem auto_repair_configured {policy : Unstructured} {mode : String}
    (allowed : repairPolicyAutoRepairMode policy = .ok (some mode)) :
    ∃ before action after, nestedSlice policy.object ["spec", "actions"] =
        .ok (some (before ++ .obj action :: after)) ∧
      autoRepairScan policy (before ++ .obj action :: after) = some mode ∧
      ConfiguredBy policy mode before action := by
  obtain ⟨-, actions, held, first⟩ := repairPolicyAutoRepairMode_some allowed
  rw [← autoRepairScan_eq] at first
  obtain ⟨before, action, after, rfl, skips, found, executable⟩ := autoRepairScan_some first
  have settings : repairPolicyEnv policy mode = actionSettings.env action := by
    rw [repairEnvScan_eq held, repairEnvScan_append executable skips, repairEnvScan, found,
      if_neg (not_not.mpr rfl), actionEnv_settings]
  refine ⟨before, action, after, held, first, skips, ?_, found, settings, ?_⟩
  · rw [found]
    exact executable
  · rw [settings]
    exact List.Nodup.sublist (actionSettings.env_names action) (by decide)

/-- A policy of an entry that is no object, an unknown and a fenced action, and two webhooks. -/
def webhooksPolicy : Unstructured where
  ns := "default"
  name := "notify-orders"
  uid := 0
  generation := 1
  annotations := []
  object := [("spec", .obj [("approvalRequired", .bool false),
    ("actions", .arr [.str "call-webhook", .obj [("type", .str "page-owner")],
      .obj [("type", .str "reindex-records"), ("endpoint", .str "http://index")],
      .obj [("type", .str "call-webhook"), ("endpoint", .str "http://first"), ("batchSize", .int 50)],
      .obj [("type", .str "call-webhook"), ("endpoint", .str "http://second")]])])]

theorem auto_repair_configured_webhooks :
    ∃ before action after, nestedSlice webhooksPolicy.object ["spec", "actions"] =
        .ok (some (before ++ .obj action :: after)) ∧
      autoRepairScan webhooksPolicy (before ++ .obj action :: after) = some "call-webhook" ∧
      ConfiguredBy webhooksPolicy "call-webhook" before action :=
  auto_repair_configured rfl

example : repairPolicyEnv webhooksPolicy "call-webhook" =
    [⟨"REPAIR_WEBHOOK_URL", .value "http://first"⟩,
      ⟨"REPAIR_WEBHOOK_BATCH_SIZE", .value "50"⟩] := by decide +kernel

end KubeDataGuard
