import KubeDataGuard.General.Options
import KubeDataGuard.Operator.Authorisation
import KubeDataGuard.Operator.LabelForm
import KubeDataGuard.Worker.Config

/-!
# The command line of a Job

The operator writes the arguments of a container, and `argparse` reads them
there. What is free text in them is read as a value only if it does not look
like an option.
-/

namespace KubeDataGuard

open Options

/-! ## The parser of the worker -/

def queryFlags : List Flag :=
  [⟨"--source-query", true⟩, ⟨"--target-query", true⟩, ⟨"--key-field", true⟩,
    ⟨"--compare-fields", true⟩, ⟨"--source-scan-page-size", true⟩,
    ⟨"--source-resume-after-key", true⟩, ⟨"--source-checkpoint-id", true⟩,
    ⟨"--source-reset-checkpoint", false⟩, ⟨"--source-max-pages", true⟩]

def checksumFlags : List Flag := [⟨"--checksum-prefix-length", true⟩]

def checkJobFlags : List Flag :=
  [⟨"--max-lag-seconds", true⟩, ⟨"--invariant", true⟩] ++ queryFlags ++ checksumFlags ++
  [⟨"--namespace", true⟩, ⟨"--config-map", true⟩, ⟨"--invariant-name", true⟩,
    ⟨"--observed-generation", true⟩, ⟨"--check-id", true⟩]

def repairJobFlags : List Flag :=
  [⟨"--namespace", true⟩, ⟨"--report-config-map", true⟩, ⟨"--config-map", true⟩,
    ⟨"--invariant-name", true⟩, ⟨"--observed-generation", true⟩, ⟨"--check-id", true⟩,
    ⟨"--repair-mode", true⟩, ⟨"--max-lag-seconds", true⟩, ⟨"--verify-invariant", true⟩] ++
  queryFlags ++ checksumFlags

/-- The option strings of a parser: its own, and those that print its help and end the process. -/
def optionStrings (flags : List Flag) : List String := ["-h", "--help"] ++ flags.map Flag.name

def invariantChoices : List String :=
  ["existence", "aggregate", "checksum", "freshness", "redis-freshness", "clickhouse-aggregate",
    "query"]

def repairModeChoices : List String :=
  ["direct-reindex", "emit-reconcile-events", "replay-kafka", "call-webhook", "invalidate-cache",
    "clickhouse-backfill"]

section Namespace

variable (parsed : List (String × Option String))

def textValue (name default : String) : String := (values parsed name).getLast?.getD default

/-- Every value given is converted, and the last one is taken. Go's integers have fewer digits than
`int` takes. -/
def intValue (name : String) (default : Int) : Option Int :=
  ((values parsed name).mapM integerText).map fun numbers => numbers.getLast?.getD default

def choiceValue (name : String) (choices : List String) (default : String) : Option String :=
  if ∀ text ∈ values parsed name, text ∈ choices then some (textValue parsed name default) else none

/-- What both Jobs hand to `check_invariant`. -/
def checkArgsOf (invariantFlag : String) : Option CheckArgs := do
  let invariant ← choiceValue parsed invariantFlag invariantChoices "existence"
  let maxLagSeconds ← intValue parsed "--max-lag-seconds" 60
  let sourceScanPageSize ← intValue parsed "--source-scan-page-size" 1000
  let sourceMaxPages ← intValue parsed "--source-max-pages" 0
  let checksumPrefixLength ← intValue parsed "--checksum-prefix-length" 1
  let invariantName ← (values parsed "--invariant-name").getLast?
  return {
    invariant, maxLagSeconds, invariantName, sourceScanPageSize, sourceMaxPages
    checksumPrefixLength
    sourceQuery := textValue parsed "--source-query" ""
    targetQuery := textValue parsed "--target-query" ""
    keyField := textValue parsed "--key-field" "id"
    compareFields := parseCompareFields (textValue parsed "--compare-fields" "")
    sourceResumeAfterKey := textValue parsed "--source-resume-after-key" ""
    sourceCheckpointId := textValue parsed "--source-checkpoint-id" ""
    sourceResetCheckpoint := parsed.any fun p => p.1 = "--source-reset-checkpoint"
    checkId := textValue parsed "--check-id" "" }

end Namespace

structure JobCommand where
  ns : Option String
  args : JobArgs
  deriving DecidableEq, Repr

/-- `parse_args`, of the two commands that Jobs run. -/
def parseArgs : List String → Option JobCommand
  | "check-job" :: tokens => do
    let parsed ← parse (optionStrings checkJobFlags) checkJobFlags tokens
    let check ← checkArgsOf parsed "--invariant"
    let configMap ← (values parsed "--config-map").getLast?
    let observedGeneration ← intValue parsed "--observed-generation" 0
    return ⟨(values parsed "--namespace").getLast?, .checkJob, check, configMap, observedGeneration⟩
  | "repair-job" :: tokens => do
    let parsed ← parse (optionStrings repairJobFlags) repairJobFlags tokens
    let check ← checkArgsOf parsed "--verify-invariant"
    let report ← (values parsed "--report-config-map").getLast?
    let mode ← choiceValue parsed "--repair-mode" repairModeChoices "direct-reindex"
    let configMap ← (values parsed "--config-map").getLast?
    let observedGeneration ← intValue parsed "--observed-generation" 0
    return ⟨(values parsed "--namespace").getLast?, .repairJob report mode, check, configMap,
      observedGeneration⟩
  | _ => none

/-! ## The arguments the operator writes -/

def given (name text : String) : List (String × String) :=
  if text = "" then [] else [(name, text)]

/-- The flags of `appendQueryArgs`, with their values. -/
def queryPairs (invariant : Unstructured) : List (String × String) :=
  if checkerInvariantArg invariant = "checksum" then
    [("--checksum-prefix-length", toString (checksumPrefixLength invariant))]
  else if checkerInvariantArg invariant ≠ "query" then []
  else
    [("--key-field", keyField invariant),
      ("--source-scan-page-size", toString (sourceScanPageSize invariant))] ++
    given "--source-checkpoint-id" (specString invariant "sourceCheckpointId") ++
    (if 0 < sourceMaxPages invariant then
      [("--source-max-pages", toString (sourceMaxPages invariant))] else []) ++
    given "--compare-fields" (compareFields invariant) ++
    given "--source-query" (specString invariant "sourceQuery") ++
    given "--target-query" (specString invariant "targetQuery")

def checkerJobOwn (invariant : Unstructured) (run : CheckRun) (maxLag : Int) :
    List (String × String) :=
  [("--invariant", checkerInvariantArg invariant), ("--max-lag-seconds", toString maxLag),
    ("--namespace", invariant.ns), ("--config-map", reportConfigMapName invariant.name run.id),
    ("--invariant-name", invariant.name),
    ("--observed-generation", toString invariant.generation), ("--check-id", run.id)]

/-- The `Args` of `BuildCheckerJobWithEnv`. -/
def checkerJobArgs (invariant : Unstructured) (run : CheckRun) (maxLag : Int) : List String :=
  "check-job" :: render (checkerJobOwn invariant run maxLag ++ queryPairs invariant)

def repairJobOwn (invariant : Unstructured) (sourceReportConfigMapName : String) (run : CheckRun)
    (repairMode : String) (maxLag : Int) : List (String × String) :=
  [("--namespace", invariant.ns), ("--report-config-map", sourceReportConfigMapName),
    ("--config-map", repairConfigMapName invariant.name run.id),
    ("--invariant-name", invariant.name),
    ("--observed-generation", toString invariant.generation), ("--check-id", run.id),
    ("--repair-mode", repairMode), ("--max-lag-seconds", toString maxLag),
    ("--verify-invariant", checkerInvariantArg invariant)]

/-- The `Args` of `BuildRepairJobWithEnv`. -/
def repairJobArgs (invariant : Unstructured) (sourceReportConfigMapName : String) (run : CheckRun)
    (repairMode : String) (maxLag : Int) : List String :=
  "repair-job" :: render (repairJobOwn invariant sourceReportConfigMapName run repairMode maxLag ++
    queryPairs invariant)

/-! ## Reading them -/

@[simp] theorem values_given (name text other : String) :
    values (rendered (given name text)) other =
      if name = other then if text = "" then [] else [text] else [] := by
  unfold given
  by_cases empty : text = ""
  · simp [empty]
  · simp [empty]

theorem values_ite (c : Prop) [Decidable c] (pairs more : List (String × String)) (name : String) :
    values (rendered (if c then pairs else more)) name =
      if c then values (rendered pairs) name else values (rendered more) name := by
  split
  · rfl
  · rfl

theorem getLast?_given (text : String) :
    (if text = "" then [] else [text]).getLast?.getD "" = text := by
  by_cases empty : text = ""
  · simp [empty]
  · simp [empty]

theorem checkerInvariantArg_choice (invariant : Unstructured) :
    checkerInvariantArg invariant ∈ invariantChoices := by
  unfold checkerInvariantArg
  split <;> decide

theorem sourceMaxPages_nonneg (invariant : Unstructured) : 0 ≤ sourceMaxPages invariant := by
  unfold sourceMaxPages
  split
  · split <;> omega
  · exact le_rfl

def queryNames : List String :=
  ["--source-query", "--target-query", "--key-field", "--compare-fields",
    "--source-scan-page-size", "--source-resume-after-key", "--source-checkpoint-id",
    "--source-max-pages", "--checksum-prefix-length"]

theorem queryPairs_names (invariant : Unstructured) :
    ∀ name ∉ queryNames, values (rendered (queryPairs invariant)) name = [] := by
  intro name unknown
  have apart : ∀ other ∈ queryNames, other ≠ name := by
    rintro other known rfl
    exact unknown known
  have paging : ∀ pages : List (String × String),
      (pages = [("--source-max-pages", toString (sourceMaxPages invariant))] ∨ pages = []) →
        values (rendered pages) name = [] := by
    rintro pages (rfl | rfl)
    · rw [values_cons, if_neg (apart _ (by simp [queryNames])), values_nil]
    · rw [values_nil]
  have optional : ∀ other ∈ queryNames, ∀ text,
      values (rendered (given other text)) name = [] := by
    intro other known text
    rw [values_given, if_neg (apart other known)]
  unfold queryPairs
  split
  · rw [values_cons, if_neg (apart _ (by simp [queryNames])), values_nil]
  split
  · rw [values_nil]
  · simp only [values_append, values_cons, values_nil, apart "--key-field" (by decide),
      apart "--source-scan-page-size" (by decide), optional "--source-checkpoint-id" (by decide),
      optional "--compare-fields" (by decide), optional "--source-query" (by decide),
      optional "--target-query" (by decide), if_false, List.append_nil]
    apply paging
    split
    · exact Or.inl rfl
    · exact Or.inr rfl

theorem values_common {invariant : Unstructured} (common : List (String × String)) {name : String}
    (unknown : name ∉ queryNames) : values (rendered (common ++ queryPairs invariant)) name =
      values (rendered common) name := by
  rw [values_append, queryPairs_names invariant name unknown, List.append_nil]

theorem mem_queryPairs {invariant : Unstructured} {p : String × String}
    (mem : p ∈ queryPairs invariant) : p.1 ∈ queryNames := by
  by_contra unknown
  have given := mem_values mem
  rw [queryPairs_names invariant p.1 unknown] at given
  cases given

theorem parseCompareFields_empty : parseCompareFields "" = [] := by
  have whole : "".splitOn "," = [""] := by
    simp [String.splitOn, String.splitOnAux]
    rfl
  rw [parseCompareFields, whole]
  rfl

section Reading

variable {parsed other : List (String × Option String)} {name : String}

theorem textValue_congr (h : values parsed name = values other name) (default : String) :
    textValue parsed name default = textValue other name default := by
  rw [textValue, h, textValue]

theorem intValue_congr (h : values parsed name = values other name) (default : Int) :
    intValue parsed name default = intValue other name default := by
  rw [intValue, h, intValue]

theorem intValue_text {n : Int} (h : values parsed name = [toString n]) (default : Int) :
    intValue parsed name default = some n := by
  rw [intValue, h, List.mapM_cons, integerText_text]
  rfl

theorem intValue_positive {n : Int} (nonneg : 0 ≤ n) :
    intValue (rendered (if 0 < n then [(name, toString n)] else [])) name 0 = some n := by
  by_cases positive : 0 < n
  · rw [if_pos positive]
    apply intValue_text
    simp
  · rw [if_neg positive, intValue]
    simp only [values_nil, List.mapM_nil]
    change some (0 : Int) = some n
    congr 1
    omega

end Reading

/-- What is read of the flags of a query. -/
structure QueryRead (parsed : List (String × Option String)) (args : CheckArgs) : Prop where
  sourceQuery : textValue parsed "--source-query" "" = args.sourceQuery
  targetQuery : textValue parsed "--target-query" "" = args.targetQuery
  keyField : textValue parsed "--key-field" "id" = args.keyField
  compareFields : parseCompareFields (textValue parsed "--compare-fields" "") = args.compareFields
  sourceScanPageSize :
    intValue parsed "--source-scan-page-size" 1000 = some args.sourceScanPageSize
  sourceResumeAfterKey :
    textValue parsed "--source-resume-after-key" "" = args.sourceResumeAfterKey
  sourceCheckpointId : textValue parsed "--source-checkpoint-id" "" = args.sourceCheckpointId
  sourceResetCheckpoint :
    (!(values parsed "--source-reset-checkpoint").isEmpty) = args.sourceResetCheckpoint
  sourceMaxPages : intValue parsed "--source-max-pages" 0 = some args.sourceMaxPages
  checksumPrefixLength :
    intValue parsed "--checksum-prefix-length" 1 = some args.checksumPrefixLength

theorem queryPairs_read (invariant : Unstructured) (run : CheckRun) (maxLag : Int) :
    QueryRead (rendered (queryPairs invariant)) (checkArgs invariant run maxLag) := by
  by_cases checksum : checkerInvariantArg invariant = "checksum"
  · have pairs : queryPairs invariant =
        [("--checksum-prefix-length", toString (checksumPrefixLength invariant))] := by
      rw [queryPairs, if_pos checksum]
    have length : intValue (rendered (queryPairs invariant)) "--checksum-prefix-length" 1 =
        some (checksumPrefixLength invariant) := by
      apply intValue_text
      simp [pairs]
    simp only [checkArgs, appendQueryArgs, if_pos checksum]
    constructor
    case checksumPrefixLength => exact length
    all_goals simp [pairs, textValue, intValue, parseCompareFields_empty]
  by_cases query : checkerInvariantArg invariant = "query"
  · have size : intValue (rendered (queryPairs invariant)) "--source-scan-page-size" 1000 =
        some (sourceScanPageSize invariant) := by
      apply intValue_text
      simp [queryPairs, query, values_ite]
    have pages : intValue (rendered (queryPairs invariant)) "--source-max-pages" 0 =
        some (sourceMaxPages invariant) := by
      refine (intValue_congr ?_ 0).trans (intValue_positive (sourceMaxPages_nonneg invariant))
      simp [queryPairs, query]
    simp only [checkArgs, appendQueryArgs, query, ne_eq, not_true_eq_false, if_false]
    constructor
    case sourceScanPageSize => exact size
    case sourceMaxPages => exact pages
    all_goals simp [queryPairs, query, textValue, intValue, values_ite, getLast?_given]
  · have nothing : queryPairs invariant = [] := by
      rw [queryPairs, if_neg checksum, if_pos query]
    simp only [checkArgs, appendQueryArgs, if_neg checksum, ne_eq, query, not_false_eq_true,
      if_true]
    constructor
    all_goals simp [nothing, textValue, intValue, parseCompareFields_empty]

theorem checkArgs_own (invariant : Unstructured) (run : CheckRun) (maxLag : Int) :
    (checkArgs invariant run maxLag).invariant = checkerInvariantArg invariant ∧
      (checkArgs invariant run maxLag).maxLagSeconds = maxLag ∧
      (checkArgs invariant run maxLag).invariantName = invariant.name := by
  unfold checkArgs appendQueryArgs
  split
  · exact ⟨rfl, rfl, rfl⟩
  · split
    · exact ⟨rfl, rfl, rfl⟩
    · exact ⟨rfl, rfl, rfl⟩

section Common

variable {invariant : Unstructured} {run : CheckRun} {maxLag : Int}
  {common : List (String × String)} {flag : String}

/-- Whatever a Job writes before the flags of its query, `check_invariant` gets the arguments of
the Job. -/
theorem checkArgsOf_rendered
    (type : values (rendered common) flag = [checkerInvariantArg invariant])
    (lag : values (rendered common) "--max-lag-seconds" = [toString maxLag])
    (name : values (rendered common) "--invariant-name" = [invariant.name])
    (id : values (rendered common) "--check-id" = [run.id])
    (others : ∀ name ∈ "--source-reset-checkpoint" :: queryNames,
      values (rendered common) name = [])
    (apart : flag ∉ queryNames) :
    checkArgsOf (rendered (common ++ queryPairs invariant)) flag =
      some (checkArgs invariant run maxLag) := by
  have own : ∀ name ∉ queryNames, values (rendered (common ++ queryPairs invariant)) name =
      values (rendered common) name := fun name => values_common common
  have added : ∀ name ∈ "--source-reset-checkpoint" :: queryNames,
      values (rendered (common ++ queryPairs invariant)) name =
        values (rendered (queryPairs invariant)) name := by
    intro name known
    rw [values_append, others name known, List.nil_append]
  have text : ∀ name ∈ queryNames, ∀ default,
      textValue (rendered (common ++ queryPairs invariant)) name default =
        textValue (rendered (queryPairs invariant)) name default :=
    fun name known => textValue_congr (added name (List.mem_cons_of_mem _ known))
  have number : ∀ name ∈ queryNames, ∀ default,
      intValue (rendered (common ++ queryPairs invariant)) name default =
        intValue (rendered (queryPairs invariant)) name default :=
    fun name known => intValue_congr (added name (List.mem_cons_of_mem _ known))
  have chosen : choiceValue (rendered (common ++ queryPairs invariant)) flag invariantChoices
      "existence" = some (checkerInvariantArg invariant) := by
    simp [choiceValue, textValue, own flag apart, type, checkerInvariantArg_choice]
  have bound := intValue_text ((own "--max-lag-seconds" (by decide)).trans lag) 60
  have named := (own "--invariant-name" (by decide)).trans name
  have checkId : textValue (rendered (common ++ queryPairs invariant)) "--check-id" "" = run.id := by
    rw [textValue, own "--check-id" (by decide), id]
    rfl
  have read := queryPairs_read invariant run maxLag
  unfold checkArgsOf
  rw [chosen, bound, named, checkId, any_rendered, added _ (by decide), text _ (by decide),
    text "--target-query" (by decide), text "--key-field" (by decide),
    text "--compare-fields" (by decide), text "--source-resume-after-key" (by decide),
    text "--source-checkpoint-id" (by decide), number _ (by decide),
    number "--source-max-pages" (by decide), number "--checksum-prefix-length" (by decide),
    read.sourceQuery, read.targetQuery, read.keyField, read.compareFields,
    read.sourceScanPageSize, read.sourceResumeAfterKey, read.sourceCheckpointId,
    read.sourceResetCheckpoint, read.sourceMaxPages, read.checksumPrefixLength]
  obtain ⟨ownType, ownLag, ownName⟩ := checkArgs_own invariant run maxLag
  have ownId : (checkArgs invariant run maxLag).checkId = run.id := appendQueryArgs_checkId ..
  generalize checkArgs invariant run maxLag = args at ownType ownLag ownName ownId ⊢
  rw [← ownType, ← ownLag, ← ownName, ← ownId]
  rfl

end Common

/-! ## The two commands -/

/-- The texts of a specification that go to the worker as they are. -/
def specTexts (invariant : Unstructured) : List String :=
  if checkerInvariantArg invariant = "query" then
    [keyField invariant, specString invariant "sourceCheckpointId", compareFields invariant,
      specString invariant "sourceQuery", specString invariant "targetQuery"]
  else []

theorem reading_given (options : List String) (name text : String) :
    (∀ p ∈ given name text, reading options p.2 = .argument) ↔
      reading options text = .argument := by
  unfold given
  by_cases empty : text = ""
  · subst empty
    have bare : reading options "" = .argument := reading_undashed (by simp)
    simp [bare]
  · simp [empty]

theorem reading_queryPairs {options : List String} (h : unlikeNumbers options = true)
    (invariant : Unstructured) :
    (∀ p ∈ queryPairs invariant, reading options p.2 = .argument) ↔
      ∀ text ∈ specTexts invariant, reading options text = .argument := by
  have number := reading_int h
  have positive : ∀ p ∈ (if 0 < sourceMaxPages invariant then
      [("--source-max-pages", toString (sourceMaxPages invariant))] else []),
      reading options p.2 = .argument := by
    intro p mem
    split at mem
    · rw [List.mem_singleton.mp mem]
      exact number _
    · cases mem
  unfold queryPairs specTexts
  by_cases checksum : checkerInvariantArg invariant = "checksum"
  · simp only [checksum, if_true, List.forall_mem_singleton, number, String.reduceEq, if_false,
      List.not_mem_nil, false_implies, implies_true]
  by_cases query : checkerInvariantArg invariant = "query"
  · simp only [query, String.reduceEq, ne_eq, not_true_eq_false, if_false, if_true,
      List.forall_mem_append, List.forall_mem_cons, List.not_mem_nil, false_implies, implies_true,
      and_true, number, reading_given, eq_true positive, and_assoc]
  · simp only [checksum, query, ne_eq, not_false_eq_true, if_true, if_false, List.not_mem_nil,
      false_implies, implies_true]

/-- A Job's arguments are refused where a text of the specification does not read as a value. -/
theorem parse_job {options : List String} {flags : List Flag} {common : List (String × String)}
    {invariant : Unstructured} (plain : unlikeNumbers options = true)
    (names : ∀ name ∈ common.map Prod.fst ++ queryNames, Valued options flags name)
    (arguments : ∀ p ∈ common, reading options p.2 = .argument) :
    parse options flags (render (common ++ queryPairs invariant)) =
      if ∀ text ∈ specTexts invariant, reading options text = .argument then
        some (rendered (common ++ queryPairs invariant))
      else none := by
  have known : ∀ p ∈ common ++ queryPairs invariant, Valued options flags p.1 := by
    intro p mem
    apply names
    obtain mem | mem := List.mem_append.mp mem
    · exact List.mem_append_left _ (List.mem_map_of_mem mem)
    · exact List.mem_append_right _ (mem_queryPairs mem)
  have readable : (∀ p ∈ common ++ queryPairs invariant, reading options p.2 = .argument) ↔
      ∀ text ∈ specTexts invariant, reading options text = .argument := by
    rw [List.forall_mem_append, reading_queryPairs plain]
    exact and_iff_right arguments
  rw [parse_render known]
  simp only [readable]

/-- As the names of all Kubernetes objects are. -/
def Undashed (text : String) : Prop := text.toList.head? ≠ some '-'

theorem Undashed.argument {options : List String} {text : String} (h : Undashed text) :
    reading options text = .argument := by
  apply reading_undashed
  intro rest dashed
  exact h (by rw [dashed, List.head?_cons])

theorem dnsLabel_undashed (start value : String) : Undashed (dnsLabel start value) := by
  intro dashed
  rw [dnsLabel_eq, String.toList_ofList] at dashed
  exact ((cutLabel_valid (cleanLabel_label _)).starts _ dashed).ne_dash rfl

theorem currentCheckRun_undashed {invariant : Unstructured} {now : Int} {run : CheckRun}
    (h : currentCheckRun invariant now = .ok run) : Undashed run.id := by
  obtain ⟨interval, -, id⟩ := currentCheckRun_id h
  intro dashed
  rw [id, runId] at dashed
  split at dashed
  · rw [generationId_chars] at dashed
    simp at dashed
  · rw [slotId_chars] at dashed
    simp at dashed

theorem undashed_choices : ∀ choice ∈ invariantChoices ++ repairModeChoices, Undashed choice := by
  unfold Undashed
  decide

theorem firstMode_choice {policy : Unstructured} {actions : List Json} {mode : String}
    (h : firstMode policy actions = some mode) : mode ∈ repairModeChoices := by
  obtain ⟨_, action, _, _, _, rfl, executed⟩ := firstMode_some h
  revert executed
  unfold repairModeForAction
  split <;> try split
  all_goals first | exact fun _ => by decide | exact fun executed => absurd rfl executed

theorem findAutoRepairPolicy_choice {invariant policy : Unstructured}
    {policies : List Unstructured} {mode : String}
    (h : findAutoRepairPolicy invariant policies = .ok (some (policy, mode))) :
    mode ∈ repairModeChoices := by
  obtain ⟨_, _, _, _, _, found⟩ := findAutoRepairPolicy_found h
  obtain ⟨_, _, _, first⟩ := repairPolicyAutoRepairMode_some found
  exact firstMode_choice first

/-- An Invariant with queries that names its checkpoint. -/
def scanInvariant (checkpointId : String) : Unstructured where
  ns := "default"
  name := "orders"
  uid := 0
  generation := 1
  annotations := []
  object := [("spec", .obj [("type", .str "query"), ("sourceQuery", .str "SELECT id FROM orders"),
    ("targetQuery", .str "orders"), ("sourceCheckpointId", .str checkpointId)])]

theorem scanInvariant_texts (checkpointId : String) : specTexts (scanInvariant checkpointId) =
    ["id", checkpointId, "", "SELECT id FROM orders", "orders"] := by
  rfl

theorem scanInvariant_named (checkpointId : String) :
    Undashed (scanInvariant checkpointId).ns ∧ Undashed (scanInvariant checkpointId).name := by
  constructor
  · exact (by decide : "default".toList.head? ≠ some '-')
  · exact (by decide : "orders".toList.head? ≠ some '-')

section Jobs

variable {invariant : Unstructured} {run : CheckRun} {env : List EnvVar} {job : Job}
  {now maxLag : Int} (current : currentCheckRun invariant now = .ok run)
  (lag : maxLagSeconds invariant = .ok maxLag) (ns : Undashed invariant.ns)
  (name : Undashed invariant.name)
include current lag ns name

/-- The worker reads the arguments of a check's Job as they were built (the kubelet's expansion
of `$(VAR)` left out), unless a text of the specification looks like an option; then it ends
before the check. -/
theorem check_job_read (built : buildCheckerJobWithEnv invariant run env = .ok job) :
    parseArgs (checkerJobArgs invariant run maxLag) =
      if ∀ text ∈ specTexts invariant,
          reading (optionStrings checkJobFlags) text = .argument then
        some ⟨some invariant.ns, job.args⟩
      else none := by
  have plain : unlikeNumbers (optionStrings checkJobFlags) = true := by decide
  have type := undashed_choices _ (List.mem_append_left _ (checkerInvariantArg_choice invariant))
  have report : Undashed (reportConfigMapName invariant.name run.id) := dnsLabel_undashed _ _
  have id := currentCheckRun_undashed current
  have check : checkArgsOf (rendered (checkerJobOwn invariant run maxLag ++ queryPairs invariant))
      "--invariant" = some (checkArgs invariant run maxLag) := by
    apply checkArgsOf_rendered
    case others =>
      intro name known
      apply values_absent
      revert name
      simp only [checkerJobOwn, List.map_cons, List.map_nil]
      decide
    case apart => decide
    all_goals simp [checkerJobOwn]
  have own : ∀ name text, name ∉ queryNames →
      values (rendered (checkerJobOwn invariant run maxLag)) name = [text] →
      values (rendered (checkerJobOwn invariant run maxLag ++ queryPairs invariant)) name = [text] :=
    fun name text unknown first => (values_common _ unknown).trans first
  have configMap := own "--config-map" (reportConfigMapName invariant.name run.id) (by decide)
    (by simp [checkerJobOwn])
  have space := own "--namespace" invariant.ns (by decide) (by simp [checkerJobOwn])
  have generation := intValue_text
    (own "--observed-generation" (toString invariant.generation) (by decide)
      (by simp [checkerJobOwn])) 0
  rw [buildCheckerJobWithEnv, lag] at built
  obtain rfl := Except.ok.inj built
  rw [checkerJobArgs, parseArgs, parse_job plain]
  case names =>
    simp only [checkerJobOwn, List.map_cons, List.map_nil]
    decide
  case arguments =>
    simp only [checkerJobOwn, List.forall_mem_cons, List.not_mem_nil, false_implies, implies_true,
      and_true, type.argument, report.argument, ns.argument, name.argument, id.argument,
      reading_int plain]
  split
  · simp only [Option.bind_eq_bind, Option.bind_some, check, configMap, generation, space]
    rfl
  · rfl

omit current lag ns name in
theorem check_job_read_scan :
    (∃ command, parseArgs (checkerJobArgs (scanInvariant "orders") firstRun 60) = some command) ∧
    parseArgs (checkerJobArgs (scanInvariant "--orders") firstRun 60) = none := by
  constructor
  · obtain ⟨job, built⟩ : ∃ job, buildCheckerJobWithEnv (scanInvariant "orders") firstRun [] =
      .ok job := ⟨_, rfl⟩
    have current : currentCheckRun (scanInvariant "orders") 0 = .ok firstRun := rfl
    have readable : ∀ text ∈ specTexts (scanInvariant "orders"),
        reading (optionStrings checkJobFlags) text = .argument := by
      rw [scanInvariant_texts]
      decide
    obtain ⟨ns, name⟩ := scanInvariant_named "orders"
    exact ⟨_, (check_job_read current rfl ns name built).trans (if_pos readable)⟩
  · obtain ⟨job, built⟩ : ∃ job, buildCheckerJobWithEnv (scanInvariant "--orders") firstRun [] =
      .ok job := ⟨_, rfl⟩
    have current : currentCheckRun (scanInvariant "--orders") 0 = .ok firstRun := rfl
    have dashed : ¬∀ text ∈ specTexts (scanInvariant "--orders"),
        reading (optionStrings checkJobFlags) text = .argument := by
      rw [scanInvariant_texts]
      decide
    obtain ⟨ns, name⟩ := scanInvariant_named "--orders"
    exact (check_job_read current rfl ns name built).trans (if_neg dashed)

/-- And those of a repair's Job, whatever mode a policy allows. -/
theorem repair_job_read {policies : List Unstructured} {policy : Unstructured}
    {source mode : String}
    (allowed : findAutoRepairPolicy invariant policies = .ok (some (policy, mode)))
    (built : buildRepairJobWithEnv invariant (reportConfigMapName invariant.name source) run env
      mode = .ok job) :
    parseArgs (repairJobArgs invariant (reportConfigMapName invariant.name source) run mode maxLag) =
      if ∀ text ∈ specTexts invariant,
          reading (optionStrings repairJobFlags) text = .argument then
        some ⟨some invariant.ns, job.args⟩
      else none := by
  have plain : unlikeNumbers (optionStrings repairJobFlags) = true := by decide
  have type := undashed_choices _ (List.mem_append_left _ (checkerInvariantArg_choice invariant))
  have chosen := findAutoRepairPolicy_choice allowed
  have executed := undashed_choices _ (List.mem_append_right _ chosen)
  have report : Undashed (reportConfigMapName invariant.name source) := dnsLabel_undashed _ _
  have result : Undashed (repairConfigMapName invariant.name run.id) := dnsLabel_undashed _ _
  have id := currentCheckRun_undashed current
  generalize reportConfigMapName invariant.name source = source at *
  have check : checkArgsOf (rendered (repairJobOwn invariant source run mode maxLag ++
      queryPairs invariant)) "--verify-invariant" = some (checkArgs invariant run maxLag) := by
    apply checkArgsOf_rendered
    case others =>
      intro name known
      apply values_absent
      revert name
      simp only [repairJobOwn, List.map_cons, List.map_nil]
      decide
    case apart => decide
    all_goals simp [repairJobOwn]
  have own : ∀ name text, name ∉ queryNames →
      values (rendered (repairJobOwn invariant source run mode maxLag)) name = [text] →
      values (rendered (repairJobOwn invariant source run mode maxLag ++ queryPairs invariant)) name =
        [text] :=
    fun name text unknown first => (values_common _ unknown).trans first
  have reported := own "--report-config-map" source (by decide) (by simp [repairJobOwn])
  have action := own "--repair-mode" mode (by decide) (by simp [repairJobOwn])
  have executes : choiceValue (rendered (repairJobOwn invariant source run mode maxLag ++
      queryPairs invariant)) "--repair-mode" repairModeChoices "direct-reindex" = some mode := by
    simp [choiceValue, textValue, action, chosen]
  have configMap := own "--config-map" (repairConfigMapName invariant.name run.id) (by decide)
    (by simp [repairJobOwn])
  have space := own "--namespace" invariant.ns (by decide) (by simp [repairJobOwn])
  have generation := intValue_text
    (own "--observed-generation" (toString invariant.generation) (by decide)
      (by simp [repairJobOwn])) 0
  rw [buildRepairJobWithEnv, lag] at built
  obtain rfl := Except.ok.inj built
  rw [repairJobArgs, parseArgs, parse_job plain]
  case names =>
    simp only [repairJobOwn, List.map_cons, List.map_nil]
    decide
  case arguments =>
    simp only [repairJobOwn, List.forall_mem_cons, List.not_mem_nil, false_implies, implies_true,
      and_true, type.argument, report.argument, result.argument, executed.argument, ns.argument,
      name.argument, id.argument, reading_int plain]
  split
  · simp only [Option.bind_eq_bind, Option.bind_some, check, reported, executes, configMap,
      generation, space]
    rfl
  · rfl

omit current lag ns name in
theorem repair_job_read_scan : ∃ command,
    parseArgs (repairJobArgs (scanInvariant "orders") (reportConfigMapName "orders" "g1") firstRun
      "direct-reindex" 60) = some command := by
  obtain ⟨job, built⟩ : ∃ job, buildRepairJobWithEnv (scanInvariant "orders")
    (reportConfigMapName "orders" "g1") firstRun [] "direct-reindex" = .ok job := ⟨_, rfl⟩
  have current : currentCheckRun (scanInvariant "orders") 0 = .ok firstRun := rfl
  have allowed : findAutoRepairPolicy (scanInvariant "orders") [reindexPolicy] =
    .ok (some (reindexPolicy, "direct-reindex")) := rfl
  have readable : ∀ text ∈ specTexts (scanInvariant "orders"),
      reading (optionStrings repairJobFlags) text = .argument := by
    rw [scanInvariant_texts]
    decide
  obtain ⟨ns, name⟩ := scanInvariant_named "orders"
  exact ⟨_, (repair_job_read current rfl ns name allowed built).trans (if_pos readable)⟩

end Jobs

end KubeDataGuard
