import KubeDataGuard.Worker.Job

/-!
# The texts of a report

`markdown_report` and `compact_report` read the members of a payload with
`[...]`, `get` and `json.dumps`, any of which may raise.
-/

namespace KubeDataGuard

/-! ## Calls that return -/

/-- The call returns. -/
def Returns {α : Type} (x : Except Raised α) : Prop := ∃ a, x = .ok a

section Returns

variable {α β : Type}

@[simp] theorem returns_ok (a : α) : Returns (.ok a : Except Raised α) := ⟨a, rfl⟩

@[simp] theorem returns_pure (a : α) : Returns (pure a : Except Raised α) := ⟨a, rfl⟩

@[simp] theorem not_returns_error (e : Raised) : ¬Returns (.error e : Except Raised α) := by
  rintro ⟨a, ha⟩
  cases ha

theorem Returns.bind {x : Except Raised α} {f : α → Except Raised β} (h : Returns x)
    (rest : ∀ a, Returns (f a)) : Returns (x >>= f) := by
  obtain ⟨a, rfl⟩ := h
  exact rest a

/-- Steps that go on in the same way whatever the one before gave. -/
theorem returns_then (x : Except Raised α) {f : α → Except Raised β} {p : Prop}
    (same : ∀ a, x = .ok a → (Returns (f a) ↔ p)) : Returns (x >>= f) ↔ Returns x ∧ p := by
  cases x with
  | ok a => simpa using same a rfl
  | error e => simp

theorem returns_mapM (f : α → Except Raised β) (items : List α) :
    Returns (items.mapM f) ↔ ∀ item ∈ items, Returns (f item) := by
  induction items with
  | nil => simp
  | cons item items ih =>
    rw [List.mapM_cons, returns_then _ (p := Returns (items.mapM f)), ih, List.forall_mem_cons]
    intro a _
    rw [returns_then _ (p := True), and_true]
    intro b _
    simp

end Returns

/-! ## What is read of a value -/

namespace Json

/-- `bool(value)`; an object without a JSON form is true. -/
def truthy : Json → Bool
  | .null => false
  | .bool b => b
  | .int n => n ≠ 0
  | .decimal _ value => value ≠ 0
  | .float value => value ≠ 0
  | .str s => s ≠ ""
  | .arr items => !items.isEmpty
  | .obj members => !members.isEmpty
  | .foreign _ => true

/-- `value or default` -/
def orElse (value default : Json) : Json := if value.truthy then value else default

/-- `value[key]` -/
def item (value : Json) (key : String) : Except Raised Json :=
  match value with
  | .obj members =>
    match Fields.get? members key with
    | some found => .ok found
    | none => .error (.exception "KeyError" (reprText key))
  | _ => .error (.exception "TypeError" "indices must be integers")

/-- `value.get(key)`, which only a `dict` has. -/
def member (value : Json) (key : String) : Except Raised Json :=
  match value with
  | .obj _ => .ok (value.get key)
  | _ => .error (.exception "AttributeError" "object has no attribute 'get'")

/-- What `for` goes through. -/
def elements : Json → Except Raised (List Json)
  | .arr items => .ok items
  | .obj members => .ok (members.map fun e => .str e.1)
  | .str s => .ok (s.toList.map fun c => .str (String.singleton c))
  | _ => .error (.exception "TypeError" "object is not iterable")

/-- `len(value)` -/
def length (value : Json) : Except Raised Nat := do
  let items ← value.elements
  return items.length

def IsDict (value : Json) : Prop := ∃ members, value = .obj members

end Json

/-- How values are printed: `f"{value}"`, and `json.dumps` of a value it accepts. -/
structure Printing where
  format : Json → String
  layout : Json → String

/-- `json.dumps(value, indent=2, sort_keys=True)` -/
def Printing.dumps (print : Printing) (value : Json) : Except Raised String :=
  if value.dumps then .ok (print.layout value) else .error notSerializable

def compactReport (payload : Fields) : Except Raised Fields := do
  let payload := Json.obj payload
  let window := (payload.get "observation_window").orElse (.obj [])
  let frontier := (← window.member "cdc_frontier").orElse (.obj [])
  let counterexamples ← ((payload.get "counterexamples").orElse (.arr [])).length
  let breaches ← ((payload.get "freshness_breaches").orElse (.arr [])).length
  let checkedAt ← window.member "checked_at"
  let targetReadAt ← window.member "target_read_at"
  let sourceWatermark ← window.member "source_watermark"
  let sourceLsn ← window.member "source_lsn"
  let frontierStatus ← frontier.member "status"
  let frontierReason ← frontier.member "reason"
  return [("invariant", payload.get "invariant"), ("status", payload.get "status"),
    ("healthy", payload.get "healthy"), ("guarantee", payload.get "guarantee"),
    ("check_status", payload.get "check_status"),
    ("checked_records", payload.get "checked_records"), ("drift_count", payload.get "drift_count"),
    ("counterexample_count", .int counterexamples), ("freshness_breach_count", .int breaches),
    ("checked_at", checkedAt), ("target_read_at", targetReadAt),
    ("source_watermark", sourceWatermark), ("source_lsn", sourceLsn),
    ("cdc_frontier_status", frontierStatus), ("cdc_frontier_reason", frontierReason),
    ("kubernetes_status", payload.get "kubernetes_status")]

/-! ## The markdown report -/

section Markdown

variable (print : Printing)

def fieldLine (label value : String) : String := "- " ++ label ++ ": `" ++ value ++ "`"

/-- One line for each member a `dict` is asked for. -/
def memberLines (value : Json) (labels : List (String × String)) : Except Raised (List String) :=
  labels.mapM fun (label, key) => do
    let found ← value.member key
    return fieldLine label (print.format found)

/-- The lines of `if value:`. -/
def ifTruthy (value : Json) (lines : Except Raised (List String)) : Except Raised (List String) :=
  if value.truthy then lines else .ok []

/-- A section with a line for each item, when there are items. -/
def itemSection (title : String) (value : Json) (line : Json → Except Raised String) :
    Except Raised (List String) :=
  ifTruthy value do
    let items ← value.elements
    let lines ← items.mapM line
    return [title, ""] ++ lines ++ [""]

def jsonBlock (value : Json) : Except Raised (List String) := do
  let text ← print.dumps value
  return ["```json", text, "```", ""]

def headerLines (payload : Fields) : Except Raised (List String) := do
  let get := fun key fallback => (Fields.get? payload key).getD fallback
  let payload := Json.obj payload
  let invariant ← payload.item "invariant"
  let healthy ← payload.item "healthy"
  let checkedRecords ← payload.item "checked_records"
  let driftCount ← payload.item "drift_count"
  let missing ← (← payload.item "missing").length
  let stale ← (← payload.item "stale").length
  let aggregates ← (get "aggregate_mismatches" (.arr [])).length
  let violations ← (get "freshness_violations" (.arr [])).length
  let breaches ← (get "freshness_breaches" (.arr [])).length
  return ["# Drift Report: " ++ print.format invariant, "",
    fieldLine "Status" (print.format (get "status" (.str "Unknown"))),
    fieldLine "Guarantee" (print.format (get "guarantee" (.str "unknown"))),
    fieldLine "Healthy" (print.format healthy),
    fieldLine "Check status" (print.format (get "check_status" (.str "unknown"))),
    fieldLine "Checked records" (print.format checkedRecords),
    fieldLine "Drift count" (print.format driftCount), fieldLine "Missing" (toString missing),
    fieldLine "Stale" (toString stale), fieldLine "Aggregate mismatches" (toString aggregates),
    fieldLine "Freshness violations" (toString violations),
    fieldLine "Freshness SLO breaches" (toString breaches), ""]

def frontierLines (frontier : Json) : Except Raised (List String) := do
  let stream := (← frontier.member "stream").orElse (.obj [])
  let outbox := (← frontier.member "outbox").orElse (.obj [])
  let source := (← frontier.member "source").orElse (.obj [])
  let target := (← frontier.member "target").orElse (.obj [])
  let targetFrontier := (← target.member "frontier").orElse (.obj [])
  let status ← memberLines print frontier [("Mode", "mode"), ("Status", "status"),
    ("Reason", "reason")]
  let sourceLines ← memberLines print source [("Source LSN", "lsn"),
    ("Source watermark", "watermark")]
  let outboxLines ← memberLines print outbox [("Outbox events", "event_count"),
    ("Outbox published", "published_count"), ("Outbox unpublished", "unpublished_count"),
    ("Outbox offset evidence", "offset_recorded_count")]
  let streamLines ← memberLines print stream [("Stream topic", "topic"),
    ("Stream event count", "event_count"), ("Stream offset start", "offset_start"),
    ("Stream offset end", "offset_end")]
  let readAt ← memberLines print target [("Target read at", "read_at")]
  let evidence ← memberLines print targetFrontier
    [("Target offset evidence", "offset_recorded_count")]
  let proof ← memberLines print target [("Target offset proof", "offset_gap_proof")]
  return ["## CDC Frontier", ""] ++ status ++ sourceLines ++ outboxLines ++ streamLines ++ readAt ++
    evidence ++ proof ++ [""]

def scanLines (scan : Json) : Except Raised (List String) := do
  let lines ← memberLines print scan [("Mode", "mode"), ("Key field", "key_field"),
    ("Page size", "page_size"), ("Pages", "pages"), ("Rows", "rows"), ("First key", "first_key"),
    ("Last key", "last_key"), ("Resume after key", "resume_after_key"), ("Completed", "completed"),
    ("Stop reason", "stop_reason"), ("Query hash", "query_hash"),
    ("Checkpoint ID", "checkpoint_id"), ("Checkpoint ref", "checkpoint_ref")]
  let loaded ← scan.member "loaded_checkpoint"
  let loadedPart ← ifTruthy loaded do
    let block ← jsonBlock print loaded
    return ["Loaded checkpoint:", ""] ++ block
  return ["## Source Scan", ""] ++ lines ++ [""] ++ loadedPart

def windowLines (window : Json) : Except Raised (List String) := do
  let lines ← memberLines print window [("Checked at", "checked_at"),
    ("Target read at", "target_read_at"), ("Max lag seconds", "max_lag_seconds"),
    ("Eligible records before", "eligible_records_before"),
    ("Source watermark", "source_watermark"), ("Source LSN", "source_lsn"),
    ("Stream topic", "stream_topic"), ("Stream offset start", "stream_offset_start"),
    ("Stream offset end", "stream_offset_end"), ("Completeness", "completeness")]
  let frontier ← window.member "cdc_frontier"
  let frontierPart ← ifTruthy frontier (frontierLines print frontier)
  let scan ← window.member "source_scan"
  let scanPart ← ifTruthy scan (scanLines print scan)
  return ["## Observation Window", ""] ++ lines ++ [""] ++ frontierPart ++ scanPart

/-- The row of a missing record, of which the status and the amount are printed. -/
def missingLine (item : Json) : Except Raised String := do
  let source ← item.item "source"
  let id ← item.item "order_id"
  let status ← source.item "status"
  let amountCents ← source.item "amount_cents"
  return "- `" ++ print.format id ++ "` status=`" ++ print.format status ++ "` amount_cents=`" ++
    print.format amountCents ++ "`"

def mismatchText (mismatch : Json) : Except Raised String := do
  let field ← mismatch.item "field"
  let source ← mismatch.item "source"
  let target ← mismatch.item "target"
  return print.format field ++ ": source=" ++ print.format source ++ " target=" ++
    print.format target

def staleLine (item : Json) : Except Raised String := do
  let mismatches ← (← item.item "mismatches").elements
  let texts ← mismatches.mapM (mismatchText print)
  let id ← item.item "order_id"
  return "- `" ++ print.format id ++ "` " ++ intercalateText ", " texts

def aggregateLine (start : String) (item : Json) : Except Raised String := do
  let field ← item.item "field"
  let source ← item.item "source"
  let target ← item.item "target"
  return start ++ "`" ++ print.format field ++ "` source=`" ++ print.format source ++ "` target=`" ++
    print.format target ++ "`"

def freshnessLine (item : Json) : Except Raised String := do
  let id ← item.item "order_id"
  let lag ← item.member "observed_lag_seconds"
  let maxLag ← item.member "max_lag_seconds"
  let indexedAt ← item.member "target_indexed_at"
  return "- `" ++ print.format id ++ "` lag_seconds=`" ++ print.format lag ++
    "` max_lag_seconds=`" ++ print.format maxLag ++ "` target_indexed_at=`" ++
    print.format indexedAt ++ "`"

def counterexampleLine (item : Json) : Except Raised String := do
  match ← item.item "type" with
  | .str "aggregate_mismatch" => aggregateLine print "- aggregate " item
  | kind =>
    let id ← item.item "order_id"
    let version ← item.member "source_version"
    return "- " ++ print.format kind ++ " order_id=`" ++ print.format id ++ "` source_version=`" ++
      print.format version ++ "`"

def markdownReport (payload : Fields) : Except Raised String := do
  let value := Json.obj payload
  let window := (value.get "observation_window").orElse (.obj [])
  let header ← headerLines print payload
  let windowPart ← ifTruthy window (windowLines print window)
  let statusPart ← ifTruthy (value.get "kubernetes_status") do
    let block ← jsonBlock print (value.get "kubernetes_status")
    return ["## Kubernetes Status Payload", ""] ++ block
  let missing ← value.item "missing"
  let missingPart ← itemSection "## Missing Orders" missing (missingLine print)
  let stale ← value.item "stale"
  let stalePart ← itemSection "## Stale Orders" stale (staleLine print)
  let aggregatePart ← itemSection "## Aggregate Mismatches" (value.get "aggregate_mismatches")
    (aggregateLine print "- ")
  let violationPart ← itemSection "## Freshness Violations" (value.get "freshness_violations")
    (freshnessLine print)
  let breachPart ← itemSection "## Freshness SLO Breaches" (value.get "freshness_breaches")
    (freshnessLine print)
  let counterexamplePart ← itemSection "## Counterexamples" (value.get "counterexamples")
    (counterexampleLine print)
  let healthy ← value.item "healthy"
  let verdict := if healthy.truthy then
      "No drift found. The derived search view satisfies the invariant."
    else "Drift found. Run the repair command or inspect the pipeline before trusting the derived view."
  return intercalateText "\n" (header ++ windowPart ++ statusPart ++ missingPart ++ stalePart ++
    aggregatePart ++ violationPart ++ breachPart ++ counterexamplePart ++ [verdict, ""])

/-- The texts `write_reports` makes, in its order. -/
def renderReports (report : DriftReport) : Except Raised (List String) := do
  let payload := report.toDict
  let json ← print.dumps (.obj payload)
  let markdown ← markdownReport print payload
  let compact ← compactReport payload
  let compact ← print.dumps (.obj compact)
  let latest ← print.dumps (.obj payload)
  return [json, markdown, compact, latest]

end Markdown

/-- Texts and numbers as they are, everything else left out. -/
def plainPrinting : Printing where
  format
    | .str s => s
    | .int n => toString n
    | _ => ""
  layout := fun _ => ""

end KubeDataGuard
