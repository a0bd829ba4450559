import KubeDataGuard.General.Exposition
import KubeDataGuard.Worker.Rendering

/-!
# Metrics of a check

`prometheus_metrics` writes a payload as gauges, each with a line of help, a
line of its type and a sample. The texts of a check stand in the labels, so a
reader has them back whatever characters they have.
-/

namespace KubeDataGuard

/-- `value.replace(old, new)` where `old` is one character. -/
def replaceChar (old : Char) (new value : String) : String :=
  String.ofList (value.toList.flatMap fun c => if c = old then new.toList else [c])

def escapeLabel (value : String) : String :=
  replaceChar '\n' "\\n" (replaceChar '"' "\\\"" (replaceChar '\\' "\\\\" value))

/-- The items of a `dict` of label texts, in the order they were set. -/
abbrev Labels := List (String × String)

/-- `sorted(labels.items())` -/
def sortedItems (labels : Labels) : Labels :=
  labels.insertionSort fun a b => a.1 < b.1 ∨ a.1 = b.1 ∧ a.2 ≤ b.2

def formatLabels (labels : Labels) : String :=
  if labels = [] then ""
  else
    let encoded := intercalateText "," ((sortedItems labels).map fun label =>
      label.1 ++ "=\"" ++ escapeLabel label.2 ++ "\"")
    "\x7b" ++ encoded ++ "\x7d"

/-- An `int` or a `float`, with its text. -/
inductive Number
  | int (n : Int)
  | float (text : String)
  deriving DecidableEq, Repr

def Number.text : Number → String
  | .int n => toString n
  | .float text => text

/-- `numeric`. What `int` and `float` make of a text or of an object is `cast`. -/
def numeric (cast : Json → Number) : Json → Number
  | .bool b => .int (if b then 1 else 0)
  | .int n => .int n
  | .decimal _ value | .float value => .int (value.num.tdiv value.den)
  | .null | .arr _ | .obj _ => .int 0
  | value => cast value

def metricLine (cast : Json → Number) (name : String) (value : Json) (labels : Labels) : String :=
  name ++ formatLabels labels ++ " " ++ (numeric cast value).text

/-- A metric as `prometheus_metrics` writes it, in three lines. -/
structure Gauge where
  name : String
  help : String
  value : Json
  labels : Labels

namespace Gauge

variable (cast : Json → Number) (g : Gauge)

def line : String := metricLine cast g.name g.value g.labels

def lines : List String :=
  ["# HELP " ++ g.name ++ " " ++ g.help, "# TYPE " ++ g.name ++ " gauge", g.line cast]

/-- The sample its line stands for, `n` being its value. -/
def sample (n : Int) : Exposition.Sample := ⟨g.name, sortedItems g.labels, n⟩

/-- The names are names, and help is one line. -/
structure Named : Prop where
  metric : Exposition.IsName g.name
  labels : ∀ label ∈ g.labels, Exposition.IsName label.1
  help : '\n' ∉ g.help.toList

end Gauge

/-- `str(value)` -/
def Printing.str (print : Printing) : Json → String
  | .str s => s
  | value => print.format value

section Gauges

variable (print : Printing) (payload : Fields)

def checkLabels : Labels :=
  [("invariant", print.str (((Json.obj payload).get "invariant").orElse (.str "unknown"))),
    ("status", print.str (((Json.obj payload).get "status").orElse (.str "Unknown"))),
    ("guarantee", print.str (((Json.obj payload).get "guarantee").orElse (.str "unknown")))]

def checkFrontierStatus : Except Raised Json := do
  let window := ((Json.obj payload).get "observation_window").orElse (.obj [])
  let frontier := (← window.member "cdc_frontier").orElse (.obj [])
  frontier.member "status"

/-- The metrics `prometheus_metrics` writes, in their order. -/
def checkGauges : Except Raised (List Gauge) := do
  let labels := checkLabels print payload
  let counterexamples ← (((Json.obj payload).get "counterexamples").orElse (.arr [])).length
  let breaches ← (((Json.obj payload).get "freshness_breaches").orElse (.arr [])).length
  let frontierStatus ← checkFrontierStatus payload
  return [
    ⟨"kubedataguard_drift_count", "Number of current drift counterexamples.",
      (Fields.get? payload "drift_count").getD (.int 0), labels⟩,
    ⟨"kubedataguard_checked_records", "Number of records checked in the last run.",
      (Fields.get? payload "checked_records").getD (.int 0), labels⟩,
    ⟨"kubedataguard_counterexample_count", "Number of compact counterexamples emitted.",
      .int counterexamples, labels⟩,
    ⟨"kubedataguard_slo_breach_count", "Number of historical SLO breaches observed.",
      .int breaches, labels⟩,
    ⟨"kubedataguard_check_healthy", "Whether the last check was healthy.",
      .int (if ((Json.obj payload).get "healthy").truthy then 1 else 0), labels⟩] ++
    if frontierStatus.truthy then
      [⟨"kubedataguard_cdc_frontier_status", "Last CDC frontier state as a one-hot gauge.", .int 1,
        labels ++ [("frontier_status", print.str frontierStatus)]⟩]
    else []

def prometheusMetrics (cast : Json → Number) : Except Raised String := do
  let gauges ← checkGauges print payload
  return intercalateText "\n" (gauges.flatMap (Gauge.lines cast)) ++ "\n"

end Gauges

/-! ## Lines -/

theorem replaceChar_toList (old : Char) (new value : String) :
    (replaceChar old new value).toList =
      value.toList.flatMap fun c => if c = old then new.toList else [c] :=
  String.toList_ofList

/-- The three replacements together act on each character once: what one puts in, the
next ones leave. -/
theorem escapeLabel_toList (value : String) :
    (escapeLabel value).toList = Exposition.escape value.toList := by
  rw [escapeLabel, replaceChar_toList, replaceChar_toList, replaceChar_toList,
    List.flatMap_assoc, List.flatMap_assoc, Exposition.escape]
  apply congrArg (fun f => value.toList.flatMap f)
  funext c
  by_cases backslash : c = '\\'
  · subst backslash
    rfl
  by_cases quote : c = '"'
  · subst quote
    rfl
  by_cases newline : c = '\n'
  · subst newline
    rfl
  simp [Exposition.escapeChar, backslash, quote, newline]

theorem intercalateText_toList (separator : String) (texts : List String) :
    (intercalateText separator texts).toList =
      separator.toList.intercalate (texts.map String.toList) := by
  induction texts with
  | nil => rfl
  | cons s rest ih =>
    cases rest with
    | nil => simp [intercalateText]
    | cons t rest =>
      rw [List.map_cons, List.map_cons, List.intercalate_cons_cons, intercalateText,
        String.toList_append, String.toList_append, ih, List.map_cons]
      exact List.cons_ne_nil t rest

theorem sortedItems_perm (labels : Labels) : (sortedItems labels).Perm labels :=
  List.perm_insertionSort _ labels

theorem formatLabels_toList (labels : Labels) :
    (formatLabels labels).toList = Exposition.labelsChars (sortedItems labels) := by
  have empty : sortedItems labels = [] ↔ labels = [] := by
    rw [← List.length_eq_zero_iff, (sortedItems_perm labels).length_eq, List.length_eq_zero_iff]
  have entry : (String.toList ∘ fun label : String × String =>
      label.1 ++ "=\"" ++ escapeLabel label.2 ++ "\"") = Exposition.labelChars := by
    funext label
    simp [Exposition.labelChars, escapeLabel_toList]
  rw [formatLabels, Exposition.labelsChars]
  simp only [empty]
  split
  · rfl
  · rw [String.toList_append, String.toList_append, intercalateText_toList, List.map_map, entry]
    rfl

theorem metricLine_toList {cast : Json → Number} {value : Json} {n : Int}
    (h : numeric cast value = .int n) (name : String) (labels : Labels) :
    (metricLine cast name value labels).toList =
      Exposition.write ⟨name, sortedItems labels, n⟩ := by
  rw [metricLine, h, Exposition.write, String.toList_append, String.toList_append,
    String.toList_append, formatLabels_toList, List.append_assoc, List.append_assoc]
  rfl

namespace Gauge

variable {cast : Json → Number} {g : Gauge} {n : Int}

theorem named_mk {name help : String} {value : Json} {labels : Labels}
    (metric : Exposition.IsName name) (single : '\n' ∉ help.toList)
    (keys : ∀ label ∈ labels, Exposition.IsName label.1) :
    (Gauge.mk name help value labels).Named :=
  ⟨metric, keys, single⟩

theorem named_sample (named : g.Named) (n : Int) : (g.sample n).Named :=
  ⟨named.metric, fun label hl => named.labels label ((sortedItems_perm g.labels).mem_iff.mp hl)⟩

theorem line_toList (h : numeric cast g.value = .int n) :
    (g.line cast).toList = Exposition.write (g.sample n) :=
  metricLine_toList h g.name g.labels

theorem newline_notMem_line (named : g.Named) (h : numeric cast g.value = .int n) :
    '\n' ∉ (g.line cast).toList := by
  rw [line_toList h]
  exact Exposition.newline_notMem_write (named_sample named n)

theorem read_line (named : g.Named) (h : numeric cast g.value = .int n) :
    Exposition.read (g.line cast).toList = some (g.sample n) := by
  rw [line_toList h, Exposition.read_write (named_sample named n)]

/-- Of the three lines of a gauge a reader takes the last. -/
theorem filter_lines (named : g.Named) (h : numeric cast g.value = .int n) :
    ((g.lines cast).map String.toList).filter Exposition.isSample =
      [Exposition.write (g.sample n)] := by
  rw [lines, List.map_cons, List.map_cons, List.map_cons, List.map_nil, line_toList h,
    List.filter_cons_of_neg (by simp [Exposition.isSample]),
    List.filter_cons_of_neg (by simp [Exposition.isSample]),
    List.filter_cons_of_pos (Exposition.isSample_write (named_sample named n)), List.filter_nil]

theorem newline_notMem_lines (named : g.Named) (h : numeric cast g.value = .int n) :
    ∀ line ∈ (g.lines cast).map String.toList, '\n' ∉ line := by
  have name : '\n' ∉ g.name.toList := fun hm => absurd (named.metric.chars _ hm) (by decide)
  have sample := newline_notMem_line named h
  simp only [lines, List.map_cons, List.map_nil, List.forall_mem_cons, List.not_mem_nil,
    false_implies, implies_true, and_true]
  refine ⟨?_, ?_, sample⟩
  · simp [name, named.help]
  · simp [name]

end Gauge

/-! ## The gauges of a check -/

theorem checkLabels_named (print : Printing) (payload : Fields) :
    ∀ label ∈ checkLabels print payload, Exposition.IsName label.1 := by
  simp only [checkLabels, List.forall_mem_cons, List.not_mem_nil, false_implies, implies_true,
    and_true]
  decide

/-- Each gauge has the labels of the check, the last one its frontier status besides. -/
theorem checkGauges_labels {print : Printing} {payload : Fields} {gauges : List Gauge}
    (h : checkGauges print payload = .ok gauges) : gauges ≠ [] ∧ ∀ g ∈ gauges, g.Named ∧
      (g.labels = checkLabels print payload ∨ ∃ status, checkFrontierStatus payload = .ok status ∧
        g.labels = checkLabels print payload ++ [("frontier_status", print.str status)]) := by
  have labels := checkLabels_named print payload
  obtain ⟨counterexamples, -, h⟩ := bind_eq_ok h
  obtain ⟨breaches, -, h⟩ := bind_eq_ok h
  obtain ⟨status, frontier, h⟩ := bind_eq_ok h
  obtain rfl := Except.ok.inj h
  refine ⟨List.append_ne_nil_of_left_ne_nil (List.cons_ne_nil _ _) _, ?_⟩
  intro g hg
  rcases List.mem_append.mp hg with hg | hg
  · simp only [List.mem_cons, List.not_mem_nil, or_false] at hg
    rcases hg with rfl | rfl | rfl | rfl | rfl
    all_goals exact ⟨Gauge.named_mk (by decide) (by decide) labels, Or.inl rfl⟩
  · split at hg
    · obtain rfl := List.mem_singleton.mp hg
      refine ⟨Gauge.named_mk (by decide) (by decide) ?_, Or.inr ⟨status, frontier, rfl⟩⟩
      intro label hl
      rcases List.mem_append.mp hl with hl | hl
      · exact labels label hl
      · have key : Exposition.IsName "frontier_status" := by decide
        rwa [List.mem_singleton.mp hl]
    · cases hg

/-- A document of gauges is read as their samples. -/
theorem readAll_gauges {cast : Json → Number} {gauges : List Gauge} (values : Gauge → Int)
    (named : ∀ g ∈ gauges, g.Named) (integers : ∀ g ∈ gauges, numeric cast g.value = .int (values g)) :
    Exposition.readAll
      (['\n'].intercalate (((gauges.flatMap (Gauge.lines cast)).map String.toList) ++ [[]])) =
      some (gauges.map fun g => g.sample (values g)) := by
  have samples : ((gauges.flatMap (Gauge.lines cast)).map String.toList).filter Exposition.isSample =
      (gauges.map fun g => g.sample (values g)).map Exposition.write := by
    induction gauges with
    | nil => rfl
    | cons g gauges ih =>
      rw [List.flatMap_cons, List.map_append, List.filter_append,
        Gauge.filter_lines (named g List.mem_cons_self) (integers g List.mem_cons_self),
        ih (fun g' hg => named g' (List.mem_cons_of_mem g hg))
          fun g' hg => integers g' (List.mem_cons_of_mem g hg)]
      rfl
  rw [Exposition.readAll_lines, samples, Exposition.mapM_read_write]
  · intro s hs
    obtain ⟨g, hg, rfl⟩ := List.mem_map.mp hs
    exact Gauge.named_sample (named g hg) (values g)
  · intro line hline
    obtain ⟨text, ht, rfl⟩ := List.mem_map.mp hline
    obtain ⟨g, hg, ht⟩ := List.mem_flatMap.mp ht
    exact Gauge.newline_notMem_lines (named g hg) (integers g hg) _ (List.mem_map_of_mem ht)

theorem intercalate_concat {separator : List Char} {parts : List (List Char)} (some_ : parts ≠ []) :
    separator.intercalate (parts ++ [[]]) = separator.intercalate parts ++ separator := by
  induction parts with
  | nil => exact absurd rfl some_
  | cons part parts ih =>
    cases parts with
    | nil => simp
    | cons next parts =>
      rw [List.cons_append, List.cons_append, List.intercalate_cons_cons, ← List.cons_append,
        ih (List.cons_ne_nil next parts), List.intercalate_cons_cons]
      simp

theorem prometheusMetrics_read {print : Printing} {cast : Json → Number} {payload : Fields}
    {gauges : List Gauge} (h : checkGauges print payload = .ok gauges) (values : Gauge → Int)
    (integers : ∀ g ∈ gauges, numeric cast g.value = .int (values g)) :
    ∃ text, prometheusMetrics print payload cast = .ok text ∧
      Exposition.readAll text.toList = some (gauges.map fun g => g.sample (values g)) := by
  obtain ⟨some_, named⟩ := checkGauges_labels h
  have written : (gauges.flatMap (Gauge.lines cast)).map String.toList ≠ [] := by
    cases gauges with
    | nil => exact absurd rfl some_
    | cons g gauges => exact List.cons_ne_nil _ _
  refine ⟨intercalateText "\n" (gauges.flatMap (Gauge.lines cast)) ++ "\n", ?_, ?_⟩
  · rw [prometheusMetrics, h]
    rfl
  · rw [String.toList_append, intercalateText_toList]
    exact (congrArg Exposition.readAll (intercalate_concat written).symm).trans
      (readAll_gauges values (fun g hg => (named g hg).1) integers)

/-- A text, or its default where it is empty. -/
def textOr (default text : String) : String := if text = "" then default else text

theorem checkLabels_texts (print : Printing) {payload : Fields} {invariant status guarantee : String}
    (hi : Fields.get? payload "invariant" = some (.str invariant))
    (hs : Fields.get? payload "status" = some (.str status))
    (hg : Fields.get? payload "guarantee" = some (.str guarantee)) :
    checkLabels print payload = [("invariant", textOr "unknown" invariant),
      ("status", textOr "Unknown" status), ("guarantee", textOr "unknown" guarantee)] := by
  have text : ∀ value default : String,
      print.str ((Json.str value).orElse (.str default)) = textOr default value := by
    intro value default
    by_cases empty : value = "" <;> simp [Json.orElse, Json.truthy, textOr, empty, Printing.str]
  simp only [checkLabels, Json.get, hi, hs, hg, Option.getD_some, text]

/-- Each metric of a check is one line, which a reader takes apart into the name, the labels
and the value it was made of; and so is the document of them all. -/
theorem prometheus_decodes (print : Printing) (cast : Json → Number) :
    (∀ (g : Gauge) (n : Int), g.Named → numeric cast g.value = .int n →
      '\n' ∉ (g.line cast).toList ∧
      Exposition.read (g.line cast).toList = some ⟨g.name, sortedItems g.labels, n⟩ ∧
      (sortedItems g.labels).Perm g.labels) ∧
    (∀ (g g' : Gauge) (n n' : Int), g.Named → g'.Named → numeric cast g.value = .int n →
      numeric cast g'.value = .int n' → ¬g.labels.Perm g'.labels → g.line cast ≠ g'.line cast) ∧
    (∀ (payload : Fields) (gauges : List Gauge), checkGauges print payload = .ok gauges →
      (∀ g ∈ gauges, g.Named ∧
        (g.labels = checkLabels print payload ∨ ∃ status, checkFrontierStatus payload = .ok status ∧
          g.labels = checkLabels print payload ++ [("frontier_status", print.str status)])) ∧
      ∀ values : Gauge → Int, (∀ g ∈ gauges, numeric cast g.value = .int (values g)) →
        ∃ text, prometheusMetrics print payload cast = .ok text ∧
          Exposition.readAll text.toList =
            some (gauges.map fun g => ⟨g.name, sortedItems g.labels, values g⟩)) ∧
    ∀ (payload : Fields) (invariant status guarantee : String),
      Fields.get? payload "invariant" = some (.str invariant) →
      Fields.get? payload "status" = some (.str status) →
      Fields.get? payload "guarantee" = some (.str guarantee) →
      checkLabels print payload = [("invariant", textOr "unknown" invariant),
        ("status", textOr "Unknown" status), ("guarantee", textOr "unknown" guarantee)] := by
  refine ⟨?_, ?_, ?_, ?_⟩
  · intro g n named value
    exact ⟨g.newline_notMem_line named value, g.read_line named value, sortedItems_perm g.labels⟩
  · intro g g' n n' named named' value value' other same
    have written : Exposition.write (g.sample n) = Exposition.write (g'.sample n') := by
      rw [← g.line_toList value, same, g'.line_toList value']
    have samples := Exposition.write_injective (g.named_sample named n)
      (g'.named_sample named' n') written
    have labels : sortedItems g.labels = sortedItems g'.labels :=
      congrArg Exposition.Sample.labels samples
    exact other ((sortedItems_perm g.labels).symm.trans (labels ▸ sortedItems_perm g'.labels))
  · intro payload gauges found
    exact ⟨(checkGauges_labels found).2, fun values => prometheusMetrics_read found values⟩
  · intro payload invariant status guarantee hi hs hg
    exact checkLabels_texts print hi hs hg

def quotedLabels : Labels :=
  [("invariant", "paid\"orders\\n"), ("status", "Drift,\x7d\nDetected"), ("guarantee", "unknown")]

def quotedPayload : Fields :=
  [("invariant", .str "paid\"orders\\n"), ("status", .str "Drift,\x7d\nDetected"),
    ("guarantee", .str ""), ("drift_count", .int 8)]

/-- Labels with quotes, a backslash before an `n`, a comma, a brace and a newline. -/
theorem prometheus_decodes_quoted :
    checkLabels plainPrinting quotedPayload = quotedLabels ∧
    Exposition.read (metricLine (fun _ => .int 0) "kubedataguard_drift_count" (.int 8)
      quotedLabels).toList = some ⟨"kubedataguard_drift_count", sortedItems quotedLabels, 8⟩ ∧
    metricLine (fun _ => .int 0) "kubedataguard_drift_count" (.int 8) quotedLabels ≠
      metricLine (fun _ => .int 0) "kubedataguard_drift_count" (.int 8) [] ∧
    ∃ text, prometheusMetrics plainPrinting quotedPayload (fun _ => .int 0) = .ok text ∧
      Exposition.readAll text.toList = some [
        ⟨"kubedataguard_drift_count", sortedItems quotedLabels, 8⟩,
        ⟨"kubedataguard_checked_records", sortedItems quotedLabels, 0⟩,
        ⟨"kubedataguard_counterexample_count", sortedItems quotedLabels, 0⟩,
        ⟨"kubedataguard_slo_breach_count", sortedItems quotedLabels, 0⟩,
        ⟨"kubedataguard_check_healthy", sortedItems quotedLabels, 0⟩] := by
  obtain ⟨line, distinct, document, texts⟩ := prometheus_decodes plainPrinting fun _ => .int 0
  have labels : checkLabels plainPrinting quotedPayload = quotedLabels := by
    rw [texts quotedPayload _ _ _ rfl rfl rfl]
    simp [textOr, quotedLabels]
  have named : ∀ label ∈ quotedLabels, Exposition.IsName label.1 := by decide
  have gauge : (Gauge.mk "kubedataguard_drift_count" "" (.int 8) quotedLabels).Named :=
    Gauge.named_mk (by decide) (by decide) named
  have bare : (Gauge.mk "kubedataguard_drift_count" "" (.int 8) []).Named :=
    Gauge.named_mk (by decide) (by decide) (by decide)
  refine ⟨labels, (line _ 8 gauge rfl).2.1, ?_, ?_⟩
  · apply distinct _ _ 8 8 gauge bare rfl rfl
    intro same
    exact absurd same.length_eq (by decide)
  · have frontier : checkFrontierStatus quotedPayload = .ok .null := by
      simp [checkFrontierStatus, quotedPayload, Json.get, Json.member, Json.orElse, Json.truthy,
        Fields.get?_cons]
    let gauge (name help : String) (value : Int) : Gauge := ⟨name, help, .int value, quotedLabels⟩
    have gauges : checkGauges plainPrinting quotedPayload = .ok [
        gauge "kubedataguard_drift_count" "Number of current drift counterexamples." 8,
        gauge "kubedataguard_checked_records" "Number of records checked in the last run." 0,
        gauge "kubedataguard_counterexample_count" "Number of compact counterexamples emitted." 0,
        gauge "kubedataguard_slo_breach_count" "Number of historical SLO breaches observed." 0,
        gauge "kubedataguard_check_healthy" "Whether the last check was healthy." 0] := by
      rw [checkGauges, labels, frontier]
      rfl
    let value (g : Gauge) : Int := if g.name = "kubedataguard_drift_count" then 8 else 0
    obtain ⟨text, written, read⟩ := (document quotedPayload _ gauges).2 value (by
      simp [gauge, value, numeric])
    refine ⟨text, written, read.trans ?_⟩
    simp [gauge, value]

end KubeDataGuard
