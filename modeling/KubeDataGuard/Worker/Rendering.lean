import KubeDataGuard.Worker.Handoff
import KubeDataGuard.Worker.Markdown
import KubeDataGuard.Worker.OffsetEvidence
import KubeDataGuard.Worker.Resume

/-!
# Rendering a report

When the texts of a report can be made. The markdown report is written for
orders: it asks every missing record for a status and an amount. A report of a
query has its rows instead.
-/

namespace KubeDataGuard

/-! ## When a report can be written -/

section Members

variable {value : Json} {key : String}

theorem member_ok (dict : value.IsDict) (key : String) : value.member key = .ok (value.get key) := by
  obtain ⟨members, rfl⟩ := dict
  rfl

theorem returns_member : Returns (value.member key) ↔ value.IsDict := by
  constructor
  · rintro ⟨found, h⟩
    cases value with
    | obj members => exact ⟨members, rfl⟩
    | _ => cases h
  · intro dict
    rw [member_ok dict]
    exact returns_ok _

theorem returns_item {members : Fields} :
    Returns ((Json.obj members).item key) ↔ (Fields.get? members key).isSome = true := by
  unfold Json.item
  cases found : Fields.get? members key <;> simp [found]

theorem memberLines_dict (print : Printing) (dict : value.IsDict) (labels : List (String × String)) :
    Returns (memberLines print value labels) := by
  unfold memberLines
  rw [returns_mapM]
  rintro ⟨label, key⟩ _
  simp only
  rw [member_ok dict]
  exact returns_pure _

theorem dict_of_memberLines {print : Printing} {entry : String × String}
    {labels : List (String × String)} {lines : List String}
    (run : memberLines print value (entry :: labels) = .ok lines) : value.IsDict := by
  have each := (returns_mapM _ _).mp ⟨lines, run⟩
  obtain ⟨line, made⟩ := each entry List.mem_cons_self
  obtain ⟨found, read, -⟩ := bind_eq_ok made
  exact returns_member.mp ⟨found, read⟩

theorem orElse_isDict (falsy : value.truthy = true → value.IsDict) :
    (value.orElse (.obj [])).IsDict := by
  unfold Json.orElse
  split
  · rename_i truthy
    exact falsy truthy
  · exact ⟨[], rfl⟩

end Members

/-- A frontier of which every part that is read is a `dict`, or nothing. -/
structure DictFrontier (frontier : Json) : Prop where
  dict : frontier.IsDict
  stream : ((frontier.get "stream").orElse (.obj [])).IsDict
  outbox : ((frontier.get "outbox").orElse (.obj [])).IsDict
  source : ((frontier.get "source").orElse (.obj [])).IsDict
  target : ((frontier.get "target").orElse (.obj [])).IsDict
  targetFrontier :
    ((((frontier.get "target").orElse (.obj [])).get "frontier").orElse (.obj [])).IsDict

section Sections

variable (print : Printing)

theorem returns_frontierLines {frontier : Json} :
    Returns (frontierLines print frontier) ↔ DictFrontier frontier := by
  constructor
  · rintro ⟨lines, run⟩
    obtain ⟨_, hstream, -⟩ := bind_eq_ok run
    have dict := returns_member.mp ⟨_, hstream⟩
    unfold frontierLines at run
    simp only [member_ok dict, ok_bind] at run
    obtain ⟨_, hfrontier, -⟩ := bind_eq_ok run
    have target := returns_member.mp ⟨_, hfrontier⟩
    simp only [member_ok target, ok_bind] at run
    obtain ⟨_, -, run⟩ := bind_eq_ok run
    obtain ⟨_, hsource, run⟩ := bind_eq_ok run
    obtain ⟨_, houtbox, run⟩ := bind_eq_ok run
    obtain ⟨_, hstream, run⟩ := bind_eq_ok run
    obtain ⟨_, -, run⟩ := bind_eq_ok run
    obtain ⟨_, hevidence, -⟩ := bind_eq_ok run
    exact ⟨dict, dict_of_memberLines hstream, dict_of_memberLines houtbox,
      dict_of_memberLines hsource, target, dict_of_memberLines hevidence⟩
  · intro h
    unfold frontierLines
    simp only [member_ok h.dict, member_ok h.target, ok_bind]
    apply (memberLines_dict print h.dict _).bind
    intro status
    apply (memberLines_dict print h.source _).bind
    intro source
    apply (memberLines_dict print h.outbox _).bind
    intro outbox
    apply (memberLines_dict print h.stream _).bind
    intro stream
    apply (memberLines_dict print h.target _).bind
    intro readAt
    apply (memberLines_dict print h.targetFrontier _).bind
    intro evidence
    apply (memberLines_dict print h.target _).bind
    intro proof
    exact returns_pure _

omit print in
theorem returns_ifTruthy {value : Json} {lines : Except Raised (List String)} :
    Returns (ifTruthy value lines) ↔ (value.truthy = true → Returns lines) := by
  unfold ifTruthy
  split <;> simp [*]

theorem returns_dumps {value : Json} : Returns (print.dumps value) ↔ value.dumps = true := by
  unfold Printing.dumps
  split <;> simp [*]

theorem returns_jsonBlock {value : Json} :
    Returns (jsonBlock print value) ↔ value.dumps = true := by
  unfold jsonBlock
  rw [returns_then _ (p := True), and_true, returns_dumps]
  intro text _
  simp

theorem returns_scanLines {scan : Json} (dumps : scan.dumps = true) :
    Returns (scanLines print scan) ↔ scan.IsDict := by
  constructor
  · rintro ⟨lines, run⟩
    obtain ⟨_, read, -⟩ := bind_eq_ok run
    exact dict_of_memberLines read
  · intro dict
    unfold scanLines
    apply (memberLines_dict print dict _).bind
    intro lines
    rw [member_ok dict, ok_bind]
    have loaded : Returns (jsonBlock print (scan.get "loaded_checkpoint")) :=
      (returns_jsonBlock print).mpr (dumps_get dumps _)
    apply (returns_ifTruthy.mpr fun _ => loaded.bind fun _ => returns_pure _).bind
    intro loadedPart
    exact returns_pure _

theorem returns_windowLines {w : ObservationWindow} (scanDumps : w.sourceScan.dumps = true) :
    Returns (windowLines print w.toDict) ↔
      (w.cdcFrontier.truthy = true → DictFrontier w.cdcFrontier) ∧
        (w.sourceScan.truthy = true → w.sourceScan.IsDict) := by
  have dict : w.toDict.IsDict := ⟨_, rfl⟩
  have frontier : w.toDict.get "cdc_frontier" = w.cdcFrontier := rfl
  have scan : w.toDict.get "source_scan" = w.sourceScan := rfl
  unfold windowLines
  rw [returns_then _ (p := (w.cdcFrontier.truthy = true → DictFrontier w.cdcFrontier) ∧
    (w.sourceScan.truthy = true → w.sourceScan.IsDict)),
    and_iff_right (memberLines_dict print dict _)]
  intro lines _
  rw [member_ok dict, ok_bind, frontier,
    returns_then _ (p := w.sourceScan.truthy = true → w.sourceScan.IsDict), returns_ifTruthy,
    returns_frontierLines]
  intro frontierPart _
  rw [member_ok dict, ok_bind, scan, returns_then _ (p := True), and_true, returns_ifTruthy,
    returns_scanLines print scanDumps]
  intro scanPart _
  simp

theorem returns_headerLines (r : DriftReport) : Returns (headerLines print r.toDict) := by
  simp [headerLines, DriftReport.toDict, Json.item, Fields.get?_cons, Json.length, Json.elements]

theorem returns_itemSection {title : String} {items : List Json}
    {line : Json → Except Raised String} :
    Returns (itemSection title (.arr items) line) ↔ ∀ item ∈ items, Returns (line item) := by
  unfold itemSection
  rw [returns_ifTruthy, Json.elements, ok_bind, returns_then _ (p := True), and_true, returns_mapM]
  · cases items <;> simp [Json.truthy]
  · intro lines _
    simp

/-- The line of a missing record needs two members of its row. -/
theorem returns_missingLine {item id : Json} {source : Fields}
    (hsource : item.item "source" = .ok (.obj source)) (hid : item.item "order_id" = .ok id) :
    Returns (missingLine print item) ↔ (Fields.get? source "status").isSome = true ∧
      (Fields.get? source "amount_cents").isSome = true := by
  unfold missingLine
  rw [hsource, ok_bind, hid, ok_bind,
    returns_then _ (p := (Fields.get? source "amount_cents").isSome = true), returns_item]
  intro status _
  rw [returns_then _ (p := True), and_true, returns_item]
  intro amountCents _
  simp

theorem returns_staleLine {item id : Json} {mismatches : List Json}
    (hmismatches : item.item "mismatches" = .ok (.arr mismatches))
    (hid : item.item "order_id" = .ok id)
    (fields : ∀ m ∈ mismatches, ∃ field source target, m = fieldMismatch field source target) :
    Returns (staleLine print item) := by
  have texts : Returns (mismatches.mapM (mismatchText print)) := by
    rw [returns_mapM]
    intro m hm
    obtain ⟨field, source, target, rfl⟩ := fields m hm
    exact ⟨_, rfl⟩
  unfold staleLine
  rw [hmismatches, ok_bind, Json.elements, ok_bind]
  apply texts.bind
  intro parts
  rw [hid, ok_bind]
  exact returns_pure _

theorem returns_counterexamples (r : DriftReport) :
    ∀ item ∈ r.counterexamples, Returns (counterexampleLine print item) := by
  intro item hi
  simp only [DriftReport.counterexamples, List.mem_append, List.mem_map] at hi
  rcases hi with ((⟨entry, -, rfl⟩ | ⟨entry, -, rfl⟩) | ⟨entry, -, rfl⟩) | ⟨entry, -, rfl⟩ <;>
    simp [counterexampleLine, aggregateLine, Json.item, Json.member, Fields.get?_cons]

/-- What a report of a check must have for its markdown to be written. -/
theorem returns_markdownReport {r : DriftReport} {w : ObservationWindow}
    (window : r.observationWindow = some w) (scanDumps : w.sourceScan.dumps = true)
    (status : (Json.obj (r.kubernetesStatus none)).dumps = true) :
    Returns (markdownReport print r.toDict) ↔
      ((w.cdcFrontier.truthy = true → DictFrontier w.cdcFrontier) ∧
        (w.sourceScan.truthy = true → w.sourceScan.IsDict)) ∧
      (∀ item ∈ r.missing, Returns (missingLine print item)) ∧
      (∀ item ∈ r.stale, Returns (staleLine print item)) ∧
      (∀ item ∈ r.aggregateMismatches, Returns (aggregateLine print "- " item)) ∧
      (∀ item ∈ r.freshnessViolations, Returns (freshnessLine print item)) ∧
      ∀ item ∈ r.freshnessBreaches, Returns (freshnessLine print item) := by
  have windowDict : (Json.obj r.toDict).get "observation_window" = w.toDict := by
    change r.windowDict = w.toDict
    rw [DriftReport.windowDict, window]
  have kept : w.toDict.orElse (.obj []) = w.toDict := rfl
  rw [← returns_windowLines print scanDumps]
  constructor
  · rintro ⟨text, run⟩
    obtain ⟨_, -, run⟩ := bind_eq_ok run
    obtain ⟨_, hwindow, run⟩ := bind_eq_ok run
    rw [windowDict, kept] at hwindow
    obtain ⟨_, -, run⟩ := bind_eq_ok run
    obtain ⟨_, ⟨⟩, run⟩ := bind_eq_ok run
    obtain ⟨_, missing, run⟩ := bind_eq_ok run
    obtain ⟨_, ⟨⟩, run⟩ := bind_eq_ok run
    obtain ⟨_, stale, run⟩ := bind_eq_ok run
    obtain ⟨_, aggregates, run⟩ := bind_eq_ok run
    obtain ⟨_, violations, run⟩ := bind_eq_ok run
    obtain ⟨_, breaches, -⟩ := bind_eq_ok run
    exact ⟨returns_ifTruthy.mp ⟨_, hwindow⟩ rfl, returns_itemSection.mp ⟨_, missing⟩,
      returns_itemSection.mp ⟨_, stale⟩, returns_itemSection.mp ⟨_, aggregates⟩,
      returns_itemSection.mp ⟨_, violations⟩, returns_itemSection.mp ⟨_, breaches⟩⟩
  · rintro ⟨lines, missing, stale, aggregates, violations, breaches⟩
    unfold markdownReport
    apply (returns_headerLines print r).bind
    intro header
    rw [windowDict, kept]
    apply (returns_ifTruthy.mpr fun _ => lines).bind
    intro windowPart
    have block := (returns_jsonBlock print).mpr status
    apply (returns_ifTruthy.mpr fun _ => block.bind fun _ => returns_pure _).bind
    intro statusPart
    apply (returns_itemSection.mpr missing).bind
    intro missingPart
    apply (returns_itemSection.mpr stale).bind
    intro stalePart
    apply (returns_itemSection.mpr aggregates).bind
    intro aggregatePart
    apply (returns_itemSection.mpr violations).bind
    intro violationPart
    apply (returns_itemSection.mpr breaches).bind
    intro breachPart
    apply (returns_itemSection.mpr (returns_counterexamples print r)).bind
    intro counterexamplePart
    exact returns_pure _

end Sections

/-! ## What a report is written from -/

/-- The four forms of a report there are: all of them can be made. -/
structure Written (print : Printing) (report : DriftReport) : Prop where
  toDict : (Json.obj report.toDict).dumps = true
  compact : ∃ members, compactReport report.toDict = .ok members ∧ (Json.obj members).dumps = true
  repairInput : (repairInput report.toDict).dumps = true
  markdown : ∃ text, markdownReport print report.toDict = .ok text

/-- The frontier and the scan of a window have a JSON form and the members that
are read of them. -/
structure PlainEvidence (frontier scan : Json) : Prop where
  frontierDumps : frontier.dumps = true
  scanDumps : scan.dumps = true
  frontierDict : frontier.truthy = true → DictFrontier frontier
  scanDict : scan.truthy = true → scan.IsDict

@[simp] theorem dumps_optionalText (text : Option String) : (optionalText text).dumps = true := by
  cases text <;> rfl

@[simp] theorem dumps_optionalInt (n : Option Int) : (optionalInt n).dumps = true := by
  cases n <;> rfl

theorem dumps_window {w : ObservationWindow} : w.toDict.dumps = true ↔
    w.cdcFrontier.dumps = true ∧ w.sourceScan.dumps = true ∧ w.checksumTree.dumps = true := by
  simp [ObservationWindow.toDict, Json.dumps, dumpsMembers]

section Report

variable {r : DriftReport} {w : ObservationWindow}

theorem dumps_kubernetesStatus (window : r.observationWindow = some w)
    (dumps : w.toDict.dumps = true) (reportRef : Option String) :
    (Json.obj (r.kubernetesStatus reportRef)).dumps = true := by
  have renamed : (kubernetesObservationWindow w.toDict).dumps = true := by
    refine dumpsMembers_iff.mpr fun e he => ?_
    obtain ⟨⟨name, key⟩, -, rfl⟩ := List.mem_map.mp (List.mem_filter.mp he).1
    exact dumps_get dumps key
  simp [DriftReport.kubernetesStatus, window, Json.dumps, dumpsMembers, renamed,
    dumps_get renamed]

theorem dumps_counterexamples (missing : dumpsItems r.missing = true)
    (stale : dumpsItems r.stale = true) (aggregates : dumpsItems r.aggregateMismatches = true)
    (violations : dumpsItems r.freshnessViolations = true) :
    dumpsItems r.counterexamples = true := by
  rw [dumpsItems_iff] at *
  intro item hi
  simp only [DriftReport.counterexamples, List.mem_append, List.mem_map] at hi
  rcases hi with ((⟨entry, he, rfl⟩ | ⟨entry, he, rfl⟩) | ⟨entry, he, rfl⟩) | ⟨entry, he, rfl⟩
  · have members := dumps_get (missing entry he)
    simp [Json.dumps, dumpsMembers, members, dumps_get (members "source")]
  · have members := dumps_get (stale entry he)
    simp [Json.dumps, dumpsMembers, members, dumps_get (members "source"),
      dumps_get (members "target")]
  · simp [Json.dumps, dumpsMembers, dumps_get (aggregates entry he)]
  · simp [Json.dumps, dumpsMembers, dumps_get (violations entry he)]

theorem dumps_toDict (window : r.observationWindow = some w) :
    (Json.obj r.toDict).dumps = true ↔ dumpsItems r.missing = true ∧ dumpsItems r.stale = true ∧
      dumpsItems r.aggregateMismatches = true ∧ dumpsItems r.freshnessViolations = true ∧
      dumpsItems r.freshnessBreaches = true ∧ w.toDict.dumps = true := by
  have windowDict : r.windowDict = w.toDict := by rw [DriftReport.windowDict, window]
  constructor
  · intro dumps
    simp [DriftReport.toDict, Json.dumps, dumpsMembers, windowDict] at dumps
    tauto
  · rintro ⟨missing, stale, aggregates, violations, breaches, dumps⟩
    have status := dumps_kubernetesStatus window dumps none
    have examples := dumps_counterexamples missing stale aggregates violations
    rw [Json.dumps] at status
    simp [DriftReport.toDict, Json.dumps, dumpsMembers, *]

theorem length_orElse (items : List Json) :
    ((Json.arr items).orElse (.arr [])).length = .ok items.length := by
  cases items <;> rfl

theorem compactReport_dumps (window : r.observationWindow = some w)
    (dumps : (Json.obj r.toDict).dumps = true)
    (frontier : (w.cdcFrontier.orElse (.obj [])).IsDict) :
    ∃ members, compactReport r.toDict = .ok members ∧ (Json.obj members).dumps = true := by
  have windowDict : (Json.obj r.toDict).get "observation_window" = w.toDict := by
    change r.windowDict = w.toDict
    rw [DriftReport.windowDict, window]
  have kept : w.toDict.orElse (.obj []) = w.toDict := rfl
  have dict : w.toDict.IsDict := ⟨_, rfl⟩
  have counterexamples : (Json.obj r.toDict).get "counterexamples" = .arr r.counterexamples := rfl
  have breaches : (Json.obj r.toDict).get "freshness_breaches" = .arr r.freshnessBreaches := rfl
  have windowDumps := ((dumps_toDict window).mp dumps).2.2.2.2.2
  have frontierDumps : (w.cdcFrontier.orElse (.obj [])).dumps = true := by
    unfold Json.orElse
    split
    · exact (dumps_window.mp windowDumps).1
    · rfl
  unfold compactReport
  simp only [windowDict, kept, member_ok dict, ok_bind, counterexamples, breaches, length_orElse]
  rw [show w.toDict.get "cdc_frontier" = w.cdcFrontier from rfl]
  simp only [member_ok frontier, ok_bind]
  refine ⟨_, rfl, ?_⟩
  simp [Json.dumps, dumpsMembers, dumps_get dumps, dumps_get windowDumps, dumps_get frontierDumps]

theorem dumps_kept {items : List Json} (dumps : dumpsItems items = true) :
    dumpsItems (items.filterMap keptEntry) = true := by
  rw [dumpsItems_kept]
  intro item hi kept hkept
  cases item with
  | obj members =>
    cases hkept
    have all := dumpsMembers_iff.mp (dumpsItems_iff.mp dumps _ hi)
    exact dumpsMembers_iff.mpr fun e he => all e (List.mem_filter.mp he).1
  | _ => cases hkept

theorem repairInput_dumps_of_toDict (window : r.observationWindow = some w)
    (dumps : (Json.obj r.toDict).dumps = true) : (repairInput r.toDict).dumps = true := by
  obtain ⟨missing, stale, aggregates, violations, -, -⟩ := (dumps_toDict window).mp dumps
  rw [repairInput_dumps, dumps_kept missing, dumps_kept stale, dumps_kept violations, aggregates]
  rfl

/-- An entry that is stored as it is and has a line. -/
def Entered (line : Json → Except Raised String) (items : List Json) : Prop :=
  ∀ item ∈ items, item.dumps = true ∧ Returns (line item)

theorem entered_iff {line : Json → Except Raised String} {items : List Json} :
    Entered line items ↔ dumpsItems items = true ∧ ∀ item ∈ items, Returns (line item) := by
  rw [dumpsItems_iff]
  constructor
  · exact fun h => ⟨fun item hi => (h item hi).1, fun item hi => (h item hi).2⟩
  · exact fun h item hi => ⟨h.1 item hi, h.2 item hi⟩

/-- A report is written exactly when its evidence and each of its entries are. -/
theorem written_iff (print : Printing) (window : r.observationWindow = some w) :
    Written print r ↔ PlainEvidence w.cdcFrontier w.sourceScan ∧ w.checksumTree.dumps = true ∧
      Entered (missingLine print) r.missing ∧ Entered (staleLine print) r.stale ∧
      Entered (aggregateLine print "- ") r.aggregateMismatches ∧
      Entered (freshnessLine print) r.freshnessViolations ∧
      Entered (freshnessLine print) r.freshnessBreaches := by
  simp only [entered_iff]
  constructor
  · intro written
    obtain ⟨missing, stale, aggregates, violations, breaches, windowDumps⟩ :=
      (dumps_toDict window).mp written.toDict
    obtain ⟨frontierDumps, scanDumps, tree⟩ := dumps_window.mp windowDumps
    obtain ⟨⟨frontier, scan⟩, lines⟩ := (returns_markdownReport print window scanDumps
      (dumps_kubernetesStatus window windowDumps none)).mp written.markdown
    obtain ⟨missingLines, staleLines, aggregateLines, violationLines, breachLines⟩ := lines
    exact ⟨⟨frontierDumps, scanDumps, frontier, scan⟩, tree, ⟨missing, missingLines⟩,
      ⟨stale, staleLines⟩, ⟨aggregates, aggregateLines⟩, ⟨violations, violationLines⟩,
      ⟨breaches, breachLines⟩⟩
  · rintro ⟨evidence, tree, missing, stale, aggregates, violations, breaches⟩
    have windowDumps := dumps_window.mpr ⟨evidence.frontierDumps, evidence.scanDumps, tree⟩
    have dumps := (dumps_toDict window).mpr
      ⟨missing.1, stale.1, aggregates.1, violations.1, breaches.1, windowDumps⟩
    refine ⟨dumps, ?_, repairInput_dumps_of_toDict window dumps, ?_⟩
    · apply compactReport_dumps window dumps
      exact orElse_isDict fun truthy => (evidence.frontierDict truthy).dict
    · apply (returns_markdownReport print window evidence.scanDumps
        (dumps_kubernetesStatus window windowDumps none)).mpr
      exact ⟨⟨evidence.frontierDict, evidence.scanDict⟩, missing.2, stale.2, aggregates.2,
        violations.2, breaches.2⟩

end Report

/-! ## Reports of orders -/

theorem dumps_serializeOrder (o : Order) : (serializeOrder o).dumps = true := by
  refine dumpsMembers_iff.mpr fun e he => ?_
  obtain ⟨field, -, rfl⟩ := List.mem_map.mp he
  exact dumps_scalarJson _

theorem dumps_document (d : Document) : d.toJson.dumps = true := by
  refine dumpsMembers_iff.mpr fun e he => ?_
  obtain ⟨field, -, made⟩ := List.mem_filterMap.mp he
  obtain ⟨value, -, rfl⟩ := Option.map_eq_some_iff.mp made
  exact dumps_scalarJson (some value)

/-- A report of orders and documents is written where its evidence is. -/
theorem written_ordersToIndex (print : Printing) (sourceOrders : List Order)
    (indexedOrders : String → Option Document) {ev : Evidence}
    (evidence : PlainEvidence ev.cdcFrontier .null) :
    Written print (comparePaidOrdersToIndex sourceOrders indexedOrders ev) := by
  rw [written_iff print rfl, ordersToIndex_missing, ordersToIndex_stale]
  refine ⟨evidence, rfl, ?_, ?_, nofun, nofun, nofun⟩
  · intro e he
    obtain ⟨o, -, made⟩ := List.mem_filterMap.mp he
    cases found : indexedOrders o.id with
    | some d =>
      rw [found] at made
      cases made
    | none =>
      rw [found] at made
      cases made
      refine ⟨by simp [Json.dumps, dumpsMembers, dumps_serializeOrder], ?_⟩
      exact (returns_missingLine print rfl rfl).mpr ⟨rfl, rfl⟩
  · intro e he
    obtain ⟨o, -, made⟩ := List.mem_filterMap.mp he
    cases found : indexedOrders o.id with
    | none =>
      rw [found] at made
      cases made
    | some d =>
      rw [found, indexStale] at made
      split at made <;> cases made
      refine ⟨by simp [Json.dumps, dumpsMembers, dumps_serializeOrder, dumps_document,
        dumps_orderFields], ?_⟩
      refine returns_staleLine print rfl rfl fun m hm => ?_
      obtain ⟨field, -, made⟩ := List.mem_filterMap.mp hm
      split at made <;> cases made
      exact ⟨_, _, _, rfl⟩

/-! ## Reports of queries -/

section Query

variable (rows targetRows : List Row) (keyField : String) (compareFields : List String)

/-- What the rows of a query must be for the report of their drift to be written:
a missing row has a status and an amount, and the values of every row in the
report have a JSON form. -/
structure Reportable : Prop where
  missing : ∀ row ∈ rows, (row.get keyField).isNone = false →
    targetByKey targetRows keyField (row.get keyField).text = none →
      row.has "status" = true ∧ row.has "amount_cents" = true ∧ row.toJson.dumps = true
  unkeyed : ∀ row ∈ rows, (row.get keyField).isNone = true → row.toJson.dumps = true
  stale : ∀ row ∈ rows, (row.get keyField).isNone = false → ∀ found,
    targetByKey targetRows keyField (row.get keyField).text = some found →
      (∃ field ∈ compareFields,
        comparableValue (row.get field) ≠ comparableValue (found.get field)) →
      row.toJson.dumps = true ∧ found.toJson.dumps = true

variable (print : Printing)

theorem row_get? (row : Row) (key : String) :
    (Fields.get? (row.map fun (key, value) => (key, value.toJson)) key).isSome = row.has key := by
  induction row with
  | nil => rfl
  | cons e row ih =>
    obtain ⟨k, v⟩ := e
    rw [List.map_cons, Fields.get?_cons, Row.has, List.lookup_cons]
    by_cases h : key = k
    · simp [h]
    · rw [if_neg h, ih, Row.has]
      simp [beq_eq_false_iff_ne.mpr h]

theorem dumps_row {row : Row} :
    row.toJson.dumps = true ↔ ∀ e ∈ row, e.2.toJson.dumps = true := by
  rw [Row.toJson, dumpsMembers_iff, List.forall_mem_map]

theorem dumps_value {row : Row} (dumps : row.toJson.dumps = true) (field : String) :
    (row.get field).toJson.dumps = true := by
  unfold Row.get
  cases found : List.lookup field row with
  | none => rfl
  | some value =>
    obtain ⟨before, after, rfl, -⟩ := List.lookup_eq_some_iff.mp found
    exact dumps_row.mp dumps (field, value) (List.mem_append_right before List.mem_cons_self)

variable {keyField} in
/-- The entry of a missing row is printed with two columns of the row. -/
theorem queryMissing_written {row : Row} {found : Option Row} :
    (∀ e, queryMissing keyField row found = some e →
      e.dumps = true ∧ Returns (missingLine print e)) ↔
    ((row.get keyField).isNone = false → found = none →
      row.has "status" = true ∧ row.has "amount_cents" = true ∧ row.toJson.dumps = true) := by
  unfold queryMissing
  cases (row.get keyField).isNone with
  | true => simp
  | false =>
    cases found with
    | some target => simp
    | none =>
      simp only [Bool.false_eq_true, if_false, Option.some.injEq, forall_eq', forall_const]
      rw [returns_missingLine print rfl rfl, row_get?, row_get?]
      simp only [Json.dumps, dumpsMembers, Bool.true_and, Bool.and_true]
      tauto

variable {keyField compareFields} in
theorem mismatch_iff {row found : Row} :
    (compareNamedFields row found compareFields).isEmpty = false ↔ ∃ field ∈ compareFields,
      comparableValue (row.get field) ≠ comparableValue (found.get field) := by
  rw [Bool.eq_false_iff, ne_eq, List.isEmpty_iff, compareNamedFields, List.filterMap_eq_nil_iff]
  simp

variable {keyField compareFields} in
/-- The entry of a stale row is written where its two rows have a JSON form. -/
theorem queryStale_written {row : Row} {found : Option Row} :
    (∀ e, queryStale keyField compareFields row found = some e →
      e.dumps = true ∧ Returns (staleLine print e)) ↔
    ((row.get keyField).isNone = true → row.toJson.dumps = true) ∧
    ((row.get keyField).isNone = false → ∀ target, found = some target →
      (∃ field ∈ compareFields,
        comparableValue (row.get field) ≠ comparableValue (target.get field)) →
      row.toJson.dumps = true ∧ target.toJson.dumps = true) := by
  unfold queryStale
  cases (row.get keyField).isNone with
  | true =>
    have line : Returns (staleLine print (.obj [("order_id", .null),
        ("reason", .str ("source row is missing key field " ++ keyField)),
        ("mismatches", .arr [fieldMismatch keyField .null .null]), ("source", row.toJson),
        ("target", .obj [])])) := by
      refine returns_staleLine print rfl rfl fun m hm => ?_
      rw [List.mem_singleton.mp hm]
      exact ⟨_, _, _, rfl⟩
    simp only [if_true, Option.some.injEq, forall_eq', forall_const, and_iff_left line]
    simp [Json.dumps, dumpsMembers, dumpsItems, fieldMismatch]
  | false =>
    cases found with
    | none => simp
    | some target =>
      simp only [Bool.false_eq_true, if_false, false_imp_iff, true_and, forall_const,
        Option.some.injEq, forall_eq']
      rw [← mismatch_iff]
      cases agree : (compareNamedFields row target compareFields).isEmpty with
      | true => simp
      | false =>
        have line : Returns (staleLine print (.obj [("order_id", .str (row.get keyField).text),
            ("reason", .str "target row differs from source row"),
            ("mismatches", .arr (compareNamedFields row target compareFields)),
            ("source", row.toJson), ("target", target.toJson)])) := by
          refine returns_staleLine print rfl rfl fun m hm => ?_
          obtain ⟨field, -, made⟩ := List.mem_filterMap.mp hm
          split at made <;> cases made
          exact ⟨_, _, _, rfl⟩
        simp only [Bool.false_eq_true, if_false, Option.some.injEq, forall_eq', forall_const,
          and_iff_left line]
        -- the mismatches are made of values of the two rows
        have mismatches : row.toJson.dumps = true → target.toJson.dumps = true →
            dumpsItems (compareNamedFields row target compareFields) = true := by
          intro source found
          rw [dumps_namedFields]
          exact fun field _ _ => ⟨dumps_value source field, dumps_value found field⟩
        simp only [Json.dumps, dumpsMembers, Bool.true_and, Bool.and_true, Bool.and_eq_true]
        exact ⟨fun h => h.2, fun h => ⟨mismatches h.1 h.2, h⟩⟩

variable (invariantName guarantee : String) (sourceScan : Json) (checkStatus : CheckStatus)
  (ev : Evidence)

theorem written_queryResults : Written print (compareQueryResults invariantName rows targetRows
    keyField compareFields guarantee sourceScan checkStatus ev) ↔
      PlainEvidence ev.cdcFrontier sourceScan ∧
        Reportable rows targetRows keyField compareFields := by
  rw [written_iff print rfl]
  apply and_congr_right
  intro _
  rw [queryResults_missing, queryResults_stale]
  simp only [Entered, List.mem_filterMap]
  constructor
  · rintro ⟨-, missing, stale, -⟩
    have staleRow : ∀ row ∈ rows, _ := fun row hr =>
      (queryStale_written print).mp fun e made => stale e ⟨row, hr, made⟩
    refine ⟨?_, fun row hr => (staleRow row hr).1, fun row hr => (staleRow row hr).2⟩
    intro row hr
    exact (queryMissing_written print).mp fun e made => missing e ⟨row, hr, made⟩
  · intro reportable
    refine ⟨rfl, ?_, ?_, nofun, nofun, nofun⟩
    · rintro e ⟨row, hr, made⟩
      exact (queryMissing_written print).mpr (reportable.missing row hr) e made
    · rintro e ⟨row, hr, made⟩
      exact (queryStale_written print).mpr
        ⟨reportable.unkeyed row hr, reportable.stale row hr⟩ e made

end Query

/-! ## The evidence of a check -/

/-- A `dict` with a JSON form, or nothing. -/
structure PlainDict (value : Json) : Prop where
  dumps : value.dumps = true
  dict : value.truthy = true → value.IsDict

theorem plainDict_obj {members : Fields} (dumps : (Json.obj members).dumps = true) :
    PlainDict (.obj members) := ⟨dumps, fun _ => ⟨members, rfl⟩⟩

theorem plain_targetOffsetFrontier (name : String) (index : Index) :
    PlainDict (targetOffsetFrontier name index).dict := by
  have offsets : dumpsItems ((appliedOffsets index.positions).map AppliedOffset.toJson) = true := by
    rw [dumpsItems_iff, List.forall_mem_map]
    intro o _
    simp [AppliedOffset.toJson, Json.dumps, dumpsMembers]
  apply plainDict_obj
  simp [Json.dumps, dumpsMembers, offsets]

theorem dumps_outboxDict (outbox : Except Raised OutboxFrontier) :
    (outboxDict outbox).dumps = true := by
  cases outbox with
  | error e => rfl
  | ok o =>
    have published : dumpsItems (o.publishedOffsets.map PublishedOffset.toJson) = true := by
      rw [dumpsItems_iff, List.forall_mem_map]
      intro p _
      simp [PublishedOffset.toJson, Json.dumps, dumpsMembers]
    simp [outboxDict, Json.dumps, dumpsMembers, published]

theorem plain_scanEvidenceDict (args : QueryArgs) (e : ScanEvidence) (loaded : Option Checkpoint)
    (ref : Option String) : PlainDict (scanEvidenceDict args e loaded ref) := by
  apply plainDict_obj
  rw [dumpsMembers_iff]
  simp only [List.forall_mem_append]
  refine ⟨⟨⟨⟨?_, by simp [Json.dumps]⟩, ?_⟩, ?_⟩, ?_⟩
  · simp [ScanEvidence.toDict, Json.dumps]
  · split <;> simp [Json.dumps]
  · cases ref with
    | none => simp
    | some r =>
      by_cases empty : r = ""
      · simp [empty]
      · simp [empty, Json.dumps]
  · cases loaded <;> simp [Json.dumps, dumpsMembers]

/-- What a check passes on of the frontier and the scan is plain. -/
theorem plain_evidence (readings : Readings) (args : QueryArgs) (e : ScanEvidence)
    (loaded : Option Checkpoint) (ref : Option String) (maxLagSeconds : Int)
    (sourceWatermark : Option String)
    (target : ∀ t, readings.targetFrontier = .ok t → PlainDict t.dict) :
    PlainEvidence (readings.evidence maxLagSeconds sourceWatermark none).cdcFrontier
      (scanEvidenceDict args e loaded ref) := by
  have scan := plain_scanEvidenceDict args e loaded ref
  have plain : ∀ t : TargetFrontier, PlainDict t.dict → PlainEvidence
      (buildCdcFrontier (sourceLsnOrNone readings.sourceLsn) sourceWatermark readings.outboxFrontier
        (streamOffsets readings.streamOffsets) readings.streamTopic readings.targetReadAt t)
      (scanEvidenceDict args e loaded ref) := by
    intro t dict
    have partitions (offsets : List PartitionOffsets) :
        dumpsItems (offsets.map PartitionOffsets.toJson) = true := by
      rw [dumpsItems_iff, List.forall_mem_map]
      intro o _
      simp [PartitionOffsets.toJson, Json.dumps, dumpsMembers]
    refine ⟨?_, scan.dumps, fun _ => ⟨⟨_, rfl⟩, ⟨_, rfl⟩, ?_, ⟨_, rfl⟩, ⟨_, rfl⟩, ?_⟩, scan.dict⟩
    · simp [buildCdcFrontier, Json.dumps, dumpsMembers, dumps_outboxDict, dict.dumps, partitions]
    · exact orElse_isDict fun _ => by cases h : readings.outboxFrontier <;> exact ⟨_, rfl⟩
    · exact orElse_isDict dict.dict
  unfold Readings.evidence Readings.buildCheckCdcFrontier
  cases found : readings.targetFrontier with
  | ok t => exact plain t (target t found)
  | error e => exact plain _ (plainDict_obj rfl)

/-! ## The Job -/

theorem returns_renderReports {print : Printing} {report : DriftReport} : Written print report ↔
    Returns (renderReports print report) ∧ (repairInput report.toDict).dumps = true := by
  constructor
  · rintro ⟨dumps, ⟨members, compact, compactDumps⟩, candidates, markdown⟩
    refine ⟨?_, candidates⟩
    have json := (returns_dumps print).mpr dumps
    apply json.bind
    intro text
    apply Returns.bind markdown
    intro markdown
    rw [compact, ok_bind]
    apply ((returns_dumps print).mpr compactDumps).bind
    intro compact
    exact json.bind fun _ => returns_pure _
  · rintro ⟨⟨texts, run⟩, candidates⟩
    obtain ⟨_, json, run⟩ := bind_eq_ok run
    obtain ⟨markdown, hmarkdown, run⟩ := bind_eq_ok run
    obtain ⟨members, compact, run⟩ := bind_eq_ok run
    obtain ⟨_, compactDumps, -⟩ := bind_eq_ok run
    exact ⟨(returns_dumps print).mp ⟨_, json⟩,
      ⟨members, compact, (returns_dumps print).mp ⟨_, compactDumps⟩⟩, candidates,
      ⟨markdown, hmarkdown⟩⟩

/-- What the operator hands a repair is made of what is in the report itself. -/
theorem renders_iff_written {print : Printing} {report : DriftReport} {w : ObservationWindow}
    (window : report.observationWindow = some w) :
    Returns (renderReports print report) ↔ Written print report := by
  rw [returns_renderReports]
  refine ⟨fun renders => ⟨renders, ?_⟩, And.left⟩
  obtain ⟨_, run⟩ := renders
  obtain ⟨_, json, -⟩ := bind_eq_ok run
  exact repairInput_dumps_of_toDict window ((returns_dumps print).mp ⟨_, json⟩)

/-- What a check of rows returned can be rendered exactly when the rows it fetched are
reportable. -/
theorem checked_drift_rendered_iff (print : Printing) {calls : QueryCalls} {args : QueryArgs}
    {readings : Readings} {w t : ScanWorld} {report : DriftReport}
    (target : ∀ frontier, readings.targetFrontier = .ok frontier → PlainDict frontier.dict)
    (h : checkQueryInvariant calls args readings w = (.ok report, t)) :
    ∃ pages targetRows, t.fetched = w.fetched ++ pages ∧ calls.targetRows = .ok targetRows ∧
      (Returns (renderReports print report) ↔
        Reportable ((pages.flatMap Prod.snd).map serializeQueryRow) targetRows args.keyField
          args.compareFields) := by
  obtain ⟨loaded, result, u, ref, targetRows, -, hscan, hsave, htarget, rfl⟩ :=
    checkQueryInvariant_returned h
  obtain ⟨-, hloop⟩ := executeSourceQueryKeyset_returned hscan
  obtain ⟨pages, hpages, hrows, -⟩ := scanLoop_records ScanWorld.fetched
    (fun after s page t hfetch => (fetchLogged_ok hfetch).1)
    (fun e s t hpage => saveOnPage_fetched hpage) hloop
  refine ⟨pages, targetRows, (saveCheckpoint_fetched hsave).trans hpages, htarget, ?_⟩
  have rows : result.rows = (pages.flatMap Prod.snd).map serializeQueryRow := by
    simpa [Scan.start] using hrows
  rw [renders_iff_written rfl, written_queryResults, rows, and_iff_right]
  exact plain_evidence readings args result.evidence loaded ref args.maxLagSeconds
    result.evidence.sourceWatermark target

/-- A Job whose report cannot be rendered ends with what the rendering raised, and
publishes nothing. -/
theorem unrendered_unpublished {print : Printing} {calls : WorkerCalls} {args : JobArgs}
    {w u : WorkerWorld} {namespaceName : String} {report : DriftReport} {e : Raised}
    {store : List String → Except Raised String}
    (named : calls.namespaceName = .ok namespaceName)
    (ran : Py.onScan (checkInvariant calls.checks args.check) w = (.ok report, u))
    (raised : renderReports print report = .error e)
    (writes : calls.report.writeReport = renderReports print report >>= store) :
    runCheckJob calls args w = (.error e, u) := by
  rw [raised, error_bind] at writes
  refine (Py.ofExcept_bind calls.namespaceName _ w).trans ?_
  rw [named]
  simp only [ran]
  rw [Py.bind_run, writeReportArtifacts, Py.ofExcept_bind, writes]

/-- The report of a query check whose Job found its rows is rendered exactly when they are
reportable; where they are not, the Job fails after the check and publishes nothing. -/
theorem unreportable_rows_unpublished {print : Printing} {calls : WorkerCalls} {args : JobArgs}
    {w u : WorkerWorld} {namespaceName : String} {report : DriftReport}
    {store : List String → Except Raised String} (query : args.check.invariant = "query")
    (target : ∀ frontier, calls.checks.readings.targetFrontier = .ok frontier →
      PlainDict frontier.dict)
    (named : calls.namespaceName = .ok namespaceName)
    (ran : Py.onScan (checkInvariant calls.checks args.check) w = (.ok report, u))
    (writes : calls.report.writeReport = renderReports print report >>= store) :
    ∃ pages targetRows, u.scan.fetched = w.scan.fetched ++ pages ∧
      calls.checks.query.targetRows = .ok targetRows ∧
      (Returns (renderReports print report) ↔
        Reportable ((pages.flatMap Prod.snd).map serializeQueryRow) targetRows args.check.keyField
          args.check.compareFields) ∧
      (¬Reportable ((pages.flatMap Prod.snd).map serializeQueryRow) targetRows args.check.keyField
          args.check.compareFields →
        ∃ e, runCheckJob calls args w = (.error e, u) ∧ u.published = w.published) := by
  obtain ⟨checked, unpublished⟩ := onScan_run ran
  obtain ⟨pages, targetRows, fetched, rows, renders⟩ :=
    checked_drift_rendered_iff print target (checkInvariant_query query checked)
  refine ⟨pages, targetRows, fetched, rows, renders, fun unreportable => ?_⟩
  cases rendered : renderReports print report with
  | ok texts => exact absurd (renders.mp ⟨texts, rendered⟩) unreportable
  | error e => exact ⟨e, unrendered_unpublished named ran rendered writes, unpublished⟩

/-- One account without a status, which the target does not have. -/
def unstatusedChecks : CheckCalls :=
  { storesOnly 0 with
    query :=
      { fetchPage := fun _ after limit =>
          .ok (pageQuery Value.text "id" [[("id", .str "a1"), ("balance", .int 10)]] after limit)
        loadFailure := none
        save := fun _ => .stored "file://checkpoint"
        savedAt := fun _ => 0
        targetRows := .ok []
        fuel := 3 } }

def unstatusedJob : JobArgs where
  kind := .checkJob
  check :=
    { invariant := "query", maxLagSeconds := 60, invariantName := "accounts",
      sourceQuery := "select * from accounts", targetQuery := "{}" }
  configMap := "accounts-report"
  observedGeneration := 1

def unstatusedWorker (report : DriftReport) : WorkerCalls where
  checks := unstatusedChecks
  report :=
    { writeReport := renderReports plainPrinting report >>= fun _ => .ok "file://report"
      reloadFailure := none }
  failedAt := 0
  observability := .ok ()
  readReport := .ok ()
  fetchOrdersByIds := fun _ => .ok []
  indexOrder := fun _ => .ok ()
  request := fun _ _ => .ok []
  namespaceName := .ok "default"
  publish := .stored "accounts-report"

theorem unreportable_rows_unpublished_account : ∃ report u,
    Py.onScan (checkInvariant unstatusedChecks unstatusedJob.check) ⟨{ checkpoint := none }, none⟩ =
      (.ok report, u) ∧ ¬Returns (renderReports plainPrinting report) ∧
    ∃ e, runCheckJob (unstatusedWorker report) unstatusedJob ⟨{ checkpoint := none }, none⟩ =
      (.error e, u) ∧ u.published = none := by
  obtain ⟨report, u, ran⟩ : ∃ report u, Py.onScan (checkInvariant unstatusedChecks
      unstatusedJob.check) ⟨{ checkpoint := none }, none⟩ = (.ok report, u) := ⟨_, _, rfl⟩
  have raises : ((Py.onScan (checkInvariant unstatusedChecks unstatusedJob.check)
      ⟨{ checkpoint := none }, none⟩).1.toOption.any fun report =>
        (renderReports plainPrinting report).toBool) = false := by decide +kernel
  have unrendered : ¬Returns (renderReports plainPrinting report) := by
    rintro ⟨texts, rendered⟩
    rw [ran] at raises
    simp [Except.toOption, rendered, Except.toBool] at raises
  have down : ∀ frontier, (unstatusedWorker report).checks.readings.targetFrontier = .ok frontier →
      PlainDict frontier.dict := by
    intro frontier read
    cases read
  obtain ⟨pages, targetRows, -, -, renders, fails⟩ :=
    @unreportable_rows_unpublished plainPrinting (unstatusedWorker report) unstatusedJob
      ⟨{ checkpoint := none }, none⟩ u "default" report (fun _ => .ok "file://report") rfl down rfl
      ran rfl
  exact ⟨report, u, ran, unrendered, fails fun reportable => unrendered (renders.mpr reportable)⟩

/-! ## Any result set -/

/-- The drift of any result set a query can return is reported exactly when the
evidence is plain and every row in the report is one the report can be written of. -/
theorem drift_reported_iff (print : Printing) (invariantName : String)
    (resultSet targetRows : List Row) (keyField : String) (compareFields : List String)
    (guarantee : String) (sourceScan : Json) (checkStatus : CheckStatus) (ev : Evidence) :
    Written print (compareQueryResults invariantName (resultSet.map serializeQueryRow) targetRows
      keyField compareFields guarantee sourceScan checkStatus ev) ↔
    PlainEvidence ev.cdcFrontier sourceScan ∧
      Reportable (resultSet.map serializeQueryRow) targetRows keyField compareFields :=
  written_queryResults (resultSet.map serializeQueryRow) targetRows keyField compareFields print
    invariantName guarantee sourceScan checkStatus ev

/-! Two rows that are missing in the target: an account without a status, and an
order whose id is a `uuid`. -/

def missingRow (row : Row) : DriftReport :=
  compareQueryResults "accounts" ([row].map serializeQueryRow) [] "id" ["balance"]
    "existence+fieldEquality" .null .complete
    { maxLagSeconds := 0, checkedAt := 0, targetReadAt := 0, streamTopic := none,
      streamOffsetStart := none, streamOffsetEnd := none, sourceLsn := none, cdcFrontier := .null }

def account : Row := [("id", .str "a1"), ("balance", .int 10)]

def uuidOrder : Row :=
  [("id", .other "1b4e28ba-2fa1-11d2-883f-0016d3cca427" true), ("status", .str "paid"),
    ("amount_cents", .int 500)]

theorem missing_rows_unwritten :
    ((missingRow account).driftCount = 1 ∧
      markdownReport plainPrinting (missingRow account).toDict =
        .error (.exception "KeyError" "'status'") ∧
      ¬Written plainPrinting (missingRow account)) ∧
    (missingRow uuidOrder).driftCount = 1 ∧ (Json.obj (missingRow uuidOrder).toDict).dumps = false ∧
      ¬Written plainPrinting (missingRow uuidOrder) := by
  have raised : markdownReport plainPrinting (missingRow account).toDict =
      .error (.exception "KeyError" "'status'") := by
    rfl
  have refused : (Json.obj (missingRow uuidOrder).toDict).dumps = false := by
    rfl
  refine ⟨⟨rfl, raised, ?_⟩, rfl, refused, ?_⟩
  · rintro ⟨-, -, -, text, written⟩
    rw [raised] at written
    cases written
  · rintro ⟨dumps, -, -, -⟩
    rw [refused] at dumps
    cases dumps

end KubeDataGuard
