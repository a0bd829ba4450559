import KubeDataGuard.Worker.Report
import KubeDataGuard.Worker.Python

/-!
# The CDC frontier of a check

What a check records about the positions of source, outbox, topic and target,
and `build_cdc_frontier`, which says whether they bound the comparison.
-/

namespace KubeDataGuard

structure PartitionOffsets where
  partition : Int
  start : Int
  stop : Int
  eventCount : Int
  deriving DecidableEq, Repr

/-- `topic_offset_range`, and what `stream_offsets` falls back to. -/
structure StreamOffsets where
  offsetStart : Option Int := none
  offsetEnd : Option Int := none
  partitions : Int := 0
  eventCount : Option Int := none
  offsets : List PartitionOffsets := []
  deriving DecidableEq, Repr

structure PublishedOffset where
  topic : Option String
  partition : Option Int
  eventCount : Int
  maxPublishedOffset : Option Int
  deriving DecidableEq, Repr

structure OutboxFrontier where
  eventCount : Int
  publishedCount : Int
  unpublishedCount : Int
  maxId : Option Int
  maxCreatedAt : Option String
  maxPublishedAt : Option String
  offsetRecordedCount : Int
  publishedOffsets : List PublishedOffset
  deriving DecidableEq, Repr

structure AppliedOffset where
  topic : Option String
  partition : Int
  eventCount : Int
  maxAppliedOffset : Option Int
  deriving DecidableEq, Repr

/-- A target's frontier: its `dict`, and what `build_cdc_frontier` reads of it. -/
structure TargetFrontier where
  available : Bool := true
  appliedOffsets : List AppliedOffset := []
  dict : Json

/-- `str(exc)` -/
def Raised.text : Raised → String
  | .exception _ text | .systemExit text => text
  | .killed => ""

def streamOffsets (call : Except Raised StreamOffsets) : StreamOffsets :=
  match call with
  | .ok offsets => offsets
  | .error _ => {}

def sourceLsnOrNone (call : Except Raised String) : Option String :=
  match call with
  | .ok lsn => some lsn
  | .error _ => none

def PublishedOffset.toJson (o : PublishedOffset) : Json :=
  .obj [("topic", optionalText o.topic), ("partition", optionalInt o.partition),
    ("event_count", .int o.eventCount), ("max_published_offset", optionalInt o.maxPublishedOffset)]

def outboxDict : Except Raised OutboxFrontier → Json
  | .ok o => .obj [("mode", .str "postgres-outbox"), ("event_count", .int o.eventCount),
      ("published_count", .int o.publishedCount), ("unpublished_count", .int o.unpublishedCount),
      ("max_id", optionalInt o.maxId), ("max_created_at", optionalText o.maxCreatedAt),
      ("max_published_at", optionalText o.maxPublishedAt),
      ("offset_recorded_count", .int o.offsetRecordedCount),
      ("published_offsets", .arr (o.publishedOffsets.map PublishedOffset.toJson))]
  | .error e => .obj [("mode", .str "postgres-outbox"), ("available", .bool false),
      ("error", .str e.text)]

def unavailableTarget (e : Raised) : TargetFrontier where
  available := false
  dict := .obj [("system", .str "opensearch"), ("available", .bool false), ("error", .str e.text)]

def PartitionOffsets.toJson (o : PartitionOffsets) : Json :=
  .obj [("partition", .int o.partition), ("start", .int o.start), ("end", .int o.stop),
    ("event_count", .int o.eventCount)]

def reprChar (quote c : Char) : List Char :=
  if c = quote ∨ c = '\\' then ['\\', c]
  else if c = '\n' then ['\\', 'n']
  else if c = '\r' then ['\\', 'r']
  else if c = '\t' then ['\\', 't']
  else [c]

/-- `repr` of a printable string. -/
def reprText (s : String) : String :=
  let chars := s.toList
  let quote := if '\'' ∈ chars ∧ '"' ∉ chars then '"' else '\''
  String.ofList (quote :: chars.flatMap (reprChar quote) ++ [quote])

def reprOptional : Option String → String
  | some s => reprText s
  | none => "None"

def optionalIntText : Option Int → String
  | some n => toString n
  | none => "None"

section Frontier

variable (sourceLsn sourceWatermark : Option String) (outbox : Except Raised OutboxFrontier)
  (offsets : StreamOffsets) (streamTopic : String) (targetReadAt : Instant)
  (target : TargetFrontier)

def sourceReasons : List String :=
  if sourceLsn.all (· == "") then ["source WAL LSN unavailable"] else []

def outboxReasons : List String :=
  match outbox with
  | .error _ => ["source outbox frontier unavailable"]
  | .ok o =>
    (if 0 < o.unpublishedCount then
      [toString o.unpublishedCount ++ " eligible outbox events are unpublished"] else []) ++
    (if o.offsetRecordedCount < o.publishedCount then
      [toString (o.publishedCount - o.offsetRecordedCount) ++
        " published outbox events have no Kafka offset evidence"] else [])

def streamReasons : List String :=
  match offsets.eventCount, offsets.offsetStart, offsets.offsetEnd, outbox with
  | some count, some _, some _, .ok o =>
    if count < o.publishedCount then
      ["Kafka topic exposes " ++ toString count ++ " events but outbox has " ++
        toString o.publishedCount ++ " published events"]
    else []
  | some _, some _, some _, .error _ => []
  | _, _, _, _ => ["Kafka topic offset frontier unavailable"]

def partitionEnd (partition : Option Int) : Option Int :=
  ((offsets.offsets.reverse.find? fun o => some o.partition == partition).map
    PartitionOffsets.stop)

def appliedOffset (topic : Option String) (partition : Option Int) : Option Int :=
  (target.appliedOffsets.reverse.find? fun o =>
    o.topic == topic && some o.partition == partition).bind AppliedOffset.maxAppliedOffset

/-- What stands against one partition the outbox published to. -/
def publishedReasons (p : PublishedOffset) : List String :=
  if p.topic ≠ some streamTopic then
    ["outbox event frontier is for topic " ++ reprOptional p.topic ++ ", not configured topic " ++
      reprText streamTopic]
  else
    match partitionEnd offsets p.partition, p.maxPublishedOffset with
    | some stop, some published =>
      (if stop ≤ published then
        ["Kafka partition " ++ optionalIntText p.partition ++ " end offset " ++ toString stop ++
          " does not cover published outbox offset " ++ toString published] else []) ++
      (if target.available then
        match appliedOffset target p.topic p.partition with
        | none => ["target partition " ++ optionalIntText p.partition ++
            " applied-offset frontier unavailable"]
        | some applied =>
          if applied < published then
            ["target partition " ++ optionalIntText p.partition ++ " applied offset " ++
              toString applied ++ " does not cover published outbox offset " ++ toString published]
          else []
      else [])
    | _, _ => ["Kafka partition " ++ optionalIntText p.partition ++ " frontier unavailable"]

def targetReasons : List String :=
  if target.available then [] else ["target applied-offset frontier unavailable"]

def frontierReasons : List String :=
  sourceReasons sourceLsn ++ outboxReasons outbox ++ streamReasons outbox offsets ++
    targetReasons target ++
    match outbox with
    | .ok o => o.publishedOffsets.flatMap (publishedReasons offsets streamTopic target)
    | .error _ => []

/-- Every reason makes the frontier partial; nothing known at all makes it unavailable. -/
def frontierStatus : String :=
  if sourceLsn.all (· == "") ∧ outbox.toOption.isNone ∧ offsets.eventCount.isNone then "unavailable"
  else if (frontierReasons sourceLsn outbox offsets streamTopic target).isEmpty then "bounded"
  else "partial"

def buildCdcFrontier : Json :=
  let reasons := frontierReasons sourceLsn outbox offsets streamTopic target
  .obj [("mode", .str "postgres-wal+outbox+kafka"),
    ("status", .str (frontierStatus sourceLsn outbox offsets streamTopic target)),
    ("reason", .str (if reasons.isEmpty then
      "source WAL, outbox, Kafka topic, and target applied-offset frontiers bound this check"
      else intercalateText "; " reasons)),
    ("source", .obj [("system", .str "postgres"), ("lsn", optionalText sourceLsn),
      ("watermark", optionalText sourceWatermark)]),
    ("outbox", outboxDict outbox),
    ("stream", .obj [("system", .str "kafka"), ("topic", .str streamTopic),
      ("offset_start", optionalInt offsets.offsetStart),
      ("offset_end", optionalInt offsets.offsetEnd), ("partitions", .int offsets.partitions),
      ("event_count", optionalInt offsets.eventCount),
      ("partition_offsets", .arr (offsets.offsets.map PartitionOffsets.toJson))]),
    ("target", .obj [("read_at", .str (iso targetReadAt)), ("frontier", target.dict),
      ("offset_gap_proof", .str "max-offset-watermark-only")])]

end Frontier

end KubeDataGuard
