import KubeDataGuard.Worker.Config
import KubeDataGuard.Worker.DirectRepair
import KubeDataGuard.Worker.Indexer

/-!
# Repairs that ask others

The modes that hand the candidates on: lines of a file, messages, posts to a
webhook and a backfill. Whichever call raises, what was handed on before names
the first candidates, each once; a mode returns when it has named all.
-/

namespace KubeDataGuard

/-- A call that took effect. A producer's own retries of a message are one call. -/
inductive Request
  | opened (path : String)
  | line (path : String) (payload : Fields)
  | message (topic : String) (key : Option String) (payload : Fields)
  | post (endpoint : String) (payload : Fields)
  | written (path : String) (payload : Fields)
  /-- `backfill_orders_analytics`, of all paid orders if there are no ids. -/
  | backfilled (ids : Option (List (Option String)))

inductive SendOutcome
  | sent (reply : Fields)
  | lost (e : Raised)
  | sentThenRaised (e : Raised)

structure RequestCalls where
  environ : Environ
  orderEventsTopic : String
  reportDir : String
  /-- `int(time.time())` -/
  seconds : Int
  send : Request → SendOutcome
  /-- What `str.format` makes of a field that is not `id`. -/
  field : List Char → Option String → Except Raised String

/-! ## Templates of keys -/

inductive Piece
  | char (c : Char)
  | id
  | field (text : List Char)
  deriving DecidableEq, Repr

/-- The text of a field up to its brace, `depth` fields deep, and what follows. -/
def replacementField : Nat → List Char → Option (List Char × List Char)
  | _, [] => none
  | depth, '}' :: rest =>
    match depth with
    | 0 => some ([], rest)
    | depth + 1 => (replacementField depth rest).map fun (text, rest) => ('}' :: text, rest)
  | depth, '{' :: rest => (replacementField (depth + 1) rest).map fun (text, rest) => ('{' :: text, rest)
  | depth, c :: rest => (replacementField depth rest).map fun (text, rest) => (c :: text, rest)

/-- The pieces of a template up to the first brace that has no partner. -/
def templatePieces (fuel : Nat) (template : List Char) : List Piece × Bool :=
  match fuel, template with
  | _, [] => ([], true)
  | 0, _ => ([], false)
  | fuel + 1, '{' :: '{' :: rest =>
    let (pieces, closed) := templatePieces fuel rest
    (.char '{' :: pieces, closed)
  | fuel + 1, '}' :: '}' :: rest =>
    let (pieces, closed) := templatePieces fuel rest
    (.char '}' :: pieces, closed)
  | _ + 1, '}' :: _ => ([], false)
  | fuel + 1, '{' :: rest =>
    match replacementField 0 rest with
    | none => ([], false)
    | some (text, rest) =>
      let (pieces, closed) := templatePieces fuel rest
      ((if text = "id".toList then .id else .field text) :: pieces, closed)
  | fuel + 1, c :: rest =>
    let (pieces, closed) := templatePieces fuel rest
    (.char c :: pieces, closed)

/-- `str` of an id. -/
def idText (id : Option String) : String := id.getD "None"

def formatPieces (field : List Char → Option String → Except Raised String) (id : Option String) :
    List Piece → Except Raised (List Char)
  | [] => .ok []
  | .char c :: pieces => (formatPieces field id pieces).map (c :: ·)
  | .id :: pieces => (formatPieces field id pieces).map ((idText id).toList ++ ·)
  | .field text :: pieces => do
    let value ← field text id
    (formatPieces field id pieces).map (value.toList ++ ·)

/-- `template.format(id=id)` -/
def formatId (field : List Char → Option String → Except Raised String) (template : String)
    (id : Option String) : Except Raised String := do
  let (pieces, closed) := templatePieces template.length template.toList
  let text ← formatPieces field id pieces
  if closed then return String.ofList text
  else .error (valueError "unbalanced braces in format string")

/-! ## The modes -/

section Modes

variable (calls : RequestCalls)

def hand (request : Request) : Py (List Request) Fields := fun log =>
  match calls.send request with
  | .sent reply => (.ok reply, log ++ [request])
  | .lost e => (.error e, log)
  | .sentThenRaised e => (.error e, log ++ [request])

/-- A loop that makes a request of each item and hands it on. -/
def handEach {α : Type} (make : α → Except Raised Request) : List α → Py (List Request) (List Fields)
  | [] => pure []
  | item :: items => do
    let request ← Py.ofExcept (make item)
    let reply ← hand calls request
    let replies ← handEach make items
    return reply :: replies

def requestPath (filenamePrefix extension : String) : String :=
  calls.reportDir ++ "/" ++ filenamePrefix ++ "-" ++ toString calls.seconds ++ extension

def requestResult (ids : List (Option String)) (mode : String) (more : Fields) : Fields :=
  ("candidate_order_ids", .arr (ids.map optionalText)) :: ("repair_mode", .str mode) :: more

def emitRequestFile (ids : List (Option String)) (mode filenamePrefix : String)
    (payloadFactory : Option String → Except Raised Fields) : Py (List Request) Fields := do
  let path := requestPath calls filenamePrefix ".jsonl"
  let _ ← hand calls (.opened path)
  let _ ← handEach calls (fun id => (payloadFactory id).map (Request.line path)) ids
  return requestResult ids mode [("emitted", .int ids.length), ("eventRef", .str ("file://" ++ path))]

def emitReconcileEvents (ids : List (Option String)) : Py (List Request) Fields :=
  emitRequestFile calls ids "emit-reconcile-events" "reconcile-events" fun id =>
    .ok [("action", .str "reconcile"), ("entity", .str "order"), ("id", optionalText id)]

def invalidationPayload (id : Option String) : Except Raised Fields := do
  let key ← formatId calls.field (getenv calls.environ "REDIS_KEY_TEMPLATE" "order:\x7bid\x7d") id
  return [("action", .str "invalidate-cache"), ("cache", .str "redis"), ("entity", .str "order"),
    ("id", optionalText id), ("key", .str key)]

def emitRedisInvalidationRequests (ids : List (Option String)) : Py (List Request) Fields :=
  emitRequestFile calls ids "invalidate-cache" "redis-invalidation" (invalidationPayload calls)

def emitClickhouseBackfillRequest (ids : List (Option String)) : Py (List Request) Fields := do
  let table := getenv calls.environ "CLICKHOUSE_BACKFILL_TABLE" "orders_analytics"
  let partitionHint := getenv calls.environ "CLICKHOUSE_BACKFILL_PARTITION" ""
  let executeBackfill :=
    (getenv calls.environ "CLICKHOUSE_BACKFILL_EXECUTE" "").toLower ∈ ["1", "true", "yes"]
  let path := requestPath calls "clickhouse-backfill" ".json"
  let scope := Json.str (if ids = [] then "full-paid-orders" else "ids")
  let _ ← hand calls (.written path
    [("action", .str "clickhouse-backfill"), ("entity", .str "order"), ("table", .str table),
      ("partition_hint", if partitionHint = "" then .null else .str partitionHint),
      ("ids", .arr (ids.map optionalText)), ("scope", scope), ("reason", .str "kubedataguard-drift")])
  let result := requestResult ids "clickhouse-backfill" [("requested", .int ids.length),
    ("backfillRef", .str ("file://" ++ path)), ("table", .str table), ("scope", scope)]
  if executeBackfill then
    let executed ← hand calls (.backfilled (if ids = [] then none else some ids))
    return result.set "executed" (.obj executed)
  else return result

def publishKafkaReplayRequests (ids : List (Option String)) : Py (List Request) Fields := do
  let topic := getenv calls.environ "REPAIR_KAFKA_TOPIC" (calls.orderEventsTopic ++ ".reconcile")
  let published ← handEach calls (fun id => .ok (.message topic id
    [("action", .str "replay"), ("entity", .str "order"), ("id", optionalText id),
      ("reason", .str "kubedataguard-drift")])) ids
  return requestResult ids "replay-kafka" [("published", .int published.length),
    ("topic", .str topic), ("events", .arr ((ids.zip published).map fun (id, metadata) =>
      .obj (("id", optionalText id) :: metadata)))]

def batches {α : Type} (values : List α) (size : Int) : Except Raised (List (List α)) :=
  if size < 1 then .error (valueError "batch size must be at least 1")
  else .ok ((List.range ((values.length + size.toNat - 1) / size.toNat)).map fun i =>
    (values.drop (i * size.toNat)).take size.toNat)

def callReconciliationWebhook (ids : List (Option String)) : Py (List Request) Fields := do
  let endpoint := getenv calls.environ "REPAIR_WEBHOOK_URL" ""
  if endpoint = "" then
    Py.raise (valueError "REPAIR_WEBHOOK_URL is required for call-webhook repair mode")
  else
    let size := getenv calls.environ "REPAIR_WEBHOOK_BATCH_SIZE" "500"
    let batchSize ← Py.ofExcept (match pythonInt size with
      | some n => .ok n
      | none => .error (intError size))
    let groups ← Py.ofExcept (batches ids batchSize)
    let responses ← handEach calls (fun batch => .ok (.post endpoint
      [("action", .str "reconcile"), ("entity", .str "order"), ("ids", .arr (batch.map optionalText)),
        ("reason", .str "kubedataguard-drift")])) groups
    return requestResult ids "call-webhook" [("endpoint", .str endpoint),
      ("dispatched", .int ids.length), ("responses", .arr ((groups.zip responses).map
        fun (batch, response) => .obj (response ++ [("count", .int batch.length)])))]

/-- `repair_from_payload`, of the ids and in the modes that ask others. -/
def requestRepair (mode : String) (ids : List (Option String)) : Py (List Request) Fields :=
  match mode with
  | "emit-reconcile-events" => emitReconcileEvents calls ids
  | "replay-kafka" => publishKafkaReplayRequests calls ids
  | "call-webhook" => callReconciliationWebhook calls ids
  | "invalidate-cache" => emitRedisInvalidationRequests calls ids
  | "clickhouse-backfill" => emitClickhouseBackfillRequest calls ids
  | _ => Py.raise (valueError ("unsupported repair mode: " ++ mode))

end Modes

/-! ## Whom requests name -/

def jsonId : Json → Option String
  | .str id => some id
  | _ => none

@[simp] theorem jsonId_optionalText (id : Option String) : jsonId (optionalText id) = id := by
  cases id <;> rfl

/-- The orders a payload names. -/
def namedIds (payload : Fields) : List (Option String) :=
  match payload.get? "id", payload.get? "ids" with
  | some id, _ => [jsonId id]
  | none, some (.arr ids) => ids.map jsonId
  | none, _ => []

theorem namedIds_id {payload : Fields} {id : Option String}
    (h : payload.get? "id" = some (optionalText id)) : namedIds payload = [id] := by
  unfold namedIds
  rw [h]
  simp only [jsonId_optionalText]

theorem namedIds_ids {payload : Fields} {ids : List (Option String)}
    (no_id : payload.get? "id" = none)
    (h : payload.get? "ids" = some (.arr (ids.map optionalText))) : namedIds payload = ids := by
  unfold namedIds
  rw [no_id, h]
  simp [Function.comp_def]

/-- A backfill carries out the request written before it. -/
def Request.names : Request → List (Option String)
  | .opened _ | .backfilled _ => []
  | .line _ payload | .message _ _ payload | .post _ payload | .written _ payload =>
    namedIds payload

section Asked

variable {calls : RequestCalls} {log log' : List Request}

/-- What was handed on names the first of the ids, and all of them if the call returned. -/
def Asked {α : Type} (ids : List (Option String)) (log log' : List Request)
    (result : Except Raised α) : Prop :=
  ∃ sent, log' = log ++ sent ∧ sent.flatMap Request.names <+: ids ∧
    ∀ value, result = .ok value → sent.flatMap Request.names = ids

theorem hand_asked {request : Request} {result : Except Raised Fields}
    (h : hand calls request log = (result, log')) : Asked request.names log log' result := by
  unfold hand at h
  split at h
  · cases h
    exact ⟨[request], rfl, by simp, fun _ _ => by simp⟩
  · cases h
    exact ⟨[], by simp, by simp, nofun⟩
  · cases h
    exact ⟨[request], rfl, by simp, nofun⟩

theorem asked_nothing {α : Type} (ids : List (Option String)) (e : Raised) :
    Asked ids log log (.error e : Except Raised α) :=
  ⟨[], by simp, by simp, nofun⟩

/-- What one call hands on comes before what the next one does. -/
theorem Asked.bind {α β : Type} {x : Py (List Request) α} {f : α → Py (List Request) β}
    {ids more : List (Option String)} {result : Except Raised β}
    (h : (x >>= f) log = (result, log'))
    (first : ∀ r u, x log = (r, u) → Asked ids log u r)
    (next : ∀ a u, x log = (.ok a, u) → f a u = (result, log') → Asked more u log' result) :
    Asked (ids ++ more) log log' result := by
  obtain ⟨e, raised, rfl⟩ | ⟨a, u, ran, rest⟩ := Py.bind_cases h
  · obtain ⟨sent, rfl, start, -⟩ := first _ _ raised
    exact ⟨sent, rfl, start.trans (List.prefix_append _ _), nofun⟩
  · obtain ⟨sent, rfl, -, whole⟩ := first _ _ ran
    obtain ⟨sent', rfl, start', whole'⟩ := next a _ ran rest
    refine ⟨sent ++ sent', (List.append_assoc _ _ _), ?_, fun value returned => ?_⟩
    · rw [List.flatMap_append, whole a rfl]
      exact (List.prefix_append_right_inj _).mpr start'
    · rw [List.flatMap_append, whole a rfl, whole' value returned]

theorem asked_pure {α : Type} (a : α) : Asked [] log log (.ok a : Except Raised α) :=
  ⟨[], by simp, by simp, fun _ _ => by simp⟩

theorem handEach_asked {α : Type} {make : α → Except Raised Request}
    (names : α → List (Option String)) (named : ∀ a r, make a = .ok r → r.names = names a)
    {items : List α} {result : Except Raised (List Fields)}
    (h : handEach calls make items log = (result, log')) :
    Asked (items.flatMap names) log log' result := by
  induction items generalizing log log' result with
  | nil =>
    cases h
    exact asked_pure _
  | cons item items ih =>
    obtain ⟨e, rfl, rfl⟩ | ⟨request, made, h⟩ := Py.ofExcept_cases h
    · exact asked_nothing _ e
    · rw [List.flatMap_cons, ← named item request made]
      refine Asked.bind h (fun _ _ => hand_asked) fun reply u _ h => ?_
      rw [← List.append_nil (items.flatMap names)]
      refine Asked.bind h (fun _ _ => ih) fun replies v _ h => ?_
      cases h
      exact asked_pure _

theorem take_batches {α : Type} (values : List α) (n k : Nat) :
    ((List.range k).map fun i => (values.drop (i * n)).take n).flatten = values.take (k * n) := by
  induction k with
  | zero => simp
  | succ k ih =>
    rw [List.range_succ, List.map_append, List.flatten_append, ih, List.map_singleton,
      List.flatten_singleton, Nat.succ_mul, List.take_add]

theorem batches_ok {α : Type} {values : List α} {size : Int} {groups : List (List α)}
    (h : batches values size = .ok groups) :
    groups.flatten = values ∧ ∀ group ∈ groups, group ≠ [] ∧ (group.length : Int) ≤ size := by
  unfold batches at h
  split at h
  · cases h
  rename_i positive
  obtain ⟨n, rfl⟩ := Int.eq_ofNat_of_zero_le (show 0 ≤ size by omega)
  cases h
  simp only [Int.toNat_natCast]
  have some_size : 0 < n := by omega
  constructor
  · rw [take_batches, List.take_of_length_le]
    have rounded := Nat.lt_div_mul_add (a := values.length + n - 1) some_size
    omega
  · intro group mem
    obtain ⟨i, small, rfl⟩ := List.mem_map.mp mem
    have below := Nat.div_mul_le_self (values.length + n - 1) n
    have inside : (i + 1) * n ≤ (values.length + n - 1) / n * n :=
      Nat.mul_le_mul_right n (List.mem_range.mp small)
    have room : i * n < values.length := by
      rw [Nat.succ_mul] at inside
      omega
    constructor
    · rw [← List.length_pos_iff, List.length_take, List.length_drop]
      omega
    · rw [List.length_take]
      omega

theorem map_eq_ok {α β : Type} {f : α → β} {x : Except Raised α} {b : β} (h : x.map f = .ok b) :
    ∃ a, x = .ok a ∧ f a = b := by
  cases x with
  | error e => cases h
  | ok a => exact ⟨a, rfl, Except.ok.inj h⟩

theorem emitRequestFile_asked {ids : List (Option String)} {mode filenamePrefix : String}
    {payloadFactory : Option String → Except Raised Fields}
    (named : ∀ id payload, payloadFactory id = .ok payload → namedIds payload = [id])
    {result : Except Raised Fields}
    (h : emitRequestFile calls ids mode filenamePrefix payloadFactory log = (result, log')) :
    Asked ids log log' result := by
  have lines : ids.flatMap (fun id => [id]) = ids := List.flatMap_singleton' ids
  unfold emitRequestFile at h
  rw [← List.nil_append ids]
  refine Asked.bind h (fun _ _ => hand_asked) fun reply u _ h => ?_
  rw [← List.append_nil ids]
  refine Asked.bind h (fun r v ran => ?_) fun replies v _ h => ?_
  · have lined := handEach_asked (fun id => [id]) (fun id r made => ?_) ran
    · rwa [lines] at lined
    · obtain ⟨payload, built, rfl⟩ := map_eq_ok made
      exact named id payload built
  · cases h
    exact asked_pure _

theorem requestRepair_asked {mode : String} {ids : List (Option String)}
    {result : Except Raised Fields} (h : requestRepair calls mode ids log = (result, log')) :
    Asked ids log log' result := by
  unfold requestRepair at h
  split at h
  · refine emitRequestFile_asked (fun id payload built => ?_) h
    cases built
    exact namedIds_id rfl
  · unfold publishKafkaReplayRequests at h
    rw [← List.append_nil ids]
    refine Asked.bind h (fun r u ran => ?_) fun replies u _ h => ?_
    · have each := handEach_asked (fun id => [id]) (fun id request made => ?_) ran
      · rwa [List.flatMap_singleton'] at each
      · cases made
        rw [Request.names]
        exact namedIds_id rfl
    · cases h
      exact asked_pure _
  · unfold callReconciliationWebhook at h
    split at h
    · cases h
      exact asked_nothing _ _
    obtain ⟨e, rfl, rfl⟩ | ⟨size, read, h⟩ := Py.ofExcept_cases h
    · exact asked_nothing _ e
    obtain ⟨e, rfl, rfl⟩ | ⟨groups, split_, h⟩ := Py.ofExcept_cases h
    · exact asked_nothing _ e
    rw [← List.append_nil ids]
    refine Asked.bind h (fun r u ran => ?_) fun replies u _ h => ?_
    · have each := handEach_asked (fun batch => batch) (fun batch request made => ?_) ran
      · rwa [List.flatMap_id', (batches_ok split_).1] at each
      · cases made
        rw [Request.names]
        exact namedIds_ids rfl rfl
    · cases h
      exact asked_pure _
  · refine emitRequestFile_asked (fun id payload built => ?_) h
    obtain ⟨key, -, made⟩ := bind_eq_ok built
    cases made
    exact namedIds_id rfl
  · unfold emitClickhouseBackfillRequest at h
    rw [← List.append_nil ids]
    refine Asked.bind h (fun r u ran => ?_) fun reply u _ h => ?_
    · have written := hand_asked ran
      rw [Request.names] at written
      rwa [show namedIds _ = ids from namedIds_ids (by rfl) (by rfl)] at written
    · split at h
      · rw [← List.append_nil []]
        refine Asked.bind h (fun _ _ => hand_asked) fun executed v _ h => ?_
        cases h
        exact asked_pure _
      · cases h
        exact asked_pure _
  · cases h
    exact asked_nothing _ _

end Asked

/-! ## The Job -/

/-- `repair_from_payload`, with what it hands on. -/
def repairFromPayloadAsking (calls : WorkerCalls) (requests : RequestCalls) (payload : Json)
    (mode : String) : Py (List Request) Fields := do
  let ids ← Py.ofExcept (repairOrderIds payload)
  if mode ∉ repairModes then Py.raise (valueError ("unsupported repair mode: " ++ mode))
  else if mode ≠ "direct-reindex" then requestRepair requests mode ids
  else Py.ofExcept (repairFromPayload calls payload mode)

/-- The calls of a worker that hands its requests on. -/
def WorkerCalls.asking (calls : WorkerCalls) (requests : RequestCalls) (log : List Request) :
    WorkerCalls :=
  { calls with request := fun mode ids => (requestRepair requests mode ids log).1 }

section Job

variable {calls : WorkerCalls} {requests : RequestCalls} {payload : Json} {mode : String}
  {log log' : List Request} {result : Except Raised Fields}

theorem repairFromPayload_asking (asks : mode ≠ "direct-reindex")
    (h : repairFromPayloadAsking calls requests payload mode log = (result, log')) :
    repairFromPayload (calls.asking requests log) payload mode = result := by
  unfold repairFromPayloadAsking at h
  unfold repairFromPayload
  rw [Py.ofExcept_bind] at h
  cases read : repairOrderIds payload with
  | error e =>
    rw [read] at h
    cases h
    rfl
  | ok ids =>
    rw [read] at h
    simp only [ok_bind] at h ⊢
    by_cases known : mode ∈ repairModes
    · simp only [known, not_true_eq_false, if_false, asks, ne_eq, not_false_eq_true, if_true] at h ⊢
      exact congrArg Prod.fst h
    · simp only [known, not_false_eq_true, if_true] at h ⊢
      cases h
      rfl

end Job

theorem mapM_mem {α β : Type} {f : α → Except Raised β} {l : List α} {bs : List β}
    (h : l.mapM f = .ok bs) :
    (∀ b ∈ bs, ∃ a ∈ l, f a = .ok b) ∧ ∀ a ∈ l, ∃ b ∈ bs, f a = .ok b := by
  induction l generalizing bs with
  | nil =>
    cases h
    exact ⟨nofun, nofun⟩
  | cons a l ih =>
    rw [List.mapM_cons] at h
    obtain ⟨b, made, h⟩ := bind_eq_ok h
    obtain ⟨rest, others, h⟩ := bind_eq_ok h
    cases h
    obtain ⟨from_items, all⟩ := ih others
    constructor
    · intro c mem
      obtain rfl | mem := List.mem_cons.mp mem
      · exact ⟨a, List.mem_cons_self, made⟩
      · obtain ⟨d, there, made⟩ := from_items c mem
        exact ⟨d, List.mem_cons_of_mem _ there, made⟩
    · intro d mem
      obtain rfl | mem := List.mem_cons.mp mem
      · exact ⟨b, List.mem_cons_self, made⟩
      · obtain ⟨c, there, made⟩ := all d mem
        exact ⟨c, List.mem_cons_of_mem _ there, made⟩

theorem map_some_filterMap {ids : List (Option String)} (named : none ∉ ids) :
    (ids.filterMap fun id => id).map some = ids := by
  induction ids with
  | nil => rfl
  | cons id ids ih =>
    obtain ⟨head, rest⟩ := not_or.mp (mt List.mem_cons.mpr named)
    cases id with
    | none => exact absurd rfl head
    | some id => simp [ih rest]

theorem candidateOrderIds_ok {items : List Json} {ids : List (Option String)}
    (h : candidateOrderIds items = .ok ids) :
    ∃ named, items.mapM orderId = .ok named ∧ ids.Perm named.dedup := by
  obtain ⟨named, read, h⟩ := bind_eq_ok h
  refine ⟨named, read, ?_⟩
  simp only at h
  split at h
  · cases h
  rename_i sortable
  split at h
  · rename_i alone
    cases h
    rw [alone]
  · rename_i several
    have texts : none ∉ named.dedup := fun mem => sortable ⟨mem, several⟩
    cases h
    have sorted := (List.perm_insertionSort (· ≤ ·) (named.dedup.filterMap fun id => id)).map some
    rwa [map_some_filterMap texts] at sorted

def repairItems (payload : Json) : List Json :=
  reportItems payload "missing" ++ reportItems payload "stale" ++
    reportItems payload "freshness_violations"

/-- The candidates are the orders the report's entries name, each once. -/
theorem repairOrderIds_ok {payload : Json} {ids : List (Option String)}
    (h : repairOrderIds payload = .ok ids) :
    ids.Nodup ∧ (∀ id ∈ ids, ∃ item ∈ repairItems payload, orderId item = .ok id) ∧
      ∀ item ∈ repairItems payload, ∃ id ∈ ids, orderId item = .ok id := by
  rw [repairOrderIds_eq] at h
  obtain ⟨named, read, perm⟩ := candidateOrderIds_ok h
  obtain ⟨from_items, all⟩ := mapM_mem read
  refine ⟨perm.nodup_iff.mpr (List.nodup_dedup _), fun id mem => ?_, fun item mem => ?_⟩
  · exact from_items id (List.mem_dedup.mp (perm.mem_iff.mp mem))
  · obtain ⟨id, there, read⟩ := all item mem
    exact ⟨id, perm.mem_iff.mpr (List.mem_dedup.mpr there), read⟩

/-- A repair that asks others names orders of its report, none twice, whichever call raises; its Job
publishes only if it named them all. -/
theorem candidates_asked_once {calls : WorkerCalls} {requests : RequestCalls} {payload : Json}
    {mode : String} {source : Option ConfigMap} {log log' : List Request}
    {result : Except Raised Fields} (asks : mode ≠ "direct-reindex")
    (read : sourceReport source = .ok payload)
    (asked : repairFromPayloadAsking calls requests payload mode log = (result, log')) :
    ∃ sent, log' = log ++ sent ∧ (sent.flatMap Request.names).Nodup ∧
      (∀ id ∈ sent.flatMap Request.names, ∃ item ∈ repairItems payload, orderId item = .ok id) ∧
      ∀ args reportConfigMap w r t, w.published = none → t.published ≠ none →
        runRepairJob (calls.asking requests log) args reportConfigMap mode source w = (r, t) →
        ∀ item ∈ repairItems payload, ∃ id ∈ sent.flatMap Request.names, orderId item = .ok id := by
  have returned : ∀ args reportConfigMap w r t, w.published = none → t.published ≠ none →
      runRepairJob (calls.asking requests log) args reportConfigMap mode source w = (r, t) →
      ∃ value, result = .ok value := by
    intro args reportConfigMap w r t none published h
    obtain ⟨cm, some⟩ := Option.ne_none_iff_exists'.mp published
    obtain ⟨_, -, h⟩ := published_past h none some
    obtain ⟨_, -, h⟩ := published_past h none some
    obtain ⟨payload', same, h⟩ := published_past h none some
    obtain ⟨value, repaired, -⟩ := published_past h none some
    rw [read] at same
    obtain rfl := Except.ok.inj same
    rw [repairFromPayload_asking asks asked] at repaired
    exact ⟨value, repaired⟩
  have ran := asked
  unfold repairFromPayloadAsking at ran
  obtain ⟨e, rfl, rfl⟩ | ⟨ids, candidates, ran⟩ := Py.ofExcept_cases ran
  · refine ⟨[], by simp, by simp, by simp, fun args reportConfigMap w r t none published h => ?_⟩
    obtain ⟨value, returned⟩ := returned args reportConfigMap w r t none published h
    cases returned
  obtain ⟨once, from_report, all⟩ := repairOrderIds_ok candidates
  have handed : Asked ids log log' result := by
    split at ran
    · cases ran
      exact asked_nothing _ _
    · exact requestRepair_asked ran
  obtain ⟨sent, rfl, start, whole⟩ := handed
  refine ⟨sent, rfl, once.sublist start.sublist, fun id mem => from_report id (start.subset mem), ?_⟩
  intro args reportConfigMap w r t none published h
  obtain ⟨value, returned⟩ := returned args reportConfigMap w r t none published h
  rw [whole value returned]
  exact all

/-- A webhook that takes one order a post and refuses the order `b`. -/
def refusingRequests : RequestCalls where
  environ name := [("REPAIR_WEBHOOK_URL", "http://hook"), ("REPAIR_WEBHOOK_BATCH_SIZE", "1")].lookup name
  orderEventsTopic := "orders.events"
  reportDir := "reports"
  seconds := 0
  send request :=
    if request.names.any fun id => id.getD "" = "b" then .lost (.exception "HTTPError" "refused")
    else .sent []
  field _ _ := .error (.exception "KeyError" "")

def namedTwice : Json :=
  .obj [("missing", .arr [.obj [("order_id", .str "b")], .obj [("order_id", .str "a")]]),
    ("stale", .arr [.obj [("order_id", .str "b")]])]

def refusedRepair : Except Raised Fields × List Request :=
  repairFromPayloadAsking orderWorker refusingRequests namedTwice "call-webhook" []

theorem candidates_asked_once_refused :
    refusedRepair.2.flatMap Request.names = [some "a"] ∧
      (refusedRepair.2.flatMap Request.names).Nodup := by
  have read : sourceReport (some ⟨.empty, .json namedTwice, .empty⟩) = .ok namedTwice := rfl
  have asked : repairFromPayloadAsking orderWorker refusingRequests namedTwice "call-webhook" [] =
    (refusedRepair.1, refusedRepair.2) := rfl
  obtain ⟨sent, log, once, -⟩ := candidates_asked_once (by decide) read asked
  rw [List.nil_append] at log
  exact ⟨by decide +kernel, log ▸ once⟩

/-! ## The keys of an invalidation -/

/-- The text of pieces without other fields. -/
def piecesText (id : List Char) : List Piece → List Char
  | [] => []
  | .char c :: pieces => c :: piecesText id pieces
  | .id :: pieces => id ++ piecesText id pieces
  | .field _ :: pieces => piecesText id pieces

section Keys

variable {field : List Char → Option String → Except Raised String} {pieces : List Piece}

theorem formatPieces_plain (plain : ∀ text, Piece.field text ∉ pieces) (id : String) :
    formatPieces field (some id) pieces = .ok (piecesText id.toList pieces) := by
  induction pieces with
  | nil => rfl
  | cons piece pieces ih =>
    have rest := ih fun text mem => plain text (List.mem_cons_of_mem _ mem)
    cases piece with
    | char c =>
      rw [formatPieces, rest]
      rfl
    | id =>
      rw [formatPieces, rest]
      rfl
    | field text => exact absurd List.mem_cons_self (plain text)

/-- Pieces that spell a text before every id are that text and the id. -/
theorem piecesText_iff (plain : ∀ text, Piece.field text ∉ pieces) {before : List Char} :
    (∀ id, piecesText id pieces = before ++ id) ↔ pieces = before.map Piece.char ++ [.id] := by
  constructor
  · intro h
    induction pieces generalizing before with
    | nil => simpa [piecesText] using h ['x']
    | cons piece pieces ih =>
      have rest : ∀ text, Piece.field text ∉ pieces :=
        fun text mem => plain text (List.mem_cons_of_mem _ mem)
      cases piece with
      | char c =>
        cases before with
        | nil => cases h []
        | cons b before =>
          have same : c = b := (List.cons.inj (h [])).1
          rw [same, ih rest fun id => (List.cons.inj (h id)).2]
          rfl
      | id =>
        cases before with
        | nil =>
          have nothing : piecesText ['x'] pieces = [] :=
            List.append_cancel_left ((h ['x']).trans (List.append_nil _).symm)
          cases pieces with
          | nil => rfl
          | cons piece pieces =>
            cases piece with
            | char c => cases nothing
            | id => cases nothing
            | field text => exact absurd List.mem_cons_self (rest text)
        | cons b before =>
          obtain ⟨c, other⟩ : ∃ c : Char, c ≠ b := by
            by_cases x : b = 'x'
            · exact ⟨'y', x ▸ by decide⟩
            · exact ⟨'x', fun same => x same.symm⟩
          exact absurd (List.cons.inj (h [c])).1 other
      | field text => exact absurd List.mem_cons_self (plain text)
  · rintro rfl id
    induction before with
    | nil => simp [piecesText]
    | cons b before ih =>
      rw [List.map_cons, List.cons_append, piecesText, ih, List.cons_append]
      simp

variable {calls : RequestCalls} {cachePrefix : String}

theorem orderKey_chars (cachePrefix id : String) :
    (orderKey cachePrefix id).toList = (cachePrefix ++ ":").toList ++ id.toList := by
  rw [orderKey, String.toList_append]

theorem formatId_key_iff {template : String}
    (plain : ∀ text, Piece.field text ∉ (templatePieces template.length template.toList).1) :
    (∀ id, formatId field template (some id) = .ok (orderKey cachePrefix id)) ↔
      templatePieces template.length template.toList =
        ((cachePrefix ++ ":").toList.map Piece.char ++ [.id], true) := by
  rw [Prod.ext_iff, ← piecesText_iff plain]
  cases parsed : templatePieces template.length template.toList with
  | mk pieces closed =>
    rw [parsed] at plain
    simp only [formatId, parsed, formatPieces_plain plain, ok_bind]
    cases closed with
    | false => simp
    | true =>
      simp only [if_true, and_true]
      constructor
      · intro h id
        have same := Except.ok.inj (h (String.ofList id))
        have chars := congrArg String.toList same
        rwa [String.toList_ofList, orderKey_chars, String.toList_ofList] at chars
      · intro h id
        rw [h, ← orderKey_chars, String.ofList_toList]
        rfl

def keyTemplate (calls : RequestCalls) : String :=
  getenv calls.environ "REDIS_KEY_TEMPLATE" "order:\x7bid\x7d"

/-- Every invalidation names the entry of its order in a cache with the prefix. -/
def InvalidatesCache (calls : RequestCalls) (cachePrefix : String) : Prop :=
  ∀ id, ∃ payload, invalidationPayload calls (some id) = .ok payload ∧
    payload.get? "key" = some (.str (orderKey cachePrefix id))

theorem invalidatesCache_iff_format : InvalidatesCache calls cachePrefix ↔
    ∀ id, formatId calls.field (keyTemplate calls) (some id) = .ok (orderKey cachePrefix id) := by
  apply forall_congr'
  intro id
  unfold invalidationPayload
  change (∃ payload, (formatId calls.field (keyTemplate calls) (some id) >>= _) = _ ∧ _) ↔ _
  cases formatId calls.field (keyTemplate calls) (some id) with
  | error e => simp
  | ok key => simp [pure, Except.pure, Fields.get?_cons]

/-- Invalidations reach the entries the cache checks read if and only if the template spells the
prefix, a colon and the id; the default does for the default prefix alone. -/
theorem invalidations_reach_cache_iff
    (plain : ∀ text, Piece.field text ∉
      (templatePieces (keyTemplate calls).length (keyTemplate calls).toList).1) :
    (InvalidatesCache calls cachePrefix ↔
      templatePieces (keyTemplate calls).length (keyTemplate calls).toList =
        ((cachePrefix ++ ":").toList.map Piece.char ++ [.id], true)) ∧
    (calls.environ "REDIS_KEY_TEMPLATE" = none →
      (InvalidatesCache calls cachePrefix ↔ cachePrefix = "order")) := by
  have reaches : InvalidatesCache calls cachePrefix ↔ _ :=
    invalidatesCache_iff_format.trans (formatId_key_iff plain)
  refine ⟨reaches, fun unset => reaches.trans ?_⟩
  have default : keyTemplate calls = "order:\x7bid\x7d" := by
    rw [keyTemplate, getenv, unset, Option.getD_none]
  have pieces : templatePieces ("order:\x7bid\x7d" : String).length ("order:\x7bid\x7d" : String).toList =
      (("order" ++ ":").toList.map Piece.char ++ [.id], true) := by
    decide +kernel
  rw [default, pieces]
  constructor
  · intro same
    have chars := List.append_cancel_right (Prod.ext_iff.mp same).1
    have text := List.map_injective_iff.mpr (fun a b => Piece.char.inj) chars
    exact ((String.append_left_inj ":").mp (String.toList_inj.mp text)).symm
  · rintro rfl
    rfl

theorem invalidations_reach_cache_iff_default :
    ¬InvalidatesCache refusingRequests "orders-v2" := by
  have plain : ∀ text, Piece.field text ∉ (templatePieces (keyTemplate refusingRequests).length
      (keyTemplate refusingRequests).toList).1 := by
    have pieces : (templatePieces (keyTemplate refusingRequests).length
        (keyTemplate refusingRequests).toList).1 =
        ("order" ++ ":").toList.map Piece.char ++ [.id] := by
      decide +kernel
    rw [pieces]
    simp
  have reaches : InvalidatesCache refusingRequests "orders-v2" ↔ "orders-v2" = "order" :=
    (invalidations_reach_cache_iff plain).2 rfl
  rw [reaches]
  decide

end Keys

end KubeDataGuard
