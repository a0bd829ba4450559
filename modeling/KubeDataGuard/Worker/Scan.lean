import Mathlib.Order.Defs.LinearOrder
import KubeDataGuard.Worker.Frontier
import KubeDataGuard.Worker.Python

/-!
# The keyset scan

`execute_source_query_keyset` over a call that fetches one page, and what that
call returns when Postgres answers it. `Pages` is what a scan that ran to
exhaustion did: it lists the pages fetched, each after the last key of the one
before it.
-/

namespace KubeDataGuard

def isSpace (c : Char) : Bool :=
  decide (c.toNat ∈ [9, 10, 11, 12, 13, 28, 29, 30, 31, 32, 0x85, 0xa0, 0x1680, 0x2028, 0x2029,
    0x202f, 0x205f, 0x3000]) || decide (0x2000 ≤ c.toNat ∧ c.toNat ≤ 0x200a)

def rstripChars (drop : Char → Bool) (chars : List Char) : List Char :=
  (chars.reverse.dropWhile drop).reverse

def stripChars (chars : List Char) : List Char := rstripChars isSpace (chars.dropWhile isSpace)

/-- `str.strip()` -/
def strip (s : String) : String := String.ofList (stripChars s.toList)

def normalizedSourceQuery (query : String) : Except Raised String :=
  let normalized := stripChars (rstripChars (· = ';') (stripChars query.toList))
  if normalized = [] then .error (valueError "source query is required")
  else .ok (String.ofList normalized)

def maxSourceScanPageSize : Int := 5000

def boundedSourceScanPageSize (value : Int) : Except Raised Nat :=
  if value < 1 then .error (valueError "source scan page size must be at least 1")
  else .ok (min value maxSourceScanPageSize).toNat

/-- The tables behind `str.isalnum` and `str.isdigit`. -/
structure CharTables where
  isalnum : Char → Bool
  isdigit : Char → Bool

/-- What they hold of ASCII. -/
def CharTables.ascii : CharTables := ⟨Char.isAlphanum, Char.isDigit⟩

def quoteIdentifier (characters : CharTables) (identifier : String) : Except Raised String :=
  match identifier.toList with
  | [] => .error (valueError "identifier cannot be empty")
  | c :: rest =>
    if !(c :: rest).all (fun c => decide (c = '_') || characters.isalnum c) then
      .error (valueError ("unsupported identifier " ++ reprText identifier ++
        "; use a simple column alias"))
    else if characters.isdigit c then
      .error (valueError ("unsupported identifier " ++ reprText identifier ++
        "; identifiers cannot start with a digit"))
    else .ok ("\"" ++ identifier ++ "\"")

structure ScanEvidence where
  keyField : String
  pageSize : Nat
  pages : Nat
  rows : Nat
  firstKey : Option String
  lastKey : Option String
  resumeAfterKey : Option String
  sourceWatermark : Option String
  completed : Bool
  stopReason : String
  deriving DecidableEq, Repr

def ScanEvidence.toDict (e : ScanEvidence) : Fields :=
  [("mode", .str "keyset"), ("key_field", .str e.keyField), ("page_size", .int e.pageSize),
    ("pages", .int e.pages), ("rows", .int e.rows), ("first_key", optionalText e.firstKey),
    ("last_key", optionalText e.lastKey), ("resume_after_key", optionalText e.resumeAfterKey),
    ("source_watermark", optionalText e.sourceWatermark), ("completed", .bool e.completed),
    ("stop_reason", .str e.stopReason)]

structure QueryScanResult where
  rows : List Row
  evidence : ScanEvidence

/-- `str(value) if value else None` -/
def textIfTruthy (value : Value) : Option String :=
  if value.truthy then some value.text else none

/-- The local variables of the scan. -/
structure Scan where
  rows : List Row := []
  pages : Nat := 0
  lastKey : Value
  firstKeyText : Option String := none
  lastKeyText : Option String
  sourceWatermark : Option String := none

def Scan.start (resumeAfterKey : Value) : Scan where
  lastKey := if resumeAfterKey.truthy then resumeAfterKey else .null
  lastKeyText := textIfTruthy resumeAfterKey

def Scan.addRow (keyField : String) (scan : Scan) (row : Row) : Except Raised Scan :=
  if row.has keyField then
    let rawKey := row.get keyField
    .ok { scan with
      rows := scan.rows ++ [serializeQueryRow row]
      lastKey := rawKey
      firstKeyText := some (scan.firstKeyText.getD rawKey.text)
      lastKeyText := some rawKey.text }
  else .error (valueError ("source query result is missing key field " ++ reprText keyField))

def Scan.addPage (keyField : String) (scan : Scan) (page : List Row) : Except Raised Scan :=
  match page.foldlM (Scan.addRow keyField) scan with
  | .error e => .error e
  | .ok scanned => .ok { scanned with
      pages := scan.pages + 1
      sourceWatermark := latestQueryWatermark scanned.rows }

section Keyset

variable {σ : Type} (fetchPage : Value → Nat → Py σ (List Row)) (onPage : ScanEvidence → Py σ Unit)
  (keyField : String) (pageSize : Nat) (resumeAfterKey : Value) (maxPages : Int)

def Scan.evidence (scan : Scan) (completed : Bool) (stopReason : String) : ScanEvidence where
  keyField := keyField
  pageSize := pageSize
  pages := scan.pages
  rows := scan.rows.length
  firstKey := scan.firstKeyText
  lastKey := scan.lastKeyText
  resumeAfterKey := textIfTruthy resumeAfterKey
  sourceWatermark := scan.sourceWatermark
  completed := completed
  stopReason := stopReason

def Scan.result (scan : Scan) (completed : Bool) (stopReason : String) : QueryScanResult where
  rows := scan.rows
  evidence := scan.evidence keyField pageSize resumeAfterKey completed stopReason

/-- `while True`; a process that never gets out of it is killed at its deadline. -/
def scanLoop : Nat → Scan → Py σ QueryScanResult
  | 0, _ => Py.raise .killed
  | fuel + 1, scan =>
    if 0 < maxPages ∧ maxPages ≤ scan.pages then
      pure (scan.result keyField pageSize resumeAfterKey false "max_pages")
    else do
      let page ← fetchPage scan.lastKey pageSize
      if page.isEmpty then
        pure (scan.result keyField pageSize resumeAfterKey true "exhausted")
      else do
        let scan ← Py.ofExcept (scan.addPage keyField page)
        onPage (scan.evidence keyField pageSize resumeAfterKey false "page")
        if page.length < pageSize then
          pure (scan.result keyField pageSize resumeAfterKey true "exhausted")
        else scanLoop fuel scan

end Keyset

def executeSourceQueryKeyset {σ : Type} (characters : CharTables)
    (fetchPage : Value → Nat → Py σ (List Row)) (onPage : ScanEvidence → Py σ Unit)
    (query keyField : String) (pageSize : Int) (resumeAfterKey : Value) (maxPages : Int)
    (fuel : Nat) : Py σ QueryScanResult := do
  if strip query = "" then Py.raise (valueError "source query is required")
  else do
    let pageSize ← Py.ofExcept (boundedSourceScanPageSize pageSize)
    let _ ← Py.ofExcept (normalizedSourceQuery query)
    let _ ← Py.ofExcept (quoteIdentifier characters keyField)
    scanLoop fetchPage onPage keyField pageSize resumeAfterKey maxPages fuel
      (Scan.start resumeAfterKey)

/-- The page query over the rows in key order: those after the last key, as many
as the limit allows. A null key is not after anything. -/
def pageQuery {K : Type} [LinearOrder K] (rank : Value → K) (keyField : String)
    (ordered : List Row) (after : Value) (limit : Nat) : List Row :=
  if after.isNone then ordered.take limit
  else (ordered.filter fun row => !(row.get keyField).isNone &&
    decide (rank after < rank (row.get keyField))).take limit

/-- `execute_source_query` on the rows the query has. -/
def executeSourceQuery (query : String) (rows : List Row) : Except Raised (List Row) :=
  if strip query = "" then .error (valueError "source query is required")
  else .ok (rows.map serializeQueryRow)

theorem boundedSourceScanPageSize_ok_iff {value : Int} {pageSize : Nat} :
    boundedSourceScanPageSize value = .ok pageSize ↔
      1 ≤ value ∧ pageSize = (min value 5000).toNat := by
  unfold boundedSourceScanPageSize maxSourceScanPageSize
  split
  · constructor
    · nofun
    · omega
  · constructor
    · intro h
      cases h
      exact ⟨by omega, rfl⟩
    · rintro ⟨-, rfl⟩
      rfl

/-! ## Adding a page -/

/-- Every row of a page carries a key. -/
def Keyed (keyField : String) (rows : List Row) : Prop :=
  ∀ row ∈ rows, row.has keyField = true ∧ (row.get keyField).isNone = false

theorem addRows_spec {keyField : String} {page : List Row} {scan scanned : Scan}
    (h : page.foldlM (Scan.addRow keyField) scan = .ok scanned) :
    scanned.rows = scan.rows ++ page.map serializeQueryRow ∧ ∀ last, page.getLast? = some last →
      scanned.lastKey = last.get keyField ∧ scanned.lastKeyText = some (last.get keyField).text := by
  induction page generalizing scan with
  | nil =>
    cases h
    exact ⟨by simp, fun last hl => by cases hl⟩
  | cons row page ih =>
    rw [List.foldlM_cons] at h
    unfold Scan.addRow at h
    split at h
    · obtain ⟨hrows, hlast⟩ := ih h
      refine ⟨by rw [hrows]; simp, ?_⟩
      intro last hl
      cases page with
      | nil =>
        cases hl
        cases h
        exact ⟨rfl, rfl⟩
      | cons r page => exact hlast last (by rwa [List.getLast?_cons_cons] at hl)
    · cases h

theorem addRows_returns {keyField : String} {page : List Row}
    (columns : ∀ row ∈ page, row.has keyField = true) (scan : Scan) :
    ∃ scanned, page.foldlM (Scan.addRow keyField) scan = .ok scanned := by
  induction page generalizing scan with
  | nil => exact ⟨scan, rfl⟩
  | cons row page ih =>
    obtain ⟨scanned, h⟩ := ih (fun r hr => columns r (List.mem_cons_of_mem row hr)) _
    refine ⟨scanned, ?_⟩
    rw [List.foldlM_cons, Scan.addRow, if_pos (columns row List.mem_cons_self)]
    exact h

theorem addPage_spec {keyField : String} {scan scanned : Scan} {page : List Row}
    (h : scan.addPage keyField page = .ok scanned) :
    scanned.rows = scan.rows ++ page.map serializeQueryRow ∧ scanned.pages = scan.pages + 1 ∧
      ∀ last, page.getLast? = some last → scanned.lastKey = last.get keyField ∧
        scanned.lastKeyText = some (last.get keyField).text := by
  unfold Scan.addPage at h
  split at h
  · cases h
  · rename_i folded hf
    cases h
    obtain ⟨hrows, hlast⟩ := addRows_spec hf
    exact ⟨hrows, rfl, hlast⟩

theorem addPage_returns {keyField : String} {page : List Row}
    (columns : ∀ row ∈ page, row.has keyField = true) (scan : Scan) :
    ∃ scanned, scan.addPage keyField page = .ok scanned := by
  obtain ⟨scanned, h⟩ := addRows_returns columns scan
  unfold Scan.addPage
  rw [h]
  exact ⟨_, rfl⟩

/-! ## What a finished scan fetched -/

/-- The pages fetched from a key on, up to the first that is not full. -/
inductive Pages (keyField : String) (pageSize : Nat) : Value → List (Value × List Row) → Prop
  | last {after : Value} {page : List Row} (short : page.length < pageSize) :
      Pages keyField pageSize after [(after, page)]
  | more {after : Value} {page : List Row} {last : Row} {rest : List (Value × List Row)}
      (full : pageSize ≤ page.length) (hlast : page.getLast? = some last)
      (h : Pages keyField pageSize (last.get keyField) rest) :
      Pages keyField pageSize after ((after, page) :: rest)

section Fetched

variable {σ : Type} {fetchPage : Value → Nat → Py σ (List Row)}
  {onPage : ScanEvidence → Py σ Unit} {keyField : String} {pageSize : Nat}
  {resumeAfterKey : Value} {maxPages : Int}

/-- How the loop came to return: at the bound on its pages, at an empty page, after a page that
is not full, or after a full one as it went on from there. -/
inductive ScanReturned (fetchPage : Value → Nat → Py σ (List Row)) (onPage : ScanEvidence → Py σ Unit)
    (keyField : String) (pageSize : Nat) (resumeAfterKey : Value) (maxPages : Int) :
    Scan → σ → QueryScanResult → σ → Prop
  | bounded {scan : Scan} {s : σ} (limit : 0 < maxPages ∧ maxPages ≤ scan.pages) :
      ScanReturned fetchPage onPage keyField pageSize resumeAfterKey maxPages scan s
        (scan.result keyField pageSize resumeAfterKey false "max_pages") s
  | empty {scan : Scan} {s t : σ} (within : ¬(0 < maxPages ∧ maxPages ≤ scan.pages))
      (fetch : fetchPage scan.lastKey pageSize s = (.ok [], t)) :
      ScanReturned fetchPage onPage keyField pageSize resumeAfterKey maxPages scan s
        (scan.result keyField pageSize resumeAfterKey true "exhausted") t
  | short {scan scanned : Scan} {page : List Row} {s u t : σ}
      (within : ¬(0 < maxPages ∧ maxPages ≤ scan.pages))
      (fetch : fetchPage scan.lastKey pageSize s = (.ok page, u)) (nonempty : page ≠ [])
      (added : scan.addPage keyField page = .ok scanned)
      (saved : onPage (scanned.evidence keyField pageSize resumeAfterKey false "page") u =
        (.ok (), t))
      (short : page.length < pageSize) :
      ScanReturned fetchPage onPage keyField pageSize resumeAfterKey maxPages scan s
        (scanned.result keyField pageSize resumeAfterKey true "exhausted") t
  | full {scan scanned : Scan} {page : List Row} {r : QueryScanResult} {s u v t : σ}
      (within : ¬(0 < maxPages ∧ maxPages ≤ scan.pages))
      (fetch : fetchPage scan.lastKey pageSize s = (.ok page, u)) (nonempty : page ≠ [])
      (added : scan.addPage keyField page = .ok scanned)
      (saved : onPage (scanned.evidence keyField pageSize resumeAfterKey false "page") u =
        (.ok (), v))
      (full : pageSize ≤ page.length)
      (rest : ScanReturned fetchPage onPage keyField pageSize resumeAfterKey maxPages scanned v r t) :
      ScanReturned fetchPage onPage keyField pageSize resumeAfterKey maxPages scan s r t

theorem scanLoop_returned {fuel : Nat} {scan : Scan} {s t : σ} {r : QueryScanResult}
    (h : scanLoop fetchPage onPage keyField pageSize resumeAfterKey maxPages fuel scan s =
      (.ok r, t)) :
    ScanReturned fetchPage onPage keyField pageSize resumeAfterKey maxPages scan s r t := by
  induction fuel generalizing scan s with
  | zero => cases h
  | succ fuel ih =>
    unfold scanLoop at h
    split at h
    · rename_i limit
      cases h
      exact .bounded limit
    rename_i within
    obtain ⟨page, u, fetch, h⟩ := Py.bind_ok.mp h
    split at h
    · rename_i empty
      rw [List.isEmpty_iff] at empty
      subst empty
      cases h
      exact .empty within fetch
    rename_i some_
    have nonempty : page ≠ [] := fun nil => some_ (List.isEmpty_iff.mpr nil)
    obtain ⟨scanned, added, h⟩ := Py.ofExcept_ok h
    obtain ⟨_, v, saved, h⟩ := Py.bind_ok.mp h
    split at h
    · rename_i short
      cases h
      exact .short within fetch nonempty added saved short
    · rename_i full
      exact .full within fetch nonempty added saved (Nat.le_of_not_lt full) (ih h)

/-- A page that has rows has a last one. -/
theorem exists_last {page : List Row} (nonempty : page ≠ []) : ∃ last, page.getLast? = some last :=
  ⟨_, List.getLast?_eq_some_getLast nonempty⟩

/-- A scan that ends as completed fetched pages to exhaustion and returns their rows. -/
theorem scanLoop_completed (fetched : σ → List (Value × List Row)) (positive : 0 < pageSize)
    (fetches : ∀ after s page t, fetchPage after pageSize s = (.ok page, t) →
      fetched t = fetched s ++ [(after, page)])
    (keeps : ∀ e s t, onPage e s = (.ok (), t) → fetched t = fetched s)
    {fuel : Nat} {scan : Scan} {s t : σ} {r : QueryScanResult}
    (h : scanLoop fetchPage onPage keyField pageSize resumeAfterKey maxPages fuel scan s = (.ok r, t))
    (completed : r.evidence.completed = true) :
    ∃ pages, Pages keyField pageSize scan.lastKey pages ∧ fetched t = fetched s ++ pages ∧
      r.rows = scan.rows ++ (pages.flatMap Prod.snd).map serializeQueryRow := by
  replace h := scanLoop_returned h
  induction h with
  | bounded limit => cases completed
  | @empty scan s t within fetch =>
    have none_ : Pages keyField pageSize scan.lastKey [(scan.lastKey, [])] := .last positive
    exact ⟨_, none_, fetches _ _ _ _ fetch, by simp [Scan.result]⟩
  | @short scan scanned page s u t within fetch nonempty added saved short =>
    refine ⟨_, .last short, (keeps _ _ _ saved).trans (fetches _ _ _ _ fetch), ?_⟩
    simp [Scan.result, (addPage_spec added).1]
  | @full scan scanned page r s u v t within fetch nonempty added saved full rest ih =>
    obtain ⟨last, hlast⟩ := exists_last nonempty
    obtain ⟨rows, -, key⟩ := addPage_spec added
    obtain ⟨pages, hpages, hrest, hresult⟩ := ih completed
    rw [(key last hlast).1] at hpages
    refine ⟨_, .more full hlast hpages, ?_, ?_⟩
    · rw [hrest, keeps _ _ _ saved, fetches _ _ _ _ fetch]
      simp
    · rw [hresult, rows]
      simp

/-- More time changes nothing for a scan that returns. -/
theorem scanLoop_more {fuel more : Nat} (le : fuel ≤ more) {scan : Scan} {s t : σ}
    {r : QueryScanResult}
    (h : scanLoop fetchPage onPage keyField pageSize resumeAfterKey maxPages fuel scan s =
      (.ok r, t)) :
    scanLoop fetchPage onPage keyField pageSize resumeAfterKey maxPages more scan s =
      (.ok r, t) := by
  induction fuel generalizing scan s more with
  | zero => cases h
  | succ fuel ih =>
    obtain ⟨more, rfl⟩ : ∃ n, more = n + 1 := ⟨more - 1, by omega⟩
    unfold scanLoop at h ⊢
    split at h
    · rename_i bounded
      rw [if_pos bounded]
      exact h
    · rename_i unbounded
      rw [if_neg unbounded]
      obtain ⟨page, s₁, hpage, h⟩ := Py.bind_ok.mp h
      refine Py.bind_ok.mpr ⟨page, s₁, hpage, ?_⟩
      split at h
      · rename_i empty
        rw [if_pos empty]
        exact h
      · rename_i nonempty
        rw [if_neg nonempty]
        obtain ⟨scanned, s₂, hadd, h⟩ := Py.bind_ok.mp h
        obtain ⟨_, s₃, hsave, h⟩ := Py.bind_ok.mp h
        refine Py.bind_ok.mpr ⟨scanned, s₂, hadd, Py.bind_ok.mpr ⟨_, s₃, hsave, ?_⟩⟩
        split at h
        · rename_i short
          rw [if_pos short]
          exact h
        · rename_i full
          rw [if_neg full]
          exact ih (by omega) h

end Fetched

end KubeDataGuard
