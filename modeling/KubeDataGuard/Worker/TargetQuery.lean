import KubeDataGuard.General.Keyset
import KubeDataGuard.Worker.Python

/-!
# The target query

`execute_target_query` over a call that answers one search request, and what
OpenSearch answers: the hits in the order of their sort tuples, from the one
after `search_after` on. The pages a full run reads are the paging of `Keyset`.
-/

namespace KubeDataGuard

/-- The text of a target query, as `strip` and `json.loads` find it. -/
inductive QueryText
  | blank
  | malformed (error : String)
  | json (value : Json)

/-- A hit: its `_id`, its `_source or {}` and its `sort`, empty when it has none. -/
structure Hit where
  id : String
  source : Row
  sort : List Json := []

/-- `source.setdefault(key_field, str(hit["_id"]))` -/
def hitRow (keyField : String) (hit : Hit) : Row :=
  if hit.source.has keyField then hit.source else hit.source ++ [(keyField, .str hit.id)]

def defaultTargetQueryPageSize : Int := 1000

def maxTargetQueryPageSize : Int := 5000

/-- `int(value)` of a JSON value, none where it raises what `bounded_page_size` catches;
`intText` is `int` of a string. -/
def intOfJson (intText : String → Option Int) : Json → Except Raised (Option Int)
  | .int n => .ok (some n)
  | .bool b => .ok (some (if b then 1 else 0))
  | .decimal _ value | .float value =>
    match float64 value with
    | some q => .ok (some (q.num.tdiv q.den))
    | none => .error (.exception "OverflowError" "cannot convert float infinity to integer")
  | .str s => .ok (intText s)
  | _ => .ok none

def boundedPageSize (intText : String → Option Int) (value : Json) : Except Raised Nat := do
  match ← intOfJson intText value with
  | none => throw (valueError "target query size must be an integer page size")
  | some parsed =>
    if parsed < 1 then throw (valueError "target query page size must be at least 1")
    else return (min parsed maxTargetQueryPageSize).toNat

def defaultSort (keyField : String) : List Json :=
  [.obj [(keyField, .obj [("order", .str "asc"), ("unmapped_type", .str "keyword")])],
    .obj [("_id", .obj [("order", .str "asc")])]]

def ensureSearchAfterSort (body : Fields) (keyField : String) : Except Raised Fields :=
  match body.get? "sort" with
  | none => .ok (body.set "sort" (.arr (defaultSort keyField)))
  | some (.arr _) => .ok body
  | some _ =>
    .error (valueError "target query sort must be a list when paginating with search_after")

/-- The body and the page size `execute_target_query` goes on with. -/
def targetQueryBody (intText : String → Option Int) (query : QueryText) (keyField : String)
    (pageSize : Int) : Except Raised (Fields × Nat) :=
  match query with
  | .blank => .error (valueError "target query is required")
  | .malformed error => .error (.exception "JSONDecodeError" error)
  | .json (.obj members) =>
    let body : Fields := members
    if (body.get? "from").isSome then
      .error (valueError
        "target query must not use 'from'; KubeDataGuard paginates with search_after")
    else do
      let size ← boundedPageSize intText ((body.get? "size").getD (.int pageSize))
      let body ← ensureSearchAfterSort (body.filter fun e => e.1 != "size") keyField
      return (body, size)
  | .json _ => .error (valueError "target query must be a JSON object")

section Search

variable (search : Fields → Except Raised (List Hit)) (body : Fields) (pageSize : Nat)
  (keyField : String)

def pageBody (searchAfter : Option (List Json)) : Fields :=
  match searchAfter with
  | none => body.set "size" (.int pageSize)
  | some values => (body.set "size" (.int pageSize)).set "search_after" (.arr values)

/-- `while True` of `paginated_search`, with the rows read so far. -/
def paginatedSearchFrom : Nat → Option (List Json) → List Row → Except Raised (List Row)
  | 0, _, _ => .error .killed
  | fuel + 1, searchAfter, rows => do
    let hits ← search (pageBody body pageSize searchAfter)
    match hits.getLast? with
    | none => return rows
    | some last =>
      let rows := rows ++ hits.map (hitRow keyField)
      if hits.length < pageSize then return rows
      else if last.sort = [] then
        throw (valueError
          "OpenSearch response is missing sort values required for search_after pagination")
      else paginatedSearchFrom fuel (some last.sort) rows

def paginatedSearch (fuel : Nat) : Except Raised (List Row) :=
  paginatedSearchFrom search body pageSize keyField fuel none []

def executeTargetQuery (intText : String → Option Int) (query : QueryText) (pageSize : Int)
    (fuel : Nat) : Except Raised (List Row) := do
  let (body, size) ← targetQueryBody intText query keyField pageSize
  paginatedSearch search body size keyField fuel

end Search

/-! ### One turn of the loop -/

section Turn

variable {search : Fields → Except Raised (List Hit)} {body : Fields} {pageSize : Nat}
  {rest : List Hit} {searchAfter : Option (List Json)}

theorem paginatedSearchFrom_short (short : rest.length < pageSize)
    (next : search (pageBody body pageSize searchAfter) = .ok (rest.take pageSize))
    (keyField : String) (fuel : Nat) (rows : List Row) :
    paginatedSearchFrom search body pageSize keyField (fuel + 1) searchAfter rows =
      .ok (rows ++ rest.map (hitRow keyField)) := by
  rw [List.take_of_length_le (by omega)] at next
  unfold paginatedSearchFrom
  rw [next, ok_bind]
  cases last : rest.getLast? with
  | none =>
    rw [List.getLast?_eq_none_iff.mp last, List.map_nil, List.append_nil]
    rfl
  | some hit =>
    simp only [if_pos short]
    rfl

theorem paginatedSearchFrom_full (positive : 0 < pageSize) (full : pageSize ≤ rest.length)
    (next : search (pageBody body pageSize searchAfter) = .ok (rest.take pageSize))
    (keyField : String) (fuel : Nat) (rows : List Row) :
    paginatedSearchFrom search body pageSize keyField (fuel + 1) searchAfter rows =
      if rest[pageSize - 1].sort = [] then .error (valueError
        "OpenSearch response is missing sort values required for search_after pagination")
      else paginatedSearchFrom search body pageSize keyField fuel (some rest[pageSize - 1].sort)
        (rows ++ (rest.take pageSize).map (hitRow keyField)) := by
  have last : (rest.take pageSize).getLast? = some rest[pageSize - 1] := by
    rw [List.getLast?_eq_getElem?, List.length_take, Nat.min_eq_left full,
      List.getElem?_take_of_lt (by omega), List.getElem?_eq_getElem (by omega)]
  have length : (rest.take pageSize).length = pageSize := by
    rw [List.length_take, Nat.min_eq_left full]
  rw [paginatedSearchFrom, next, ok_bind, last]
  simp only [length, Nat.lt_irrefl, if_false]
  rfl

end Turn

/-! ## What OpenSearch answers -/

/-- The members of a body that say how its documents are read. -/
def pagingKeys : List String := ["sort", "size", "search_after"]

/-- The part of the body that says which documents it matches. -/
def withoutPaging (body : Fields) : Fields := body.filter fun e => decide (e.1 ∉ pagingKeys)

def sortClauses (body : Fields) : List Json :=
  match body.get? "sort" with
  | some (.arr clauses) => clauses
  | _ => []

/-- The documents that match, the values they are sorted by and how these compare. -/
structure SearchEngine (κ : Type) where
  /-- Each document once; ties stay in this order. -/
  matching : Fields → List Hit
  values : List Json → Hit → List Json
  rank : List Json → List Json → κ
  values_length : ∀ clauses hit, (values clauses hit).length = clauses.length

namespace SearchEngine

variable {κ : Type} [LinearOrder κ] (engine : SearchEngine κ) (body : Fields)

def hitRank (hit : Hit) : κ := engine.rank (sortClauses body) hit.sort

/-- All hits of a body with their sort tuples. -/
def ordered : List Hit :=
  ((engine.matching (withoutPaging body)).map fun hit =>
    { hit with sort := engine.values (sortClauses body) hit }).insertionSort
    fun a b => engine.hitRank body a ≤ engine.hitRank body b

def remaining : Except Raised (List Hit) :=
  match body.get? "search_after" with
  | none => .ok (engine.ordered body)
  | some (.arr values) =>
    .ok (Keyset.after (engine.hitRank body) (engine.ordered body)
      (engine.rank (sortClauses body) values))
  | some _ => .error (.exception "RequestError" "search_after")

def search : Except Raised (List Hit) := do
  let hits ← engine.remaining body
  let size := match body.get? "size" with
    | some (.int n) => n.toNat
    | _ => 10
  return hits.take size

end SearchEngine

/-! ## The pages of a run -/

section Pages

variable {κ : Type} [LinearOrder κ] (engine : SearchEngine κ) (body : Fields) (pageSize : Nat)

theorem withoutPaging_erase {key : String} (paging : key ∈ pagingKeys) :
    withoutPaging (body.filter fun e => e.1 != key) = withoutPaging body := by
  unfold withoutPaging
  rw [List.filter_filter]
  apply List.filter_congr
  intro e _
  by_cases h : e.1 = key
  · simp [h, paging]
  · simp [h]

theorem withoutPaging_set {key : String} (paging : key ∈ pagingKeys) (value : Json) :
    withoutPaging (body.set key value) = withoutPaging body := by
  rw [← withoutPaging_erase body paging]
  exact List.filter_cons_of_neg (by simpa using paging)

theorem withoutPaging_pageBody (searchAfter : Option (List Json)) :
    withoutPaging (pageBody body pageSize searchAfter) = withoutPaging body := by
  cases searchAfter with
  | none => exact withoutPaging_set body (by decide) _
  | some values =>
    exact (withoutPaging_set _ (by decide) _).trans (withoutPaging_set body (by decide) _)

theorem sortClauses_pageBody (searchAfter : Option (List Json)) :
    sortClauses (pageBody body pageSize searchAfter) = sortClauses body := by
  unfold sortClauses pageBody
  cases searchAfter <;> simp

theorem pageBody_size (searchAfter : Option (List Json)) :
    (pageBody body pageSize searchAfter).get? "size" = some (.int pageSize) := by
  unfold pageBody
  cases searchAfter <;> simp

omit [LinearOrder κ] in
theorem hitRank_pageBody (searchAfter : Option (List Json)) :
    engine.hitRank (pageBody body pageSize searchAfter) = engine.hitRank body := by
  funext hit
  rw [SearchEngine.hitRank, SearchEngine.hitRank, sortClauses_pageBody]

theorem ordered_pageBody (searchAfter : Option (List Json)) :
    engine.ordered (pageBody body pageSize searchAfter) = engine.ordered body := by
  unfold SearchEngine.ordered
  rw [withoutPaging_pageBody, sortClauses_pageBody, hitRank_pageBody]

/-- The first page starts where the body says, every later one after the tuple it is given. -/
theorem search_pageBody_first : engine.search (pageBody body pageSize none) =
    (engine.remaining body).map fun hits => hits.take pageSize := by
  have start : engine.remaining (pageBody body pageSize none) = engine.remaining body := by
    unfold SearchEngine.remaining
    rw [ordered_pageBody, hitRank_pageBody, sortClauses_pageBody]
    simp [pageBody]
  unfold SearchEngine.search
  rw [start, pageBody_size]
  cases engine.remaining body <;> rfl

theorem search_pageBody_after (values : List Json) :
    engine.search (pageBody body pageSize (some values)) =
      .ok ((Keyset.after (engine.hitRank body) (engine.ordered body)
        (engine.rank (sortClauses body) values)).take pageSize) := by
  unfold SearchEngine.search SearchEngine.remaining
  rw [pageBody_size, ordered_pageBody, hitRank_pageBody, sortClauses_pageBody]
  simp only [pageBody, Fields.get?_set_self]
  rfl

theorem ordered_ascending : Keyset.Ascending (engine.hitRank body) (engine.ordered body) := by
  apply List.pairwise_insertionSort

theorem ordered_perm : (engine.ordered body).Perm
    ((engine.matching (withoutPaging body)).map fun hit =>
      { hit with sort := engine.values (sortClauses body) hit }) :=
  List.perm_insertionSort _ _

/-- Every hit carries a value for each clause. -/
theorem ordered_sort {hit : Hit} (h : hit ∈ engine.ordered body) :
    hit.sort.length = (sortClauses body).length := by
  obtain ⟨doc, -, rfl⟩ := List.mem_map.mp ((ordered_perm engine body).subset h)
  exact engine.values_length _ _

/-- The rows of the documents a body matches. -/
theorem ordered_rows (keyField : String) : ((engine.ordered body).map (hitRow keyField)).Perm
    ((engine.matching (withoutPaging body)).map (hitRow keyField)) := by
  have rows := (ordered_perm engine body).map (hitRow keyField)
  rwa [List.map_map] at rows

variable {engine body pageSize}

/-- With sort values, the loop returns the pages of what remains. -/
theorem paginatedSearchFrom_paged (positive : 0 < pageSize) (sorted : sortClauses body ≠ [])
    (keyField : String) {rest : List Hit} (sub : rest.Sublist (engine.ordered body)) {fuel : Nat}
    (enough : rest.length < fuel) (searchAfter : Option (List Json)) (rows : List Row)
    (next : engine.search (pageBody body pageSize searchAfter) = .ok (rest.take pageSize))
    (later : ∀ hit ∈ rest, Keyset.after (engine.hitRank body) (engine.ordered body)
      (engine.hitRank body hit) = Keyset.after (engine.hitRank body) rest (engine.hitRank body hit)) :
    paginatedSearchFrom engine.search body pageSize keyField fuel searchAfter rows =
      .ok (rows ++ (Keyset.paged (engine.hitRank body) pageSize positive rest).map
        (hitRow keyField)) := by
  induction fuel generalizing rest searchAfter rows with
  | zero => omega
  | succ fuel ih =>
    by_cases short : rest.length < pageSize
    · rw [paginatedSearchFrom_short short next, Keyset.paged_short _ positive short]
    · have full : pageSize ≤ rest.length := by omega
      have last : rest[pageSize - 1] ∈ rest := List.getElem_mem _
      have values : rest[pageSize - 1].sort ≠ [] := by
        intro none
        have clauses := ordered_sort engine body (sub.subset last)
        rw [none] at clauses
        exact sorted (List.length_eq_zero_iff.mp clauses.symm)
      have shrinks := Keyset.after_length_lt (engine.hitRank body) last le_rfl
      have further := Keyset.after_sublist (engine.hitRank body) rest
        (engine.hitRank body rest[pageSize - 1])
      rw [paginatedSearchFrom_full positive full next, if_neg values,
        ih (further.trans sub) (by omega) _ _ ?next ?later]
      · rw [Keyset.paged_step _ positive full, List.map_append, List.append_assoc]
      case next =>
        rw [search_pageBody_after, ← later _ last]
        rfl
      case later =>
        intro hit hh
        obtain ⟨hrest, above⟩ := (Keyset.mem_after _).mp hh
        rw [later hit hrest]
        exact (Keyset.after_after _ rest (le_of_lt above)).symm

variable (engine body pageSize) in
/-- Every document a body matches is in the rows of a run, once. -/
def ReturnsEvery (keyField : String) : Prop :=
  ∃ rows, (∃ enough, ∀ fuel, enough ≤ fuel →
      paginatedSearch engine.search body pageSize keyField fuel = .ok rows) ∧
    rows.Perm ((engine.matching (withoutPaging body)).map (hitRow keyField))

variable (engine body) in
/-- The body starts at the first of its documents. -/
def FromFirst : Prop :=
  ∀ start, body.get? "search_after" = some start → ∃ values, start = .arr values ∧
    ∀ hit ∈ engine.ordered body, engine.rank (sortClauses body) values < engine.hitRank body hit

theorem remaining_sublist_ordered {rest : List Hit} (first : engine.remaining body = .ok rest) :
    rest.Sublist (engine.ordered body) ∧ ∀ hit ∈ rest,
      Keyset.after (engine.hitRank body) (engine.ordered body) (engine.hitRank body hit) =
        Keyset.after (engine.hitRank body) rest (engine.hitRank body hit) := by
  unfold SearchEngine.remaining at first
  split at first
  · cases first
    exact ⟨List.Sublist.refl _, fun _ _ => rfl⟩
  · cases first
    refine ⟨List.filter_sublist, ?_⟩
    intro hit hh
    exact (Keyset.after_after _ _ (le_of_lt ((Keyset.mem_after _).mp hh).2)).symm
  · cases first

/-- A body starts at the first of its documents when all of them remain. -/
theorem fromFirst_iff : FromFirst engine body ↔
    engine.remaining body = .ok (engine.ordered body) := by
  unfold FromFirst SearchEngine.remaining
  cases body.get? "search_after" with
  | none => simp
  | some start =>
    cases start with
    | arr values =>
      simp [Keyset.after, List.filter_eq_self]
    | _ => simp

/-- The result of a run that is not cut short. -/
theorem paginatedSearch_run (positive : 0 < pageSize) (keyField : String) {rest : List Hit}
    (first : engine.remaining body = .ok rest) {fuel : Nat} (enough : rest.length < fuel) :
    paginatedSearch engine.search body pageSize keyField fuel =
      if sortClauses body = [] ∧ pageSize ≤ rest.length then .error (valueError
        "OpenSearch response is missing sort values required for search_after pagination")
      else .ok ((Keyset.paged (engine.hitRank body) pageSize positive rest).map
        (hitRow keyField)) := by
  obtain ⟨sub, later⟩ := remaining_sublist_ordered first
  have next : engine.search (pageBody body pageSize none) = .ok (rest.take pageSize) := by
    rw [search_pageBody_first, first]
    rfl
  by_cases sorted : sortClauses body = []
  · obtain ⟨fuel, rfl⟩ : ∃ n, fuel = n + 1 := ⟨fuel - 1, by omega⟩
    by_cases full : pageSize ≤ rest.length
    · have clauses := ordered_sort engine body
        (sub.subset (List.getElem_mem (show pageSize - 1 < rest.length by omega)))
      rw [sorted] at clauses
      rw [if_pos ⟨sorted, full⟩]
      exact (paginatedSearchFrom_full positive full next keyField fuel []).trans
        (if_pos (List.length_eq_zero_iff.mp clauses))
    · rw [if_neg (fun h => full h.2), Keyset.paged_short _ positive (by omega)]
      exact paginatedSearchFrom_short (by omega) next keyField fuel []
  · rw [if_neg (fun h => sorted h.1)]
    exact paginatedSearchFrom_paged positive sorted keyField sub enough none [] next later

theorem paginatedSearch_complete_iff (positive : 0 < pageSize) (keyField : String) :
    ReturnsEvery engine body pageSize keyField ↔ FromFirst engine body ∧
      Keyset.Unbroken (engine.hitRank body) pageSize (engine.ordered body) ∧
      (sortClauses body = [] → (engine.ordered body).length < pageSize) := by
  have ascending := ordered_ascending engine body
  constructor
  · rintro ⟨rows, ⟨enough, run⟩, perm⟩
    cases first : engine.remaining body with
    | error e =>
      have failed := run (enough + 1) (Nat.le_succ _)
      rw [paginatedSearch, paginatedSearchFrom, search_pageBody_first, first] at failed
      cases failed
    | ok rest =>
      obtain ⟨sub, -⟩ := remaining_sublist_ordered first
      have ran := run (enough + rest.length + 1) (by omega)
      rw [paginatedSearch_run positive keyField first (by omega)] at ran
      split at ran
      · cases ran
      · rename_i sorted
        cases ran
        have pages := Keyset.paged_sublist (engine.hitRank body) positive rest
          (List.Pairwise.sublist sub ascending)
        have length := (perm.trans (ordered_rows engine body keyField).symm).length_eq
        rw [List.length_map, List.length_map] at length
        have all : rest = engine.ordered body :=
          sub.eq_of_length (Nat.le_antisymm sub.length_le (length ▸ pages.length_le))
        subst all
        refine ⟨fromFirst_iff.mpr first, ?_, ?_⟩
        · exact (Keyset.paged_eq_iff _ positive _ ascending).mp (pages.eq_of_length length)
        · intro none
          exact Nat.lt_of_not_le fun full => sorted ⟨none, full⟩
  · rintro ⟨start, unbroken, sorted⟩
    have first := fromFirst_iff.mp start
    refine ⟨(engine.ordered body).map (hitRow keyField), ⟨(engine.ordered body).length + 1, ?_⟩,
      ordered_rows engine body keyField⟩
    intro fuel enough
    rw [paginatedSearch_run positive keyField first (by omega), if_neg,
      (Keyset.paged_eq_iff _ positive _ ascending).mpr unbroken]
    rintro ⟨none, full⟩
    have := sorted none
    omega

end Pages

/-! ## The query -/

theorem boundedPageSize_pos {intText : String → Option Int} {value : Json} {pageSize : Nat}
    (h : boundedPageSize intText value = .ok pageSize) : 0 < pageSize := by
  obtain ⟨parsed, -, h⟩ := bind_eq_ok h
  cases parsed with
  | none => cases h
  | some n =>
    simp only at h
    split at h
    · cases h
    · cases h
      unfold maxTargetQueryPageSize
      omega

theorem ensureSearchAfterSort_matching {body sorted : Fields} {keyField : String}
    (h : ensureSearchAfterSort body keyField = .ok sorted) :
    withoutPaging sorted = withoutPaging body := by
  unfold ensureSearchAfterSort at h
  split at h
  · cases h
    exact withoutPaging_set body (by decide) _
  · cases h
    rfl
  · cases h

/-- What is searched for is what the query asks for, in pages of at least one hit. -/
theorem targetQueryBody_spec {intText : String → Option Int} {members : Fields} {keyField : String}
    {pageSize : Int} {body : Fields} {size : Nat}
    (h : targetQueryBody intText (.json (.obj members)) keyField pageSize = .ok (body, size)) :
    withoutPaging body = withoutPaging members ∧ 0 < size := by
  unfold targetQueryBody at h
  simp only at h
  split at h
  · cases h
  · obtain ⟨n, hsize, h⟩ := bind_eq_ok h
    obtain ⟨sorted, hsort, h⟩ := bind_eq_ok h
    cases h
    refine ⟨?_, boundedPageSize_pos hsize⟩
    rw [ensureSearchAfterSort_matching hsort]
    exact withoutPaging_erase members (by decide)

/-- A target query returns every document it matches once, at its page size. -/
def TargetQueryComplete {κ : Type} [LinearOrder κ] (engine : SearchEngine κ)
    (intText : String → Option Int) (members : Fields) (keyField : String) (pageSize : Int) : Prop :=
  ∃ rows, (∃ enough, ∀ fuel, enough ≤ fuel → executeTargetQuery engine.search keyField intText
      (.json (.obj members)) pageSize fuel = .ok rows) ∧
    rows.Perm ((engine.matching (withoutPaging members)).map (hitRow keyField))

theorem targetQueryComplete_iff {κ : Type} [LinearOrder κ] (engine : SearchEngine κ)
    (intText : String → Option Int) {members : Fields} {keyField : String} {pageSize : Int}
    {body : Fields} {size : Nat}
    (accepted : targetQueryBody intText (.json (.obj members)) keyField pageSize = .ok (body, size)) :
    TargetQueryComplete engine intText members keyField pageSize ↔
      ReturnsEvery engine body size keyField := by
  unfold TargetQueryComplete ReturnsEvery executeTargetQuery
  rw [accepted, (targetQueryBody_spec accepted).1]
  rfl

/-- A query is complete exactly when it starts at its first document, no page boundary
separates documents that sort alike, and an empty sort has less than a page to return. -/
theorem target_query_complete_iff {κ : Type} [LinearOrder κ] (engine : SearchEngine κ)
    (intText : String → Option Int) {members : Fields} {keyField : String} {pageSize : Int}
    {body : Fields} {size : Nat}
    (accepted : targetQueryBody intText (.json (.obj members)) keyField pageSize = .ok (body, size)) :
    TargetQueryComplete engine intText members keyField pageSize ↔ FromFirst engine body ∧
      Keyset.Unbroken (engine.hitRank body) size (engine.ordered body) ∧
      (sortClauses body = [] → (engine.ordered body).length < size) := by
  rw [targetQueryComplete_iff engine intText accepted,
    paginatedSearch_complete_iff (targetQueryBody_spec accepted).2 keyField]

/-- A query without a sort of its own is sorted by the key field and `_id`. -/
theorem targetQueryBody_unsorted {intText : String → Option Int} {members : Fields}
    {keyField : String} {pageSize : Int} {body : Fields} {size : Nat}
    (unsorted : members.get? "sort" = none)
    (accepted : targetQueryBody intText (.json (.obj members)) keyField pageSize = .ok (body, size)) :
    sortClauses body = defaultSort keyField ∧
      body.get? "search_after" = members.get? "search_after" := by
  unfold targetQueryBody at accepted
  simp only at accepted
  split at accepted
  · cases accepted
  · obtain ⟨_, -, accepted⟩ := bind_eq_ok accepted
    obtain ⟨sorted, added, accepted⟩ := bind_eq_ok accepted
    cases accepted
    rw [ensureSearchAfterSort, Fields.get?_erase _ (by decide), unsorted] at added
    obtain rfl := Except.ok.inj added
    refine ⟨by simp [sortClauses], ?_⟩
    rw [Fields.get?_set_ne _ _ (by decide), Fields.get?_erase _ (by decide)]

/-- Sorted by `_id` in the end, a query is complete at every page size: its documents, which
differ in `_id`, do not sort alike. -/
theorem default_sort_complete {κ : Type} [LinearOrder κ] (engine : SearchEngine κ)
    (intText : String → Option Int) {members : Fields} {keyField : String} {pageSize : Int}
    {body : Fields} {size : Nat}
    (accepted : targetQueryBody intText (.json (.obj members)) keyField pageSize = .ok (body, size))
    (unsorted : members.get? "sort" = none) (start : members.get? "search_after" = none)
    (distinct : ((engine.matching (withoutPaging members)).map fun hit =>
      engine.rank (defaultSort keyField) (engine.values (defaultSort keyField) hit)).Nodup) :
    TargetQueryComplete engine intText members keyField pageSize := by
  obtain ⟨matching, positive⟩ := targetQueryBody_spec accepted
  obtain ⟨clauses, first⟩ := targetQueryBody_unsorted unsorted accepted
  rw [targetQueryComplete_iff engine intText accepted, paginatedSearch_complete_iff positive]
  refine ⟨?_, Keyset.unbroken_of_nodup _ positive ?_, ?_⟩
  · intro values given
    rw [first, start] at given
    cases given
  · have perm := (ordered_perm engine body).map (engine.hitRank body)
    rw [perm.nodup_iff, matching, clauses, List.map_map]
    simpa only [Function.comp_def, SearchEngine.hitRank, clauses] using distinct
  · rw [clauses]
    exact nofun

/-- Two orders of one status, told apart by their `_id`. -/
def idEngine : SearchEngine Nat where
  matching := fun _ => [⟨"1", [("status", .str "paid")], []⟩, ⟨"2", [("status", .str "paid")], []⟩]
  values := fun clauses hit => clauses.map fun _ => .str hit.id
  rank := fun _ values => if stringField [("_id", values.getLastD .null)] "_id" = some "1" then 1 else 2
  values_length := fun _ _ => List.length_map _

theorem default_sort_complete_one_a_page :
    TargetQueryComplete idEngine (fun _ => none)
      [("query", .obj [("match_all", .obj [])]), ("size", .int 1)] "id" 1000 :=
  default_sort_complete idEngine (fun _ => none) rfl rfl rfl (by decide)

/-! Two paid orders, sorted by status and read one a page. -/

def statusEngine : SearchEngine Nat where
  matching := fun _ => [⟨"1", [("status", .str "paid")], []⟩, ⟨"2", [("status", .str "paid")], []⟩]
  values := fun clauses _ => clauses.map fun _ => .str "paid"
  rank := fun _ _ => 0
  values_length := fun _ _ => List.length_map _

def byStatus : Fields :=
  [("query", .obj [("match_all", .obj [])]), ("sort", .arr [.obj [("status", .str "asc")]]),
    ("size", .int 1)]

def byStatusBody : Fields :=
  [("query", .obj [("match_all", .obj [])]), ("sort", .arr [.obj [("status", .str "asc")]])]

theorem equal_sort_values_lost :
    targetQueryBody (fun _ => none) (.json (.obj byStatus)) "id" 1000 = .ok (byStatusBody, 1) ∧
      ¬TargetQueryComplete statusEngine (fun _ => none) byStatus "id" 1000 := by
  refine ⟨rfl, ?_⟩
  rintro ⟨rows, ⟨enough, run⟩, perm⟩
  have ran : executeTargetQuery statusEngine.search "id" (fun _ => none) (.json (.obj byStatus)) 1000
      (enough + 2) = .ok [[("status", .str "paid"), ("id", .str "1")]] := rfl
  rw [run _ (by omega)] at ran
  cases ran
  exact absurd perm.length_eq (by decide)

theorem target_query_complete_iff_one_page :
    TargetQueryComplete statusEngine (fun _ => none) (byStatus.set "size" (.int 2)) "id" 1000 := by
  have accepted : targetQueryBody (fun _ => none) (.json (.obj (byStatus.set "size" (.int 2)))) "id"
      1000 = .ok (byStatusBody, 2) := rfl
  refine (target_query_complete_iff statusEngine _ accepted).mpr ⟨?_, ?_, ?_⟩
  · exact fun start given => nomatch given
  · exact Keyset.unbroken_short _ (by decide)
  · exact fun unsorted => nomatch unsorted

end KubeDataGuard
