import Mathlib.Data.String.Basic
import Mathlib.Order.Lattice
import KubeDataGuard.Operator.Reconcile

/-!
# Watch fan-out

The Invariants that a change of a Secret, a DataSource or a DerivedView
enqueues. The mappings walk the references backwards, over what the API server
lists; `resolveCheckerEnv` walks them forwards, from one Invariant.
-/

namespace KubeDataGuard

/-- `types.NamespacedName` -/
structure NamespacedName where
  ns : String
  name : String
  deriving DecidableEq, Repr

namespace NamespacedName

/-- The order the requests are sorted by. -/
def less (a b : NamespacedName) : Bool :=
  if a.ns = b.ns then decide (a.name < b.name) else decide (a.ns < b.ns)

def sort (names : List NamespacedName) : List NamespacedName := names.mergeSort fun a b => !b.less a

end NamespacedName

def Unstructured.key (o : Unstructured) : NamespacedName := ⟨o.ns, o.name⟩

/-- What the API server lists of a kind: each stored object once, none without a name. -/
structure Listed (stored : String → Option Unstructured) (items : List Unstructured) : Prop where
  once : (items.map (·.name)).Nodup
  exact : ∀ o, o ∈ items ↔ stored o.name = some o
  named : ∀ o ∈ items, o.name ≠ ""

structure Listing (c : Cluster) where
  dataSources : List Unstructured
  derivedViews : List Unstructured
  invariants : List Unstructured
  allDataSources : Listed c.dataSource dataSources
  allDerivedViews : Listed c.derivedView derivedViews
  allInvariants : Listed c.invariant invariants

/-! ## The mappings -/

section Mappings

/-- The keys of `requestByName`: a set, in the order of the list. -/
def requestByName (derivedViewNames : List String) :
    List Unstructured → Except Error (List NamespacedName)
  | [] => .ok []
  | invariant :: invariants =>
    match readError ("invariant " ++ invariant.ns ++ "/" ++ invariant.name ++ " derivedViewRef")
        (nestedString invariant.object ["spec", "derivedViewRef"]) with
    | .error e => .error e
    | .ok derivedViewRef =>
      match requestByName derivedViewNames invariants with
      | .error e => .error e
      | .ok names =>
        if derivedViewRef.getD "" ∈ derivedViewNames then .ok (names.insert invariant.key)
        else .ok names

variable {c : Cluster} (listing : Listing c)

def invariantRequestsForDerivedViewNames (derivedViewNames : List String) :
    Except Error (List NamespacedName) :=
  match requestByName derivedViewNames listing.invariants with
  | .error e => .error e
  | .ok names => .ok (NamespacedName.sort names)

/-- An error is logged and enqueues nothing. -/
def requestsOrNone : Except Error (List NamespacedName) → List NamespacedName
  | .ok requests => requests
  | .error _ => []

/-- An object whose field is no string is passed over. -/
def specStringIs (o : Unstructured) (field name : String) : Bool :=
  match nestedString o.object ["spec", field] with
  | .ok value => decide (value.getD "" = name)
  | .error _ => false

def invariantsForDataSource (name : String) : List NamespacedName :=
  let derivedViewNames := (listing.derivedViews.filter (specStringIs · "sourceRef" name)).map (·.name)
  if derivedViewNames = [] then []
  else requestsOrNone (invariantRequestsForDerivedViewNames listing derivedViewNames)

def invariantsForDerivedView (name : String) : List NamespacedName :=
  requestsOrNone (invariantRequestsForDerivedViewNames listing [name])

def invariantsForSecret (name : String) : List NamespacedName :=
  let sourceNames :=
    (listing.dataSources.filter (specStringIs · "connectionSecret" name)).map (·.name)
  let matched := fun derivedView : Unstructured =>
    let sourceRef := specString derivedView "sourceRef"
    let targetSecret := nestedStringOrEmpty derivedView.object ["spec", "target", "connectionSecret"]
    let pipelineSecret :=
      nestedStringOrEmpty derivedView.object ["spec", "pipeline", "connectionSecret"]
    decide (sourceRef ∈ sourceNames ∨ targetSecret = name ∨ pipelineSecret = name)
  let derivedViewNames := (listing.derivedViews.filter matched).map (·.name)
  if derivedViewNames = [] then []
  else requestsOrNone (invariantRequestsForDerivedViewNames listing derivedViewNames)

end Mappings

/-- The kinds the operator watches besides its own. -/
inductive WatchedKind
  | dataSource
  | derivedView
  | secret
  deriving DecidableEq, Repr

/-- A changed object of the namespace. -/
structure Change where
  kind : WatchedKind
  name : String
  named : name ≠ ""

/-- The requests of `SetupWithManager`'s watches. -/
def enqueued {c : Cluster} (listing : Listing c) (change : Change) : List NamespacedName :=
  match change.kind with
  | .dataSource => invariantsForDataSource listing change.name
  | .derivedView => invariantsForDerivedView listing change.name
  | .secret => invariantsForSecret listing change.name

/-! ## References -/

/-- What a checker's resolved environment is made from. -/
def DependsOn (c : Cluster) (invariant : Unstructured) (env : List EnvVar) (change : Change) : Prop :=
  match change.kind with
  | .derivedView => specString invariant "derivedViewRef" = change.name
  | .dataSource => specString invariant "derivedViewRef" ≠ "" ∧
      ∃ derivedView, c.derivedView (specString invariant "derivedViewRef") = some derivedView ∧
        specString derivedView "sourceRef" = change.name
  | .secret => ∃ envName secretKey, ⟨envName, .secretKeyRef change.name secretKey⟩ ∈ env

/-- A field of the spec holds the name. -/
def Names (o : Unstructured) (fields : List String) (name : String) : Prop :=
  nestedString o.object ("spec" :: fields) = .ok (some name)

/-- An Invariant refers to the object, through its DerivedView or that view's DataSource. -/
inductive RefersTo (c : Cluster) (invariant : Unstructured) (name : String) : WatchedKind → Prop
  | derivedView (ref : Names invariant ["derivedViewRef"] name) : RefersTo c invariant name .derivedView
  | dataSource (viewName : String) (derivedView : Unstructured)
      (ref : Names invariant ["derivedViewRef"] viewName)
      (stored : c.derivedView viewName = some derivedView)
      (source : Names derivedView ["sourceRef"] name) : RefersTo c invariant name .dataSource
  | viewSecret (viewName : String) (derivedView : Unstructured)
      (ref : Names invariant ["derivedViewRef"] viewName)
      (stored : c.derivedView viewName = some derivedView)
      (secret : Names derivedView ["target", "connectionSecret"] name ∨
        Names derivedView ["pipeline", "connectionSecret"] name) : RefersTo c invariant name .secret
  | sourceSecret (viewName sourceName : String) (derivedView dataSource : Unstructured)
      (ref : Names invariant ["derivedViewRef"] viewName)
      (stored : c.derivedView viewName = some derivedView)
      (source : Names derivedView ["sourceRef"] sourceName)
      (storedSource : c.dataSource sourceName = some dataSource)
      (secret : Names dataSource ["connectionSecret"] name) : RefersTo c invariant name .secret

/-! ## Reading references -/

section Reading

variable {o : Unstructured} {name : String}

theorem nestedStringOrEmpty_eq_iff (named : name ≠ "") (fields : List String) :
    nestedStringOrEmpty o.object ("spec" :: fields) = name ↔ Names o fields name := by
  unfold nestedStringOrEmpty Names
  split
  · rename_i value read
    rw [read, Except.ok.injEq, Option.some.injEq]
  · rename_i absent
    constructor
    · intro h
      exact absurd h.symm named
    · intro h
      exact absurd h (absent name)

theorem specString_eq_iff (named : name ≠ "") (field : String) :
    specString o field = name ↔ Names o [field] name := nestedStringOrEmpty_eq_iff named [field]

theorem specString_of_read {field : String} {value : Option String}
    (read : nestedString o.object ["spec", field] = .ok value) : specString o field = value.getD "" := by
  unfold specString nestedStringOrEmpty
  rw [read]
  cases value <;> rfl

theorem specStringIs_iff (named : name ≠ "") (field : String) :
    specStringIs o field name = true ↔ Names o [field] name := by
  rw [← specString_eq_iff named]
  unfold specStringIs
  split
  · rename_i value read
    rw [specString_of_read read, decide_eq_true_iff]
  · rename_i e failed
    have empty : specString o field = "" := by
      unfold specString nestedStringOrEmpty
      rw [failed]
    rw [empty]
    exact ⟨nofun, fun h => absurd h.symm named⟩

end Reading

/-! ## Listings -/

theorem derivedView_name {c : Cluster} {name : String} {o : Unstructured}
    (h : c.derivedView name = some o) : o.name = name := by
  obtain ⟨r, -, rfl⟩ := Option.map_eq_some_iff.mp h
  rfl

theorem dataSource_name {c : Cluster} {name : String} {o : Unstructured}
    (h : c.dataSource name = some o) : o.name = name := by
  obtain ⟨r, -, rfl⟩ := Option.map_eq_some_iff.mp h
  rfl

section Listed

variable {stored : String → Option Unstructured} {items : List Unstructured}

/-- The names of the listed objects that pass a test. -/
theorem Listed.mem_names (h : Listed stored items)
    (own : ∀ {name o}, stored name = some o → o.name = name) (test : Unstructured → Bool)
    (name : String) :
    name ∈ (items.filter test).map (·.name) ↔ ∃ o, stored name = some o ∧ test o = true := by
  rw [List.mem_map]
  constructor
  · rintro ⟨o, mem, rfl⟩
    obtain ⟨listed, passes⟩ := List.mem_filter.mp mem
    exact ⟨o, (h.exact o).mp listed, passes⟩
  · rintro ⟨o, found, passes⟩
    have name := own found
    refine ⟨o, List.mem_filter.mpr ⟨(h.exact o).mpr (by rw [name]; exact found), passes⟩, name⟩

/-- The objects of a namespace, from their names and contents. -/
def namespaceObjects (ns : String) (entries : List (String × Resource)) : List Unstructured :=
  entries.map fun e => { e.2 with ns := ns, name := e.1 }

/-- Any finite set of named objects is what some namespace lists. -/
theorem listed_entries (ns : String) (entries : List (String × Resource))
    (once : (entries.map Prod.fst).Nodup) (named : ∀ e ∈ entries, e.1 ≠ "") :
    Listed (fun name => (entries.lookup name).map fun r => { r with ns := ns, name := name })
      (namespaceObjects ns entries) := by
  unfold namespaceObjects
  constructor
  · rw [List.map_map]
    exact once
  · intro o
    induction entries with
    | nil => simp
    | cons e entries ih =>
      obtain ⟨absent, once⟩ := List.nodup_cons.mp once
      have rest := ih once fun e mem => named e (List.mem_cons_of_mem _ mem)
      obtain ⟨name, r⟩ := e
      rw [List.map_cons, List.mem_cons, rest, List.lookup_cons]
      by_cases same : o.name = name
      · have none : entries.lookup o.name = none := by
          rw [List.lookup_eq_none_iff]
          intro p mem
          rw [bne_iff_ne, same]
          rintro rfl
          exact absent (List.mem_map.mpr ⟨p, mem, rfl⟩)
        obtain ⟨base, ns', name'⟩ := o
        simp only at same none
        subst same
        simp [none, eq_comm]
      · have apart : o ≠ { r with ns := ns, name := name } := by
          rintro rfl
          exact same rfl
        rw [beq_eq_false_iff_ne.mpr same]
        simp [apart]
  · intro o mem
    obtain ⟨e, entry, rfl⟩ := List.mem_map.mp mem
    exact named e entry

theorem Listed.ne_empty (h : Listed stored items)
    (own : ∀ {name o}, stored name = some o → o.name = name) {name : String} {o : Unstructured}
    (found : stored name = some o) : name ≠ "" := by
  have listed := (h.exact o).mpr (by rw [own found]; exact found)
  rw [← own found]
  exact h.named o listed

end Listed

/-! ## The request list -/

section Requests

variable {derivedViewNames : List String} {invariants : List Unstructured}
  {names : List NamespacedName}

theorem mem_requestByName (h : requestByName derivedViewNames invariants = .ok names)
    (key : NamespacedName) :
    key ∈ names ↔ ∃ invariant ∈ invariants, invariant.key = key ∧
      specString invariant "derivedViewRef" ∈ derivedViewNames := by
  induction invariants generalizing names with
  | nil =>
    obtain rfl := Except.ok.inj h
    simp
  | cons invariant invariants ih =>
    unfold requestByName at h
    unfold readError at h
    split at h
    · cases h
    rename_i derivedViewRef read
    split at read
    · rename_i value found
      obtain rfl := Except.ok.inj read
      split at h
      · cases h
      rename_i rest collected
      have ref := specString_of_read found
      split at h
      · rename_i hit
        obtain rfl := Except.ok.inj h
        rw [List.mem_insert_iff, ih collected, List.exists_mem_cons_iff, ref, eq_comm (a := key)]
        simp only [hit, and_true]
      · rename_i miss
        obtain rfl := Except.ok.inj h
        rw [ih collected, List.exists_mem_cons_iff, ref]
        simp only [miss, and_false, false_or]
    · cases read

theorem nodup_requestByName (h : requestByName derivedViewNames invariants = .ok names) :
    names.Nodup := by
  induction invariants generalizing names with
  | nil =>
    obtain rfl := Except.ok.inj h
    exact List.nodup_nil
  | cons invariant invariants ih =>
    unfold requestByName at h
    split at h
    · cases h
    split at h
    · cases h
    rename_i rest collected
    split at h
    · obtain rfl := Except.ok.inj h
      exact (ih collected).insert
    · obtain rfl := Except.ok.inj h
      exact ih collected

theorem requestByName_refs (h : requestByName derivedViewNames invariants = .ok names) :
    ∀ o ∈ invariants, ∃ ref, nestedString o.object ["spec", "derivedViewRef"] = .ok ref := by
  induction invariants generalizing names with
  | nil => exact fun _ mem => absurd mem List.not_mem_nil
  | cons invariant invariants ih =>
    unfold requestByName readError at h
    split at h
    · cases h
    rename_i read
    split at h
    · cases h
    rename_i rest collected
    refine List.forall_mem_cons.mpr ⟨?_, ih collected⟩
    split at read
    · rename_i ref found
      exact ⟨ref, found⟩
    · cases read

theorem requestByName_ok (derivedViewNames : List String)
    (refs : ∀ o ∈ invariants, ∃ ref, nestedString o.object ["spec", "derivedViewRef"] = .ok ref) :
    ∃ names, requestByName derivedViewNames invariants = .ok names := by
  induction invariants with
  | nil => exact ⟨[], rfl⟩
  | cons invariant invariants ih =>
    obtain ⟨names, collected⟩ := ih fun o mem => refs o (List.mem_cons_of_mem invariant mem)
    obtain ⟨ref, read⟩ := refs invariant List.mem_cons_self
    unfold requestByName
    rw [read, collected]
    simp only [readError]
    split
    · exact ⟨_, rfl⟩
    · exact ⟨_, rfl⟩

end Requests

namespace NamespacedName

variable {a b d : NamespacedName} {names names' : List NamespacedName}

theorem less_trans (h : a.less b = true) (h' : b.less d = true) : a.less d = true := by
  unfold less at h h' ⊢
  split at h <;> split at h' <;> simp only [decide_eq_true_iff] at h h'
  · rename_i same same'
    rw [if_pos (same.trans same'), decide_eq_true_iff]
    exact lt_trans h h'
  · rename_i same apart
    rw [if_neg (same ▸ apart), decide_eq_true_iff]
    exact same ▸ h'
  · rename_i apart same
    rw [if_neg (same ▸ apart), decide_eq_true_iff]
    exact same ▸ h
  · have below := lt_trans h h'
    rw [if_neg (ne_of_lt below), decide_eq_true_iff]
    exact below

theorem less_irrefl (a : NamespacedName) : a.less a = false := by
  unfold less
  rw [if_pos rfl]
  exact decide_eq_false (lt_irrefl _)

theorem eq_of_not_less (h : a.less b = false) (h' : b.less a = false) : a = b := by
  unfold less at h h'
  by_cases same : a.ns = b.ns
  · rw [if_pos same, decide_eq_false_iff_not] at h
    rw [if_pos same.symm, decide_eq_false_iff_not] at h'
    obtain ⟨ns, name⟩ := a
    obtain ⟨ns', name'⟩ := b
    exact congrArg₂ _ same (le_antisymm (not_lt.mp h') (not_lt.mp h))
  · rw [if_neg same, decide_eq_false_iff_not] at h
    rw [if_neg (Ne.symm same), decide_eq_false_iff_not] at h'
    exact absurd (le_antisymm (not_lt.mp h') (not_lt.mp h)) same

theorem less_or_not_less (a b : NamespacedName) : (!b.less a) = true ∨ (!a.less b) = true := by
  by_cases h : b.less a = true
  · refine Or.inr ?_
    by_contra both
    have ab : a.less b = true := by simpa using both
    have aa := less_trans ab h
    rw [less_irrefl] at aa
    cases aa
  · exact Or.inl (by simpa using h)

theorem not_less_trans (h : (!b.less a) = true) (h' : (!d.less b) = true) : (!d.less a) = true := by
  rw [Bool.not_eq_true'] at h h' ⊢
  by_contra below
  rw [Bool.not_eq_false] at below
  -- `d < a`, so `b`, which is above neither, would be below `a` or above `d`
  by_cases ab : a.less b = true
  · have db := less_trans below ab
    rw [h'] at db
    cases db
  · have same := eq_of_not_less (Bool.not_eq_true _ ▸ ab) h
    rw [same, h'] at below
    cases below

/-- Sorting makes a duplicate-free list strictly increasing. -/
theorem pairwise_sort (nodup : names.Nodup) :
    (sort names).Pairwise fun a b => a.less b = true := by
  have sorted : (sort names).Pairwise fun a b => (!b.less a) = true := by
    apply List.pairwise_mergeSort
    · intro a b d h h'
      exact not_less_trans h h'
    · intro a b
      rw [Bool.or_eq_true]
      exact less_or_not_less a b
  have distinct : (sort names).Nodup := (List.mergeSort_perm names _).nodup_iff.mpr nodup
  refine (sorted.and distinct).imp ?_
  intro a b ⟨notAbove, apart⟩
  by_contra notBelow
  exact apart (eq_of_not_less (Bool.not_eq_true _ ▸ notBelow) (by simpa using notAbove))

/-- The order in which Go ranges over the set of names does not show. -/
theorem sort_perm (nodup : names.Nodup) (perm : names.Perm names') : sort names = sort names' := by
  have same : (sort names).Perm (sort names') :=
    (List.mergeSort_perm names _).trans (perm.trans (List.mergeSort_perm names' _).symm)
  refine same.eq_of_pairwise ?_ (pairwise_sort nodup) (pairwise_sort (perm.nodup_iff.mp nodup))
  intro a b _ _ below above
  have loop := less_trans below above
  rw [less_irrefl] at loop
  cases loop

end NamespacedName

/-! ## What is enqueued -/

section Enqueued

variable {c : Cluster} (listing : Listing c)

/-- The mappings fail as a whole on an Invariant whose reference is no string. -/
def StringRefs : Prop :=
  ∀ o ∈ listing.invariants, ∃ ref, nestedString o.object ["spec", "derivedViewRef"] = .ok ref

variable {listing}

theorem mem_requestsForDerivedViewNames (refs : StringRefs listing) (derivedViewNames : List String)
    (key : NamespacedName) :
    key ∈ requestsOrNone (invariantRequestsForDerivedViewNames listing derivedViewNames) ↔
      ∃ invariant ∈ listing.invariants, invariant.key = key ∧
        specString invariant "derivedViewRef" ∈ derivedViewNames := by
  obtain ⟨names, collected⟩ := requestByName_ok derivedViewNames refs
  unfold invariantRequestsForDerivedViewNames
  rw [collected]
  exact List.mem_mergeSort.trans (mem_requestByName collected key)

theorem requestsForDerivedViewNames_sorted (derivedViewNames : List String) :
    (requestsOrNone (invariantRequestsForDerivedViewNames listing derivedViewNames)).Pairwise
      fun a b => a.less b = true := by
  unfold invariantRequestsForDerivedViewNames
  cases collected : requestByName derivedViewNames listing.invariants with
  | error e => exact List.Pairwise.nil
  | ok names => exact NamespacedName.pairwise_sort (nodup_requestByName collected)

/-- With no view to look for there is no request either. -/
theorem mem_requests_guarded (refs : StringRefs listing) (derivedViewNames : List String)
    (key : NamespacedName) :
    key ∈ (if derivedViewNames = [] then []
      else requestsOrNone (invariantRequestsForDerivedViewNames listing derivedViewNames)) ↔
      ∃ invariant ∈ listing.invariants, invariant.key = key ∧
        specString invariant "derivedViewRef" ∈ derivedViewNames := by
  rw [← mem_requestsForDerivedViewNames refs]
  split
  · rename_i none
    rw [none, mem_requestsForDerivedViewNames refs]
    simp
  · rfl

/-- A change enqueues nothing, or the Invariants of some views. -/
theorem enqueued_requests (listing : Listing c) (change : Change) :
    enqueued listing change = [] ∨ ∃ derivedViewNames, enqueued listing change =
      requestsOrNone (invariantRequestsForDerivedViewNames listing derivedViewNames) := by
  have guarded : ∀ derivedViewNames requests, requests = (if derivedViewNames = [] then []
        else requestsOrNone (invariantRequestsForDerivedViewNames listing derivedViewNames)) →
      requests = [] ∨ ∃ derivedViewNames, requests =
        requestsOrNone (invariantRequestsForDerivedViewNames listing derivedViewNames) := by
    intro derivedViewNames requests h
    split at h
    · exact Or.inl h
    · exact Or.inr ⟨derivedViewNames, h⟩
  unfold enqueued
  split
  · exact guarded _ _ rfl
  · exact Or.inr ⟨_, rfl⟩
  · exact guarded _ _ rfl

theorem enqueued_sorted (change : Change) :
    (enqueued listing change).Pairwise fun a b => a.less b = true := by
  obtain none | ⟨derivedViewNames, same⟩ := enqueued_requests listing change
  · rw [none]
    exact List.Pairwise.nil
  · rw [same]
    exact requestsForDerivedViewNames_sorted derivedViewNames

/-- Where something is enqueued every reference could be read. -/
theorem stringRefs_of_mem {change : Change} {key : NamespacedName}
    (h : key ∈ enqueued listing change) : StringRefs listing := by
  obtain none | ⟨derivedViewNames, same⟩ := enqueued_requests listing change
  · rw [none] at h
    cases h
  · rw [same] at h
    unfold invariantRequestsForDerivedViewNames at h
    cases collected : requestByName derivedViewNames listing.invariants with
    | error e =>
      rw [collected] at h
      cases h
    | ok names => exact requestByName_refs collected

/-- A reference to a stored view, as the mappings and the resolution read it. -/
theorem view_ref_iff (listing : Listing c) (invariant : Unstructured) (test : Unstructured → Bool) :
    specString invariant "derivedViewRef" ∈ (listing.derivedViews.filter test).map (·.name) ↔
      ∃ viewName derivedView, Names invariant ["derivedViewRef"] viewName ∧
        c.derivedView viewName = some derivedView ∧ test derivedView = true := by
  rw [listing.allDerivedViews.mem_names derivedView_name]
  constructor
  · rintro ⟨derivedView, stored, passes⟩
    have named := listing.allDerivedViews.ne_empty derivedView_name stored
    exact ⟨_, derivedView, (specString_eq_iff named _).mp rfl, stored, passes⟩
  · rintro ⟨viewName, derivedView, ref, stored, passes⟩
    have read := specString_of_read ref
    exact ⟨derivedView, by rw [read]; exact stored, passes⟩

theorem source_ref_iff (listing : Listing c) (derivedView : Unstructured) (name : String)
    (named : name ≠ "") :
    specString derivedView "sourceRef" ∈
        (listing.dataSources.filter (specStringIs · "connectionSecret" name)).map (·.name) ↔
      ∃ sourceName dataSource, Names derivedView ["sourceRef"] sourceName ∧
        c.dataSource sourceName = some dataSource ∧ Names dataSource ["connectionSecret"] name := by
  rw [listing.allDataSources.mem_names dataSource_name]
  constructor
  · rintro ⟨dataSource, stored, secret⟩
    have found := listing.allDataSources.ne_empty dataSource_name stored
    exact ⟨_, dataSource, (specString_eq_iff found _).mp rfl, stored,
      (specStringIs_iff named _).mp secret⟩
  · rintro ⟨sourceName, dataSource, ref, stored, secret⟩
    have read := specString_of_read ref
    exact ⟨dataSource, by rw [read]; exact stored, (specStringIs_iff named _).mpr secret⟩

/-- The enqueued Invariants are those that refer to the changed object. -/
theorem mem_enqueued (refs : StringRefs listing) (change : Change) (key : NamespacedName) :
    key ∈ enqueued listing change ↔ ∃ invariant ∈ listing.invariants, invariant.key = key ∧
      RefersTo c invariant change.name change.kind := by
  obtain ⟨kind, name, named⟩ := change
  cases kind with
  | dataSource =>
    refine (mem_requests_guarded refs _ key).trans ?_
    refine exists_congr fun invariant => and_congr_right fun _ => and_congr_right fun _ => ?_
    rw [view_ref_iff]
    constructor
    · rintro ⟨viewName, derivedView, ref, stored, source⟩
      exact .dataSource viewName derivedView ref stored ((specStringIs_iff named _).mp source)
    · rintro ⟨⟩
      rename_i viewName derivedView ref stored source
      exact ⟨viewName, derivedView, ref, stored, (specStringIs_iff named _).mpr source⟩
  | derivedView =>
    refine (mem_requestsForDerivedViewNames refs _ key).trans ?_
    refine exists_congr fun invariant => and_congr_right fun _ => and_congr_right fun _ => ?_
    rw [List.mem_singleton, specString_eq_iff named]
    constructor
    · exact .derivedView
    · rintro ⟨⟩
      assumption
  | secret =>
    refine (mem_requests_guarded refs _ key).trans ?_
    refine exists_congr fun invariant => and_congr_right fun _ => and_congr_right fun _ => ?_
    rw [view_ref_iff]
    simp only [decide_eq_true_iff, source_ref_iff listing _ _ named,
      nestedStringOrEmpty_eq_iff named]
    constructor
    · rintro ⟨viewName, derivedView, ref, stored, source | secret⟩
      · obtain ⟨sourceName, dataSource, source, storedSource, secret⟩ := source
        exact .sourceSecret viewName sourceName derivedView dataSource ref stored source
          storedSource secret
      · exact .viewSecret viewName derivedView ref stored secret
    · intro refers
      cases refers with
      | viewSecret viewName derivedView ref stored secret =>
        exact ⟨viewName, derivedView, ref, stored, Or.inr secret⟩
      | sourceSecret viewName sourceName derivedView dataSource ref stored source storedSource secret =>
        exact ⟨viewName, derivedView, ref, stored,
          Or.inl ⟨sourceName, dataSource, source, storedSource, secret⟩⟩

end Enqueued

/-! ## What an environment is resolved from -/

section Resolution

theorem mem_upsertEnvVar {env : List EnvVar} {value e : EnvVar} (h : e ∈ upsertEnvVar env value) :
    e ∈ env ∨ e = value := by
  induction env with
  | nil => exact Or.inr (List.mem_singleton.mp h)
  | cons first env ih =>
    unfold upsertEnvVar at h
    split at h
    · obtain same | mem := List.mem_cons.mp h
      · exact Or.inr same
      · exact Or.inl (List.mem_cons_of_mem first mem)
    · obtain same | mem := List.mem_cons.mp h
      · exact Or.inl (List.mem_cons.mpr (Or.inl same))
      · exact (ih mem).imp_left (List.mem_cons_of_mem first)

theorem mem_foldl_upsertEnvVar {values env : List EnvVar} {e : EnvVar}
    (h : e ∈ values.foldl upsertEnvVar env) : e ∈ env ∨ e ∈ values := by
  induction values generalizing env with
  | nil => exact Or.inl h
  | cons value values ih =>
    obtain mem | mem := ih h
    · obtain mem | same := mem_upsertEnvVar mem
      · exact Or.inl mem
      · exact Or.inr (List.mem_cons.mpr (Or.inl same))
    · exact Or.inr (List.mem_cons_of_mem value mem)

/-- The unresolved environment names no Secret. -/
theorem checkerEnv_literal {invariant : Unstructured} {envName name secretKey : String} :
    ⟨envName, .secretKeyRef name secretKey⟩ ∉ checkerEnv invariant := by
  simp [checkerEnv]

theorem applyDataSourceEnv_secret {env : List EnvVar} {dataSource : Unstructured}
    {envName name secretKey : String}
    (h : ⟨envName, .secretKeyRef name secretKey⟩ ∈ applyDataSourceEnv env dataSource) :
    ⟨envName, .secretKeyRef name secretKey⟩ ∈ env ∨ Names dataSource ["connectionSecret"] name := by
  unfold applyDataSourceEnv at h
  simp only at h
  split at h
  · rename_i guard
    obtain mem | same := mem_upsertEnvVar h
    · exact Or.inl mem
    · refine Or.inr ?_
      obtain ⟨-, rfl, -⟩ : envName = "POSTGRES_DSN" ∧ name = specString dataSource "connectionSecret" ∧
          _ := by simpa [secretEnvVar] using same
      exact (specString_eq_iff guard.2 _).mp rfl
  · exact Or.inl h

theorem derivedViewEnv_secret {derivedView : Unstructured} {envName name secretKey : String}
    (h : ⟨envName, .secretKeyRef name secretKey⟩ ∈ derivedViewEnv derivedView) :
    Names derivedView ["target", "connectionSecret"] name ∨
      Names derivedView ["pipeline", "connectionSecret"] name := by
  have literal : ∀ text other, ⟨envName, .secretKeyRef name secretKey⟩ ∉
      (if text = "" then [] else [EnvVar.mk other (.value text)]) := by
    intro text other
    split <;> simp
  have read : ∀ fields, nestedStringOrEmpty derivedView.object ("spec" :: fields) ≠ "" →
      name = nestedStringOrEmpty derivedView.object ("spec" :: fields) →
      Names derivedView fields name := by
    intro fields filled same
    exact (nestedStringOrEmpty_eq_iff (same ▸ filled) fields).mp same.symm
  have named : ∀ {other text key}, EnvVar.mk envName (.secretKeyRef name secretKey) =
      secretEnvVar other text key → name = text := by
    rintro _ _ _ ⟨⟩
    rfl
  unfold derivedViewEnv at h
  simp only [List.mem_append, literal, or_false, Bool.and_eq_true, decide_eq_true_iff] at h
  obtain ((h | h) | h) | h := h
  · split at h
    · rename_i guard
      exact Or.inl (read _ guard.2 (named (List.mem_singleton.mp h)))
    · cases h
  · split at h
    · rename_i guard
      exact Or.inl (read _ guard.2 (named (List.mem_singleton.mp h)))
    · cases h
  · split at h
    · rename_i guard
      -- ClickHouse takes three variables from one Secret
      simp only [List.mem_cons, List.not_mem_nil, or_false] at h
      obtain h | h | h := h <;> exact Or.inl (read _ guard.2 (named h))
    · cases h
  · split at h
    · rename_i guard
      exact Or.inr (read _ guard.2 (named (List.mem_singleton.mp h)))
    · cases h

variable {c : Cluster} {invariant : Unstructured} {env : List EnvVar}

/-- An environment that resolves comes from the stored view and, where it names one, its source. -/
theorem resolveCheckerEnv_ok (h : resolveCheckerEnv c invariant = .ok env) :
    (specString invariant "derivedViewRef" = "" ∧ env = checkerEnv invariant) ∨
      ∃ derivedView, specString invariant "derivedViewRef" ≠ "" ∧
        c.derivedView (specString invariant "derivedViewRef") = some derivedView ∧
        ((specString derivedView "sourceRef" = "" ∧
            env = applyDerivedViewEnv (checkerEnv invariant) derivedView) ∨
          ∃ dataSource, specString derivedView "sourceRef" ≠ "" ∧
            c.dataSource (specString derivedView "sourceRef") = some dataSource ∧
            env = applyDerivedViewEnv (applyDataSourceEnv (checkerEnv invariant) dataSource)
              derivedView) := by
  unfold resolveCheckerEnv at h
  simp only at h
  split at h
  · rename_i none
    exact Or.inl ⟨none, (Except.ok.inj h).symm⟩
  rename_i some
  refine Or.inr ?_
  split at h
  · cases h
  rename_i derivedView stored
  refine ⟨derivedView, some, stored, ?_⟩
  unfold readError at h
  split at h
  · cases h
  rename_i value found
  split at found
  · rename_i sourceRef read
    obtain rfl := Except.ok.inj found
    rw [specString_of_read read]
    split at h
    · rename_i empty
      exact Or.inl ⟨empty, (Except.ok.inj h).symm⟩
    rename_i filled
    split at h
    · cases h
    · rename_i dataSource storedSource
      exact Or.inr ⟨dataSource, filled, storedSource, (Except.ok.inj h).symm⟩
  · cases found

/-- The two traversals agree: what the environment is made from is what the mappings look for. -/
theorem DependsOn.refersTo (resolved : resolveCheckerEnv c invariant = .ok env) {change : Change}
    (h : DependsOn c invariant env change) : RefersTo c invariant change.name change.kind := by
  obtain ⟨kind, name, named⟩ := change
  cases kind with
  | derivedView => exact .derivedView ((specString_eq_iff named _).mp h)
  | dataSource =>
    obtain ⟨filled, derivedView, stored, source⟩ := h
    exact .dataSource _ derivedView ((specString_eq_iff filled _).mp rfl) stored
      ((specString_eq_iff named _).mp source)
  | secret =>
    obtain ⟨envName, secretKey, mem⟩ := h
    obtain ⟨-, rfl⟩ | ⟨derivedView, filled, stored, source⟩ := resolveCheckerEnv_ok resolved
    · exact absurd mem checkerEnv_literal
    have ref := (specString_eq_iff filled _).mp rfl
    have view : ∀ env, ⟨envName, .secretKeyRef name secretKey⟩ ∈ applyDerivedViewEnv env derivedView →
        ⟨envName, .secretKeyRef name secretKey⟩ ∈ env ∨ RefersTo c invariant name .secret := by
      intro env mem
      exact (mem_foldl_upsertEnvVar mem).imp_right fun own =>
        .viewSecret _ derivedView ref stored (derivedViewEnv_secret own)
    obtain ⟨-, rfl⟩ | ⟨dataSource, named', storedSource, rfl⟩ := source
    · exact (view _ mem).resolve_left checkerEnv_literal
    · obtain mem | refers := view _ mem
      · have secret := (applyDataSourceEnv_secret mem).resolve_left checkerEnv_literal
        exact .sourceSecret _ _ derivedView dataSource ref stored
          ((specString_eq_iff named' _).mp rfl) storedSource secret
      · exact refers

end Resolution

section Exact

variable {c : Cluster}

/-- A change enqueues the Invariants whose resolved environment depends on it, and none that
does not refer to it, each once and in order. -/
theorem fan_out_exact (listing : Listing c) (refs : StringRefs listing) (change : Change) :
    (∀ invariant ∈ listing.invariants, ∀ env, resolveCheckerEnv c invariant = .ok env →
      DependsOn c invariant env change → invariant.key ∈ enqueued listing change) ∧
    (∀ request ∈ enqueued listing change, ∃ invariant ∈ listing.invariants,
      invariant.key = request ∧ RefersTo c invariant change.name change.kind) ∧
    (enqueued listing change).Nodup ∧
    (enqueued listing change).Pairwise fun a b => a.less b = true := by
  refine ⟨?_, ?_, ?_, enqueued_sorted change⟩
  · intro invariant listed env resolved depends
    exact (mem_enqueued refs change _).mpr ⟨invariant, listed, rfl, depends.refersTo resolved⟩
  · intro request enqueued
    exact (mem_enqueued refs change request).mp enqueued
  · refine (enqueued_sorted change).imp ?_
    rintro a b below rfl
    rw [NamespacedName.less_irrefl] at below
    cases below

end Exact

/-! ## A view with its own Secret -/

def specOf (generation : Int) (spec : Fields) : Resource := ⟨0, generation, [], [("spec", .obj spec)]⟩

def postgresEntries : List (String × Resource) :=
  [("orders-postgres", specOf 1
    [("type", .str "postgres"), ("connectionSecret", .str "orders-postgres-secret")])]

def searchEntries : List (String × Resource) :=
  [("orders-search-index", specOf 1
    [("sourceRef", .str "orders-postgres"),
      ("target", .obj
        [("type", .str "opensearch"), ("connectionSecret", .str "orders-opensearch-secret")])])]

def referringEntries : List (String × Resource) :=
  [("paid-orders-indexed", specOf 1 [("derivedViewRef", .str "orders-search-index")]),
    ("paid-orders-freshness", specOf 1 [("derivedViewRef", .str "orders-search-index")]),
    ("warehouse-indexed", specOf 1 [("derivedViewRef", .str "warehouse-search-index")])]

def referring : Cluster where
  ns := "default"
  now := 0
  nextUid := 1
  invariants name := referringEntries.lookup name
  jobs _ := none
  configMaps _ := none
  policies := []
  derivedViews name := searchEntries.lookup name
  dataSources name := postgresEntries.lookup name
  serviceAccounts := []
  roles := []
  roleBindings := []

theorem postgres_listed : Listed referring.dataSource (namespaceObjects "default" postgresEntries) :=
  listed_entries "default" postgresEntries (by decide) (by decide)

theorem search_listed : Listed referring.derivedView (namespaceObjects "default" searchEntries) :=
  listed_entries "default" searchEntries (by decide) (by decide)

theorem referring_listed : Listed referring.invariant (namespaceObjects "default" referringEntries) :=
  listed_entries "default" referringEntries (by decide) (by decide)

def referringListing : Listing referring where
  dataSources := namespaceObjects "default" postgresEntries
  derivedViews := namespaceObjects "default" searchEntries
  invariants := namespaceObjects "default" referringEntries
  allDataSources := postgres_listed
  allDerivedViews := search_listed
  allInvariants := referring_listed

def postgresSecret : Change := ⟨.secret, "orders-postgres-secret", nofun⟩

def indexedInvariant : Unstructured :=
  { specOf 1 [("derivedViewRef", .str "orders-search-index")] with
    ns := "default"
    name := "paid-orders-indexed" }

def indexedEnv : List EnvVar :=
  upsertEnvVar (upsertEnvVar (checkerEnv indexedInvariant)
      (secretEnvVar "POSTGRES_DSN" "orders-postgres-secret" "dsn"))
    (secretEnvVar "OPENSEARCH_URL" "orders-opensearch-secret" "url")

/-- The Secret of the source is three references away from the Invariant. -/
theorem fan_out_exact_source_secret :
    indexedInvariant.key ∈ enqueued referringListing postgresSecret := by
  have refs : StringRefs referringListing := by
    intro o mem
    obtain ⟨e, entry, rfl⟩ := List.mem_map.mp mem
    simp only [referringEntries, List.mem_cons, List.not_mem_nil, or_false] at entry
    obtain rfl | rfl | rfl := entry <;> exact ⟨_, rfl⟩
  have listed : indexedInvariant ∈ referringListing.invariants := List.mem_cons_self
  have resolved : resolveCheckerEnv referring indexedInvariant = .ok indexedEnv := rfl
  have depends : DependsOn referring indexedInvariant indexedEnv postgresSecret :=
    ⟨"POSTGRES_DSN", "dsn", List.mem_cons_self⟩
  exact (fan_out_exact referringListing refs postgresSecret).1 _ listed _ resolved depends

end KubeDataGuard
