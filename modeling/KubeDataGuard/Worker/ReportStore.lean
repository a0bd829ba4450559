import Mathlib.Data.List.Sort
import Mathlib.Data.String.Basic
import Mathlib.Order.Lattice
import KubeDataGuard.General.Runs
import KubeDataGuard.General.Texts
import KubeDataGuard.Time
import KubeDataGuard.Worker.Markdown

/-!
# The report store

`write_report_artifacts` with `REPORT_STORE=s3`: the files are written to the
worker's own directory under a name that only the second of a clock reading
decides, and uploaded one by one under the shared prefix. The calls of several
workers interleave; one that raises takes no further step.
-/

namespace KubeDataGuard

open Runs

/-! ## Names -/

/-- `strftime("%Y%m%dT%H%M%SZ")` -/
def stampText (t : Instant) : String :=
  let unix := t.fdiv 1000000
  let (year, month, day) := civilDate (unix.fdiv 86400)
  let rest := unix.fmod 86400
  pad 4 year ++ pad 2 month ++ pad 2 day ++ "T" ++ pad 2 (rest / 3600) ++ pad 2 (rest % 3600 / 60) ++
    pad 2 (rest % 60) ++ "Z"

def jsonName (t : Instant) : String := "drift-" ++ stampText t ++ ".json"

def markdownName (t : Instant) : String := "drift-" ++ stampText t ++ ".md"

def compactName (t : Instant) : String := "drift-" ++ stampText t ++ ".compact.json"

def latestName : String := "latest.json"

def stripSlashes (s : String) : String :=
  String.ofList ((s.toList.dropWhile (· == '/')).reverse.dropWhile (· == '/')).reverse

def s3Key (reportPrefix name : String) : String :=
  if stripSlashes reportPrefix = "" then name else stripSlashes reportPrefix ++ "/" ++ name

def s3Ref (bucket key : String) : String := "s3://" ++ bucket ++ "/" ++ key

/-! ## The worker's directory -/

/-- What a file or an object holds: one of the renderings of a report. -/
inductive Artifact
  | json (payload : Fields)
  | markdown (payload : Fields)
  | compact (payload : Fields)

structure LocalFile where
  name : String
  modified : Instant
  content : Artifact

/-- The directory with a file written in it. -/
def withText (directory : List LocalFile) (name : String) (modified : Instant)
    (content : Artifact) : List LocalFile :=
  ⟨name, modified, content⟩ :: directory.filter fun f => f.name ≠ name

/-- `path.write_text(...)` -/
def writeText (name : String) (modified : Instant) (content : Artifact) : Py (List LocalFile) Unit :=
  fun directory => (.ok (), withText directory name modified content)

/-- A text that cannot be made leaves the files before it. -/
def writeReports (print : Printing) (report : DriftReport) (now : Instant) :
    Py (List LocalFile) Unit := do
  let payload := report.toDict
  let _ ← Py.ofExcept (print.dumps (.obj payload))
  writeText (jsonName now) now (.json payload)
  let _ ← Py.ofExcept (markdownReport print payload)
  writeText (markdownName now) now (.markdown payload)
  let compact ← Py.ofExcept (compactReport payload)
  let _ ← Py.ofExcept (print.dumps (.obj compact))
  writeText (compactName now) now (.compact payload)
  let _ ← Py.ofExcept (print.dumps (.obj payload))
  writeText latestName now (.json payload)

/-- The directory with the four files of a report. -/
def withReport (directory : List LocalFile) (report : DriftReport) (now : Instant) :
    List LocalFile :=
  let payload := report.toDict
  let directory := withText directory (jsonName now) now (.json payload)
  let directory := withText directory (markdownName now) now (.markdown payload)
  let directory := withText directory (compactName now) now (.compact payload)
  withText directory latestName now (.json payload)

/-- `drift-*.json` without the compact ones. -/
def LocalFile.isReport (f : LocalFile) : Bool :=
  "drift-".toList.isPrefixOf f.name.toList && ".json".toList.isSuffixOf (f.name.toList.drop 6) &&
    !".compact.json".toList.isSuffixOf f.name.toList

/-- The files `delete_report_family` removes with a report. -/
def reportFamily (name : String) : List String :=
  let stem := String.ofList (name.toList.take (name.toList.length - 5))
  [stem ++ ".json", stem ++ ".md", stem ++ ".compact.json"]

def applyLocalRetention (retentionCount retentionDays : Nat) (now : Instant)
    (directory : List LocalFile) : List LocalFile :=
  let reports := (directory.filter LocalFile.isReport).insertionSort fun a b => b.modified ≤ a.modified
  let doomed := reports.zipIdx.filter fun (f, index) =>
    decide (0 < retentionCount ∧ retentionCount ≤ index) ||
      decide (0 < retentionDays ∧ f.modified < now - seconds (retentionDays * 86400))
  directory.filter fun f => doomed.all fun (r, _) => f.name ∉ reportFamily r.name

/-! ## Calls -/

inductive CallStage
  | started
  | written (stamp : Instant)
  /-- The first so many of the uploads are made. -/
  | uploading (stamp : Instant) (done : Nat)
  | returned (stamp : Instant) (reportRef : String)

structure ReportCall where
  report : DriftReport
  retentionCount : Nat
  retentionDays : Nat
  directory : List LocalFile
  stage : CallStage := .started

def ReportCall.moveTo (c : ReportCall) (stage : CallStage) : ReportCall := { c with stage }

/-- The files in the order `publish_s3_artifacts` uploads them. -/
def uploads (stamp : Instant) : List String :=
  [jsonName stamp, markdownName stamp, compactName stamp, latestName]

structure ReportStore (ι : Type) where
  objects : String → Option Artifact
  calls : ι → ReportCall

inductive ReportStore.Step {ι : Type} [DecidableEq ι] (print : Printing)
    (bucket reportPrefix : String) : ReportStore ι → ι → ReportStore ι → Prop
  | write (s : ReportStore ι) (i : ι) (now : Instant) (directory : List LocalFile)
      (stage : (s.calls i).stage = .started)
      (wrote : writeReports print (s.calls i).report now (s.calls i).directory = (.ok (), directory)) :
      Step print bucket reportPrefix s i
        { s with calls := Function.update s.calls i { s.calls i with
            directory := directory
            stage := .written now } }
  | retain (s : ReportStore ι) (i : ι) (now stamp : Instant)
      (stage : (s.calls i).stage = .written stamp) (configured : bucket ≠ "") :
      Step print bucket reportPrefix s i
        { s with calls := Function.update s.calls i { s.calls i with
            directory := applyLocalRetention (s.calls i).retentionCount (s.calls i).retentionDays now
              (s.calls i).directory
            stage := .uploading stamp 0 } }
  | upload (s : ReportStore ι) (i : ι) (stamp : Instant) (done : Nat) (name : String) (f : LocalFile)
      (stage : (s.calls i).stage = .uploading stamp done)
      (next : (uploads stamp)[done]? = some name)
      (found : (s.calls i).directory.find? (fun f => f.name = name) = some f) :
      Step print bucket reportPrefix s i
        { objects := Function.update s.objects (s3Key reportPrefix name) (some f.content)
          calls := Function.update s.calls i ((s.calls i).moveTo (.uploading stamp (done + 1))) }
  | finish (s : ReportStore ι) (i : ι) (stamp : Instant)
      (stage : (s.calls i).stage = .uploading stamp (uploads stamp).length) :
      Step print bucket reportPrefix s i
        { s with calls := Function.update s.calls i ((s.calls i).moveTo
            (.returned stamp (s3Ref bucket (s3Key reportPrefix (jsonName stamp))))) }

/-- Any contents of the bucket and of the workers' directories. -/
def ReportStore.Starting {ι : Type} (s : ReportStore ι) : Prop := ∀ i, (s.calls i).stage = .started

/-- The object at the reference a call returned is the report the call was given. -/
def ReportStore.PointsAtOwn {ι : Type} (bucket : String) (s : ReportStore ι) (i : ι) : Prop :=
  ∀ stamp ref, (s.calls i).stage = .returned stamp ref →
    ∃ key, ref = s3Ref bucket key ∧ s.objects key = some (.json (s.calls i).report.toDict)

/-! ## Keys -/

theorem pad_chars {width : Nat} {n : Int} : '.' ∉ (pad width n).toList := by
  simp only [pad, String.toList_ofList, List.mem_append, List.mem_replicate, not_or]
  exact ⟨fun h => absurd h.2 (by decide), Texts.not_mem_int_text (by decide) (by decide)⟩

theorem stampText_chars (t : Instant) : '.' ∉ (stampText t).toList := by
  simp [stampText, pad_chars]

theorem s3Key_injective (reportPrefix : String) : Function.Injective (s3Key reportPrefix) := by
  intro a b h
  unfold s3Key at h
  split at h
  · exact h
  · exact (String.append_right_inj _).mp h

theorem drift_name {a b c d : String} (h : "drift-" ++ a ++ b = "drift-" ++ c ++ d) :
    a.toList ++ b.toList = c.toList ++ d.toList := by
  have chars := congrArg String.toList h
  simp only [String.toList_append, List.append_assoc] at chars
  exact List.append_cancel_left chars

theorem jsonName_inj {t u : Instant} : jsonName t = jsonName u ↔ stampText t = stampText u := by
  constructor
  · intro h
    exact String.toList_inj.mp (List.append_cancel_right (drift_name h))
  · intro h
    rw [jsonName, jsonName, h]

/-- Up to its first dot a name is its stamp, so the endings tell the files apart. -/
theorem ending_inj {t u : Instant} {a b : List Char}
    (h : (stampText t).toList ++ '.' :: a = (stampText u).toList ++ '.' :: b) : a = b :=
  (Texts.split_unique (stampText_chars t) (stampText_chars u) h).2

theorem jsonName_ne_markdown (t u : Instant) : markdownName u ≠ jsonName t := by
  intro h
  unfold markdownName jsonName at h
  have chars := drift_name h
  rw [show ".md".toList = ['.', 'm', 'd'] by simp,
    show ".json".toList = ['.', 'j', 's', 'o', 'n'] by simp] at chars
  exact absurd (ending_inj chars) (by decide)

theorem jsonName_ne_compact (t u : Instant) : compactName u ≠ jsonName t := by
  intro h
  unfold compactName jsonName at h
  have chars := drift_name h
  rw [show ".compact.json".toList =
      ['.', 'c', 'o', 'm', 'p', 'a', 'c', 't', '.', 'j', 's', 'o', 'n'] by simp,
    show ".json".toList = ['.', 'j', 's', 'o', 'n'] by simp] at chars
  exact absurd (ending_inj chars) (by decide)

theorem jsonName_ne_latest (t : Instant) : latestName ≠ jsonName t := by
  intro h
  have chars := congrArg String.toList h
  simp only [jsonName, String.toList_append, List.append_assoc] at chars
  exact absurd (congrArg List.head? chars) (by simp [latestName])

/-- Only the first upload of a call can be a report under a given stamp. -/
theorem uploads_json {t u : Instant} {done : Nat} {name : String}
    (h : (uploads u)[done]? = some name) (same : name = jsonName t) :
    done = 0 ∧ stampText u = stampText t := by
  rw [same] at h
  unfold uploads at h
  rcases done with _ | _ | _ | _ | n
  · simp only [List.getElem?_cons_zero, Option.some.injEq, jsonName_inj] at h
    exact ⟨rfl, h⟩
  · simp only [List.getElem?_cons_succ, List.getElem?_cons_zero, Option.some.injEq] at h
    exact absurd h (jsonName_ne_markdown t u)
  · simp only [List.getElem?_cons_succ, List.getElem?_cons_zero, Option.some.injEq] at h
    exact absurd h (jsonName_ne_compact t u)
  · simp only [List.getElem?_cons_succ, List.getElem?_cons_zero, Option.some.injEq] at h
    exact absurd h (jsonName_ne_latest t)
  · simp at h

/-! ## Directories -/

theorem mem_withText {directory : List LocalFile} {name : String} {modified : Instant}
    {content : Artifact} {f : LocalFile} (h : f ∈ withText directory name modified content) :
    f = ⟨name, modified, content⟩ ∨ f ∈ directory ∧ f.name ≠ name := by
  rcases List.mem_cons.mp h with new | old
  · exact Or.inl new
  · exact Or.inr ⟨(List.mem_filter.mp old).1, of_decide_eq_true (List.mem_filter.mp old).2⟩

section WriteReports

variable {print : Printing} {report : DriftReport} {now : Instant}
  {directory written : List LocalFile}

/-- What returns has written all four files. -/
theorem writeReports_ok (h : writeReports print report now directory = (.ok (), written)) :
    written = withReport directory report now := by
  obtain ⟨_, -, h⟩ := Py.ofExcept_ok h
  obtain ⟨_, -, h⟩ := Py.ofExcept_ok h
  obtain ⟨_, -, h⟩ := Py.ofExcept_ok h
  obtain ⟨_, -, h⟩ := Py.ofExcept_ok h
  obtain ⟨_, -, h⟩ := Py.ofExcept_ok h
  exact (Prod.mk.inj h).2.symm

/-- It returns where every text can be made. -/
theorem writeReports_rendered (rendered : Returns (renderReports print report)) :
    writeReports print report now directory = (.ok (), withReport directory report now) := by
  obtain ⟨texts, rendered⟩ := rendered
  obtain ⟨_, json, rendered⟩ := bind_eq_ok rendered
  obtain ⟨_, markdown, rendered⟩ := bind_eq_ok rendered
  obtain ⟨_, compact, rendered⟩ := bind_eq_ok rendered
  obtain ⟨_, compactText, -⟩ := bind_eq_ok rendered
  unfold writeReports
  simp only [Py.bind_run, Py.ofExcept_run, writeText, json, markdown, compact, compactText]
  rfl

/-- A report whose markdown raises leaves its JSON alone in the directory. -/
theorem writeReports_unrendered {text : String} {e : Raised}
    (json : print.dumps (.obj report.toDict) = .ok text)
    (raised : markdownReport print report.toDict = .error e) :
    writeReports print report now directory =
      (.error e, withText directory (jsonName now) now (.json report.toDict)) := by
  unfold writeReports
  simp only [json, raised]
  rfl

end WriteReports

theorem withReport_json {directory : List LocalFile} {report : DriftReport} {now : Instant}
    {f : LocalFile} (h : f ∈ withReport directory report now) (name : f.name = jsonName now) :
    f.content = .json report.toDict := by
  rcases mem_withText h with rfl | ⟨h, -⟩
  · exact absurd name (jsonName_ne_latest now)
  rcases mem_withText h with rfl | ⟨h, -⟩
  · exact absurd name (jsonName_ne_compact now now)
  rcases mem_withText h with rfl | ⟨h, -⟩
  · exact absurd name (jsonName_ne_markdown now now)
  rcases mem_withText h with rfl | ⟨-, other⟩
  · rfl
  · exact absurd name other

theorem withText_has {directory : List LocalFile} {name name' : String} {modified : Instant}
    {content : Artifact} (h : name' = name ∨ ∃ f ∈ directory, f.name = name') :
    ∃ f ∈ withText directory name modified content, f.name = name' := by
  by_cases same : name' = name
  · exact ⟨_, List.mem_cons_self, same.symm⟩
  · obtain ⟨f, hf, named⟩ := h.resolve_left same
    have kept : decide (f.name ≠ name) = true := by simpa [named] using same
    exact ⟨f, List.mem_cons_of_mem _ (List.mem_filter.mpr ⟨hf, kept⟩), named⟩

theorem withReport_has (directory : List LocalFile) (report : DriftReport) (now : Instant)
    {name : String} (h : name ∈ uploads now) :
    ∃ f ∈ withReport directory report now, f.name = name := by
  simp only [uploads, List.mem_cons, List.not_mem_nil, or_false] at h
  unfold withReport
  rcases h with rfl | rfl | rfl | rfl
  · exact withText_has (Or.inr (withText_has (Or.inr (withText_has (Or.inr
      (withText_has (Or.inl rfl)))))))
  · exact withText_has (Or.inr (withText_has (Or.inr (withText_has (Or.inl rfl)))))
  · exact withText_has (Or.inr (withText_has (Or.inl rfl)))
  · exact withText_has (Or.inl rfl)

theorem applyLocalRetention_unlimited (now : Instant) (directory : List LocalFile) :
    applyLocalRetention 0 0 now directory = directory := by
  simp [applyLocalRetention]

/-! ## What the store holds -/

/-- The stamp of the files a call has written. -/
def CallStage.stamp : CallStage → Option Instant
  | .started => none
  | .written stamp | .uploading stamp _ | .returned stamp _ => some stamp

/-- The stamp under which a call has uploaded its report. -/
def CallStage.uploaded : CallStage → Option Instant
  | .uploading stamp (_ + 1) | .returned stamp _ => some stamp
  | _ => none

section Store

variable {ι : Type} [DecidableEq ι] {print : Printing} {bucket reportPrefix : String}

/-- A call's directory holds its report, and it returns the reference of its report. -/
structure ReportCall.Keeps (bucket reportPrefix : String) (c : ReportCall) : Prop where
  file : ∀ stamp, c.stage.stamp = some stamp → ∀ f ∈ c.directory, f.name = jsonName stamp →
    f.content = .json c.report.toDict
  ref : ∀ stamp ref, c.stage = .returned stamp ref →
    ref = s3Ref bucket (s3Key reportPrefix (jsonName stamp))

/-- Under a stamp that a call has uploaded its report under there is the report
of a call that has done so. -/
def Stored (reportPrefix : String) (s : ReportStore ι) : Prop :=
  ∀ i stamp, (s.calls i).stage.uploaded = some stamp → ∃ j stamp',
    (s.calls j).stage.uploaded = some stamp' ∧ stampText stamp' = stampText stamp ∧
      s.objects (s3Key reportPrefix (jsonName stamp)) = some (.json (s.calls j).report.toDict)

def StoreInvariant (bucket reportPrefix : String) (s : ReportStore ι) : Prop :=
  (∀ i, (s.calls i).Keeps bucket reportPrefix) ∧ Stored reportPrefix s

theorem keeps_update {calls : ι → ReportCall} (h : ∀ k, (calls k).Keeps bucket reportPrefix) {i : ι}
    {c : ReportCall} (hc : c.Keeps bucket reportPrefix) (k : ι) :
    (Function.update calls i c k).Keeps bucket reportPrefix := by
  by_cases hk : k = i
  · rw [hk, Function.update_self]
    exact hc
  · rw [Function.update_of_ne hk]
    exact h k

/-- Calls keep the report they were given. -/
theorem update_report {calls : ι → ReportCall} {i : ι} {c : ReportCall}
    (report : c.report = (calls i).report) (k : ι) :
    (Function.update calls i c k).report = (calls k).report := by
  by_cases hk : k = i
  · rw [hk, Function.update_self]
    exact report
  · rw [Function.update_of_ne hk]

/-- A step that changes no object and keeps what its call has uploaded. -/
theorem Stored.congr {s : ReportStore ι} (h : Stored reportPrefix s) {i : ι} {c : ReportCall}
    (report : c.report = (s.calls i).report)
    (uploaded : c.stage.uploaded = (s.calls i).stage.uploaded) :
    Stored reportPrefix { s with calls := Function.update s.calls i c } := by
  have same : ∀ k, (Function.update s.calls i c k).stage.uploaded = (s.calls k).stage.uploaded := by
    intro k
    by_cases hk : k = i
    · rw [hk, Function.update_self]
      exact uploaded
    · rw [Function.update_of_ne hk]
  intro k stamp hk
  rw [same k] at hk
  obtain ⟨j, stamp', hj, text, object⟩ := h k stamp hk
  exact ⟨j, stamp', (same j).trans hj, text, by rw [update_report report]; exact object⟩

/-- The upload of a call's own report replaces what is stored under its stamp only. -/
theorem Stored.upload {s : ReportStore ι} (h : Stored reportPrefix s) {i : ι} {stamp : Instant}
    {done : Nat} {name : String} {f : LocalFile} (keeps : (s.calls i).Keeps bucket reportPrefix)
    (stage : (s.calls i).stage = .uploading stamp done) (next : (uploads stamp)[done]? = some name)
    (mem : f ∈ (s.calls i).directory) (named : f.name = name) :
    Stored reportPrefix
      { objects := Function.update s.objects (s3Key reportPrefix name) (some f.content)
        calls := Function.update s.calls i ((s.calls i).moveTo (.uploading stamp (done + 1))) } := by
  intro k stamp' hk
  dsimp only at hk ⊢
  by_cases here : s3Key reportPrefix (jsonName stamp') = s3Key reportPrefix name
  · have same := s3Key_injective reportPrefix here
    obtain ⟨-, text⟩ := uploads_json next same.symm
    refine ⟨i, stamp, by rw [Function.update_self]; rfl, text, ?_⟩
    have own := keeps.file stamp (by rw [stage]; rfl) f mem
      (named.trans (same.symm.trans (jsonName_inj.mpr text.symm)))
    rw [here, Function.update_self, own, Function.update_self]
    rfl
  · have after : ∀ j u, (s.calls j).stage.uploaded = some u → (Function.update s.calls i
        ((s.calls i).moveTo (.uploading stamp (done + 1))) j).stage.uploaded = some u := by
      intro j u hj
      by_cases same : j = i
      · subst same
        rw [stage] at hj
        rw [Function.update_self]
        cases done with
        | zero => cases hj
        | succ n => exact hj
      · rwa [Function.update_of_ne same]
    have before : (s.calls k).stage.uploaded = some stamp' := by
      by_cases same : k = i
      · subst same
        rw [Function.update_self] at hk
        obtain rfl : stamp = stamp' := Option.some.inj hk
        cases done with
        | zero => exact absurd (congrArg (s3Key reportPrefix) (Option.some.inj next)) here
        | succ n =>
          rw [stage]
          rfl
      · rwa [Function.update_of_ne same] at hk
    obtain ⟨j, u, hj, text, object⟩ := h k stamp' before
    refine ⟨j, u, after j u hj, text, ?_⟩
    have moved : ((s.calls i).moveTo (.uploading stamp (done + 1))).report = (s.calls i).report := rfl
    rw [Function.update_of_ne here, object, update_report moved]

theorem step_storeInvariant {s t : ReportStore ι} {i : ι}
    (h : ReportStore.Step print bucket reportPrefix s i t) (inv : StoreInvariant bucket reportPrefix s) :
    StoreInvariant bucket reportPrefix t := by
  obtain ⟨keeps, stored⟩ := inv
  cases h with
  | write now directory stage wrote =>
    refine ⟨keeps_update keeps
      ⟨fun stamp hs f hf name => ?_, fun stamp ref hs => ?_⟩,
      stored.congr rfl (by rw [stage]; rfl)⟩
    · obtain rfl : now = stamp := Option.some.inj hs
      rw [writeReports_ok wrote] at hf
      exact withReport_json hf name
    · cases hs
  | retain now stamp stage configured =>
    refine ⟨keeps_update keeps
      ⟨fun stamp' hs f hf name => ?_, fun stamp ref hs => ?_⟩,
      stored.congr rfl (by rw [stage]; rfl)⟩
    · exact (keeps i).file stamp' (by rw [stage]; exact hs) f (List.mem_filter.mp hf).1 name
    · cases hs
  | upload stamp done name f stage next found =>
    have mem := List.mem_of_find?_eq_some found
    have named : f.name = name := by simpa using List.find?_some found
    refine ⟨keeps_update keeps
      ⟨fun stamp' hs => ?_, fun stamp ref hs => ?_⟩,
      stored.upload (keeps i) stage next mem named⟩
    · exact (keeps i).file stamp' (by rw [stage]; exact hs)
    · cases hs
  | finish stamp stage =>
    refine ⟨keeps_update keeps
      ⟨fun stamp' hs => ?_, fun stamp' ref hs => ?_⟩,
      stored.congr rfl (by rw [stage]; rfl)⟩
    · exact (keeps i).file stamp' (by rw [stage]; exact hs)
    · cases hs
      rfl

theorem run_storeInvariant {history : List ι} {s : ReportStore ι}
    (run : Run ReportStore.Starting (ReportStore.Step print bucket reportPrefix) history s) :
    StoreInvariant bucket reportPrefix s := by
  refine run.invariant (I := fun _ => StoreInvariant bucket reportPrefix) (fun s start => ?_)
    fun _ _ _ _ _ inv h => step_storeInvariant h inv
  refine ⟨fun i => ⟨fun stamp hs => ?_, fun stamp ref hs => ?_⟩, fun i stamp hs => ?_⟩
  all_goals
    rw [start i] at hs
    cases hs

theorem s3Ref_injective (bucket : String) : Function.Injective (s3Ref bucket) :=
  fun _ _ h => (String.append_right_inj _).mp h

omit [DecidableEq ι] in
/-- A returned reference points at what is stored under the call's stamp. -/
theorem pointsAtOwn_iff {s : ReportStore ι} {i : ι} {stamp : Instant} {ref : String}
    (keeps : (s.calls i).Keeps bucket reportPrefix)
    (returned : (s.calls i).stage = .returned stamp ref) :
    s.PointsAtOwn bucket i ↔
      s.objects (s3Key reportPrefix (jsonName stamp)) = some (.json (s.calls i).report.toDict) := by
  have own := keeps.ref stamp ref returned
  constructor
  · intro points
    obtain ⟨key, same, object⟩ := points stamp ref returned
    rwa [← s3Ref_injective bucket (same.symm.trans own)]
  · intro object stamp' ref' returned'
    rw [returned] at returned'
    cases returned'
    exact ⟨_, own, object⟩

/-- After all calls have returned, each reference points at its own report exactly
if calls with the same second stamp were given the same report. -/
theorem report_refs_own_iff {history : List ι} {s : ReportStore ι}
    (run : Run ReportStore.Starting (ReportStore.Step print bucket reportPrefix) history s)
    (done : ∀ i, ∃ stamp ref, (s.calls i).stage = .returned stamp ref) :
    (∀ i, s.PointsAtOwn bucket i) ↔ ∀ i j stamp stamp', (s.calls i).stage.stamp = some stamp →
      (s.calls j).stage.stamp = some stamp' → stampText stamp = stampText stamp' →
      (s.calls i).report.toDict = (s.calls j).report.toDict := by
  obtain ⟨keeps, stored⟩ := run_storeInvariant run
  constructor
  · intro points i j stamp stamp' hi hj text
    obtain ⟨ti, ri, returned_i⟩ := done i
    obtain ⟨tj, rj, returned_j⟩ := done j
    rw [returned_i] at hi
    rw [returned_j] at hj
    cases hi
    cases hj
    have object_i := (pointsAtOwn_iff (keeps i) returned_i).mp (points i)
    have object_j := (pointsAtOwn_iff (keeps j) returned_j).mp (points j)
    rw [jsonName_inj.mpr text, object_j] at object_i
    exact (Artifact.json.inj (Option.some.inj object_i)).symm
  · intro same i
    obtain ⟨stamp, ref, returned⟩ := done i
    rw [pointsAtOwn_iff (keeps i) returned]
    obtain ⟨j, stamp', uploaded, text, object⟩ := stored i stamp (by rw [returned]; rfl)
    have stamped : (s.calls j).stage.stamp = some stamp' := by
      obtain ⟨tj, rj, returned_j⟩ := done j
      rw [returned_j] at uploaded ⊢
      exact uploaded
    rw [object, same i j stamp stamp' (by rw [returned]; rfl) stamped text.symm]

/-- A call that nothing interrupts, in an empty directory without retention limits. -/
theorem uninterrupted_call {history : List ι} {s : ReportStore ι}
    (run : Run ReportStore.Starting (ReportStore.Step print bucket reportPrefix) history s)
    (configured : bucket ≠ "") {i : ι} {report : DriftReport}
    (rendered : Returns (renderReports print report))
    (fresh : s.calls i = ⟨report, 0, 0, [], .started⟩) (now : Instant) :
    ∃ history' t, Run ReportStore.Starting (ReportStore.Step print bucket reportPrefix) history' t ∧
      (∀ k, k ≠ i → t.calls k = s.calls k) ∧ (t.calls i).report = report ∧
      (t.calls i).stage = .returned now (s3Ref bucket (s3Key reportPrefix (jsonName now))) ∧
      t.objects (s3Key reportPrefix (jsonName now)) = some (.json report.toDict) := by
  have files : ∀ name ∈ uploads now, ∃ f, (applyLocalRetention 0 0 now
      (withReport [] report now)).find? (fun f => f.name = name) = some f := by
    intro name hname
    rw [applyLocalRetention_unlimited]
    obtain ⟨f, hf, named⟩ := withReport_has [] report now hname
    exact Option.isSome_iff_exists.mp (List.find?_isSome.mpr ⟨f, hf, decide_eq_true named⟩)
  obtain ⟨json, hjson⟩ := files (jsonName now) (by simp [uploads])
  obtain ⟨markdown, hmarkdown⟩ := files (markdownName now) (by simp [uploads])
  obtain ⟨compact, hcompact⟩ := files (compactName now) (by simp [uploads])
  obtain ⟨latest, hlatest⟩ := files latestName (by simp [uploads])
  have own : json.content = .json report.toDict := by
    have mem := List.mem_of_find?_eq_some hjson
    rw [applyLocalRetention_unlimited] at mem
    exact withReport_json mem (by simpa using List.find?_some hjson)
  have written := run.next (.write s i now (withReport [] report now) (by rw [fresh])
    (by rw [fresh]; exact writeReports_rendered rendered))
  have retained := written.next (.retain _ i now now (by simp) configured)
  have first := retained.next (.upload _ i now 0 (jsonName now) json (by simp) rfl
    (by simpa [fresh] using hjson))
  have second := first.next (.upload _ i now 1 (markdownName now) markdown (by simp [ReportCall.moveTo])
    rfl (by simpa [fresh, ReportCall.moveTo] using hmarkdown))
  have third := second.next (.upload _ i now 2 (compactName now) compact (by simp [ReportCall.moveTo])
    rfl (by simpa [fresh, ReportCall.moveTo] using hcompact))
  have fourth := third.next (.upload _ i now 3 latestName latest (by simp [ReportCall.moveTo])
    rfl (by simpa [fresh, ReportCall.moveTo] using hlatest))
  have finished := fourth.next (.finish _ i now (by simp [ReportCall.moveTo, uploads]))
  refine ⟨_, _, finished, fun k hk => by simp [hk], by simp [ReportCall.moveTo, fresh],
    by simp [ReportCall.moveTo], ?_⟩
  have apart : ∀ name, name ≠ jsonName now →
      s3Key reportPrefix (jsonName now) ≠ s3Key reportPrefix name :=
    fun name other same => other (s3Key_injective reportPrefix same).symm
  dsimp only
  rw [Function.update_of_ne (apart _ (jsonName_ne_latest now)),
    Function.update_of_ne (apart _ (jsonName_ne_compact now now)),
    Function.update_of_ne (apart _ (jsonName_ne_markdown now now)), Function.update_self, own]

end Store

/-! ## Two workers -/

def ordersReport (invariant : String) : DriftReport := { invariant, checkedRecords := 0 }

theorem ordersReport_rendered (invariant : String) :
    Returns (renderReports plainPrinting (ordersReport invariant)) := ⟨_, rfl⟩

/-- A paid-orders checker and a cache checker of the same namespace. -/
def twoWorkers : ReportStore Bool where
  objects := fun _ => none
  calls i := ⟨ordersReport (if i then "orders" else "cache"), 0, 0, [], .started⟩

theorem twoWorkers_run (first second : Instant) : ∃ history s,
    Run ReportStore.Starting (ReportStore.Step plainPrinting "reports" "kubedataguard/reports")
        history s ∧
      (s.calls false).report = ordersReport "cache" ∧ (s.calls true).report = ordersReport "orders" ∧
      (s.calls false).stage = .returned first
        (s3Ref "reports" (s3Key "kubedataguard/reports" (jsonName first))) ∧
      (s.calls true).stage = .returned second
        (s3Ref "reports" (s3Key "kubedataguard/reports" (jsonName second))) ∧
      s.objects (s3Key "kubedataguard/reports" (jsonName second)) =
        some (.json (ordersReport "orders").toDict) := by
  have start : Run ReportStore.Starting
      (ReportStore.Step plainPrinting "reports" "kubedataguard/reports") [] twoWorkers :=
    .start fun i => rfl
  obtain ⟨_, s, run, others, report, stage, -⟩ :=
    uninterrupted_call start (by decide) (i := false) (ordersReport_rendered "cache") rfl first
  obtain ⟨history, t, run', others', report', stage', object⟩ :=
    uninterrupted_call run (by decide) (i := true) (ordersReport_rendered "orders")
      (show s.calls true = ⟨ordersReport "orders", 0, 0, [], .started⟩ from others true (by decide))
      second
  refine ⟨history, t, run', ?_, report', ?_, stage', object⟩
  · rw [others' false (by decide), report]
  · rw [others' false (by decide), stage]

/-- The second of two checkers in one second overwrites the evidence of the first. -/
theorem same_second_evidence_lost : ∃ history s,
    Run ReportStore.Starting (ReportStore.Step plainPrinting "reports" "kubedataguard/reports")
        history s ∧
      (∀ i : Bool, ∃ stamp ref, (s.calls i).stage = .returned stamp ref) ∧
      ¬∀ i, s.PointsAtOwn "reports" i := by
  obtain ⟨history, s, run, first, -, stage, stage', object⟩ := twoWorkers_run 0 0
  refine ⟨history, s, run, fun i => ?_, fun points => ?_⟩
  · cases i
    · exact ⟨_, _, stage⟩
    · exact ⟨_, _, stage'⟩
  · obtain ⟨key, same, own⟩ := points false _ _ stage
    rw [← s3Ref_injective "reports" same, object, first] at own
    simp [DriftReport.toDict, ordersReport] at own

theorem report_refs_own_iff_next_second : ∃ history s,
    Run ReportStore.Starting (ReportStore.Step plainPrinting "reports" "kubedataguard/reports")
        history s ∧
      ∀ i : Bool, s.PointsAtOwn "reports" i := by
  obtain ⟨history, s, run, -, -, stage, stage', -⟩ := twoWorkers_run 0 (seconds 1)
  have done : ∀ i, ∃ stamp ref, (s.calls i).stage = .returned stamp ref := by
    intro i
    cases i
    · exact ⟨_, _, stage⟩
    · exact ⟨_, _, stage'⟩
  have apart : ∀ stamp stamp', (s.calls false).stage.stamp = some stamp →
      (s.calls true).stage.stamp = some stamp' → stampText stamp ≠ stampText stamp' := by
    intro stamp stamp' h h'
    rw [stage] at h
    rw [stage'] at h'
    cases h
    cases h'
    decide +kernel
  refine ⟨history, s, run, (report_refs_own_iff run done).mpr ?_⟩
  intro i j stamp stamp' hi hj text
  cases i <;> cases j
  · rfl
  · exact absurd text (apart stamp stamp' hi hj)
  · exact absurd text.symm (apart stamp' stamp hj hi)
  · rfl

end KubeDataGuard
