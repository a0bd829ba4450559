import KubeDataGuard.General.MergePatch
import KubeDataGuard.General.Runs
import KubeDataGuard.Worker.Job

/-!
# Publishing a report

`publish_report_configmap` asks whether the ConfigMap is there and then patches
or creates it: two requests, between which others publish under the same name or
delete it. A request may be served after its sender gave up on it.
-/

namespace KubeDataGuard

namespace Publishing

open MergePatch Runs

/-! ## Requests -/

/-- A leaf of a ConfigMap: a text, or the text of a data entry. -/
inductive Leaf
  | text (s : String)
  | entry (payload : Payload)

abbrev Document := Tree String Leaf

def object (members : List (String × Document)) : Document := .node fun key => members.lookup key

def text (s : String) : Document := .leaf (.text s)

def entry (value : Json) : Document := .leaf (.entry (.json value))

/-- The arguments of `publish_report_configmap`. -/
structure Publication where
  ns : String
  name : String
  report : Fields
  status : Fields

namespace Publication

variable (p : Publication)

def metadata : Document :=
  object [("name", text p.name), ("namespace", text p.ns),
    ("labels", object [("app.kubernetes.io/name", text "kubedataguard"),
      ("dataguard.io/report", text "true")])]

def data : Document :=
  object [("repair-input.json", entry (repairInput p.report)), ("status.json", entry (.obj p.status))]

def payload : Document :=
  object [("apiVersion", text "v1"), ("kind", text "ConfigMap"), ("metadata", p.metadata),
    ("data", p.data)]

def patchPayload : Document := object [("metadata", p.metadata), ("data", p.data)]

end Publication

inductive Method
  | post
  | patch
  deriving DecidableEq, Repr

inductive Answer
  | accepted
  | refused (code : Nat)
  deriving DecidableEq, Repr

/-- What the API server makes of a request: it creates what is not there, and
merges into what is. A request it refuses for any other reason is one that is never
served, and its sender fails. -/
def serve (p : Publication) : Method → Option Document → Option Document × Answer
  | .post, none => (some p.payload, .accepted)
  | .post, some document => (some document, .refused 409)
  | .patch, none => (none, .refused 404)
  | .patch, some document => (some (merge document p.patchPayload), .accepted)

/-- What `configmap_exists` leads to. -/
def methodFor : Option Document → Method
  | some _ => .patch
  | none => .post

/-! ## The system -/

/-- Where a call is: before the answer of `configmap_exists`, in `request_json`, or over. -/
inductive Stage
  | asking
  | waiting (answer : Option Answer)
  | returned
  | raised
  deriving DecidableEq, Repr

/-- The ConfigMap of one name, the calls and the requests that were not served yet. -/
structure State (ι : Type*) where
  stored : Option Document
  stage : ι → Stage
  sent : ι → Option Method

inductive Event (ι : Type*)
  | ask (i : ι) (method : Method)
  | serve (i : ι) (answer : Answer)
  | reply (i : ι)
  | fail (i : ι)
  | edit
  | delete

variable {ι : Type*} [DecidableEq ι]

namespace State

variable (s : State ι) (i : ι)

def toStage (stage : Stage) : State ι := { s with stage := Function.update s.stage i stage }

/-- Only a call that still waits gets the answer. -/
def answered (answer : Answer) : State ι :=
  if s.stage i = .waiting none then s.toStage i (.waiting (some answer)) else s

def ask (method : Method) : State ι :=
  { s.toStage i (.waiting none) with sent := Function.update s.sent i (some method) }

def served (outcome : Option Document × Answer) : State ι :=
  { s.answered i outcome.2 with
    stored := outcome.1
    sent := Function.update s.sent i none }

end State

/-- `urlopen` raises for an answer that is not a success. -/
def Answer.stage : Answer → Stage
  | .accepted => .returned
  | .refused _ => .raised

inductive Step (publication : ι → Publication) : State ι → Event ι → State ι → Prop
  | ask (s : State ι) (i : ι) (asking : s.stage i = .asking) :
      Step publication s (.ask i (methodFor s.stored)) (s.ask i (methodFor s.stored))
  | serve (s : State ι) (i : ι) (method : Method) (sent : s.sent i = some method) :
      Step publication s (.serve i (serve (publication i) method s.stored).2)
        (s.served i (serve (publication i) method s.stored))
  | reply (s : State ι) (i : ι) (answer : Answer) (waiting : s.stage i = .waiting (some answer)) :
      Step publication s (.reply i) (s.toStage i answer.stage)
  -- the payload cannot be printed, `configmap_exists` raises, the answer does not come, or it is
  -- a refusal other than 404 and 409
  | fail (s : State ι) (i : ι) (going : s.stage i = .asking ∨ ∃ answer, s.stage i = .waiting answer) :
      Step publication s (.fail i) (s.toStage i .raised)
  | edit (s : State ι) (document document' : Document) (stored : s.stored = some document)
      (kept : ∀ key, document'.read ["data", key] = document.read ["data", key]) :
      Step publication s .edit { s with stored := some document' }
  | delete (s : State ι) : Step publication s .delete { s with stored := none }

/-- A free name and calls that have not asked yet. -/
structure Start (s : State ι) : Prop where
  stored : s.stored = none
  stage : ∀ i, s.stage i = .asking
  sent : ∀ i, s.sent i = none

/-! ## What is stored -/

/-- What the model has of a stored ConfigMap. -/
def dataEntry (document : Document) (key : String) : Payload :=
  match document.read ["data", key] with
  | some (.entry payload) => payload
  | _ => .empty

def configMapOf (document : Document) : ConfigMap where
  statusJson := dataEntry document "status.json"
  repairInput := dataEntry document "repair-input.json"
  reportJson := dataEntry document "report.json"

/-- The last publication that was served, unless it was deleted since. -/
def latest : List (Event ι) → Option ι
  | [] => none
  | .serve i .accepted :: _ => some i
  | .delete :: _ => none
  | _ :: history => latest history

section Documents

theorem nullFree_object {members : List (String × Document)}
    (filled : ∀ member ∈ members, member.2.NullFree) : (object members).NullFree := by
  refine .node _ fun key t found => ?_
  obtain ⟨before, after, rfl, -⟩ := List.lookup_eq_some_iff.mp found
  exact filled (key, t) (by simp)

theorem nullFree_patchPayload (p : Publication) : p.patchPayload.NullFree := by
  have leaf : ∀ s, (text s).NullFree := fun s => Tree.NullFree.leaf (Leaf.text s)
  have entry : ∀ value, (entry value).NullFree :=
    fun value => Tree.NullFree.leaf (Leaf.entry (.json value))
  have labels : (object [("app.kubernetes.io/name", text "kubedataguard"),
      ("dataguard.io/report", text "true")]).NullFree :=
    nullFree_object (List.forall_mem_cons.mpr ⟨leaf _, List.forall_mem_singleton.mpr (leaf _)⟩)
  have metadata : p.metadata.NullFree := nullFree_object (List.forall_mem_cons.mpr ⟨leaf p.name,
    List.forall_mem_cons.mpr ⟨leaf p.ns, List.forall_mem_singleton.mpr labels⟩⟩)
  have data : p.data.NullFree := nullFree_object (List.forall_mem_cons.mpr ⟨entry _,
    List.forall_mem_singleton.mpr (entry _)⟩)
  exact nullFree_object (List.forall_mem_cons.mpr ⟨metadata, List.forall_mem_singleton.mpr data⟩)

theorem dataEntry_congr {document document' : Document} {key : String}
    (same : document'.read ["data", key] = document.read ["data", key]) :
    dataEntry document' key = dataEntry document key := by
  unfold dataEntry
  rw [same]

/-- A created ConfigMap holds what was published. -/
theorem configMapOf_payload (p : Publication) :
    configMapOf p.payload = reportConfigMap p.report p.status := rfl

/-- So does a patched one that held nothing else. -/
theorem configMapOf_patched (p : Publication) {document : Document}
    (plain : (configMapOf document).reportJson = .empty) :
    configMapOf (merge document p.patchPayload) = reportConfigMap p.report p.status := by
  have filled := nullFree_patchPayload p
  have published : ∀ {key : String} {payload : Payload},
      p.patchPayload.read ["data", key] = some (.entry payload) →
        dataEntry (merge document p.patchPayload) key = payload := by
    intro key payload written
    unfold dataEntry
    rcases read_merge filled document ["data", key] with wanted | ⟨silent, -⟩
    · rw [wanted, written]
    · rw [written] at silent
      cases silent
  have kept : dataEntry (merge document p.patchPayload) "report.json" = .empty := by
    rcases read_merge filled document ["data", "report.json"] with wanted | ⟨-, kept⟩
    · unfold dataEntry
      rw [wanted]
      rfl
    · exact (dataEntry_congr kept).trans plain
  have status : dataEntry (merge document p.patchPayload) "status.json" = .json (.obj p.status) :=
    published (by rfl)
  have input : dataEntry (merge document p.patchPayload) "repair-input.json" =
      .json (repairInput p.report) := published (by rfl)
  unfold configMapOf
  rw [kept, status, input]
  rfl

end Documents

/-- Two calls for one name, of which one says healthy. -/
def racingCalls (healthy : Bool) : Publication :=
  ⟨"default", "orders", [], [("healthy", .bool healthy)]⟩

/-- Both find no ConfigMap and create it. -/
def race : List (Event Bool) :=
  [.reply false, .serve false (.refused 409), .serve true .accepted, .ask false .post, .ask true .post]

theorem race_run : ∃ s, Run Start (Step racingCalls) race s := by
  have idle : Start (⟨none, fun _ => .asking, fun _ => none⟩ : State Bool) :=
    ⟨rfl, fun _ => rfl, fun _ => rfl⟩
  have run : Run Start (Step racingCalls) [] _ := .start idle
  have asked := (run.next (.ask _ true rfl)).next
    (.ask _ false rfl)
  have served := (asked.next (.serve _ true .post rfl)).next (.serve _ false .post rfl)
  exact ⟨_, served.next (.reply _ false (.refused 409) rfl)⟩

section Stored

variable {publication : ι → Publication} {history : List (Event ι)} {s t : State ι} {e : Event ι}

/-- What is stored is the latest publication, as a whole. -/
def Whole (publication : ι → Publication) (history : List (Event ι)) (s : State ι) : Prop :=
  s.stored.map configMapOf =
    (latest history).map fun i => reportConfigMap (publication i).report (publication i).status

omit [DecidableEq ι] in
theorem Whole.plain (whole : Whole publication history s) {document : Document}
    (stored : s.stored = some document) : (configMapOf document).reportJson = .empty := by
  unfold Whole at whole
  rw [stored, Option.map_some] at whole
  obtain ⟨i, -, same⟩ := Option.map_eq_some_iff.mp whole.symm
  rw [← same]
  rfl

/-- A request that is served stores its publication or changes nothing. -/
theorem served_whole (whole : Whole publication history s) (i : ι) (method : Method) :
    Whole publication (.serve i (serve (publication i) method s.stored).2 :: history)
      (s.served i (serve (publication i) method s.stored)) := by
  have plain : ∀ {document}, s.stored = some document →
      (configMapOf document).reportJson = .empty := whole.plain
  unfold Whole at whole ⊢
  unfold State.served
  cases stored : s.stored with
  | none =>
    rw [stored] at whole
    cases method with
    | post => exact congrArg some (configMapOf_payload (publication i))
    | patch => exact whole
  | some document =>
    rw [stored] at whole
    cases method with
    | post => exact whole
    | patch => exact congrArg some (configMapOf_patched (publication i) (plain stored))

theorem step_whole (whole : Whole publication history s) (step : Step publication s e t) :
    Whole publication (e :: history) t := by
  cases step with
  | ask i asking => exact whole
  | serve i method sent => exact served_whole whole i method
  | reply i answer waiting => exact whole
  | fail i going => exact whole
  | edit document document' stored kept =>
    have same : configMapOf document' = configMapOf document := by
      unfold configMapOf
      rw [dataEntry_congr (kept _), dataEntry_congr (kept _), dataEntry_congr (kept _)]
    unfold Whole at whole ⊢
    rw [stored, Option.map_some] at whole
    rw [Option.map_some, same]
    exact whole
  | delete => rfl

/-- However publications of one name interleave, and whatever is deleted or
edited in between, the ConfigMap that is stored is the latest publication whole,
never parts of two. -/
theorem stored_whole (run : Run Start (Step publication) history s) :
    s.stored.map configMapOf =
      (latest history).map fun i => reportConfigMap (publication i).report (publication i).status := by
  refine run.invariant (I := Whole publication) ?_ ?_
  · intro s start
    unfold Whole
    rw [start.stored]
    rfl
  · exact fun history s e t _ whole step => step_whole whole step

end Stored

theorem stored_whole_race : ∃ s, Run Start (Step racingCalls) race s ∧
    s.stored.map configMapOf = some (reportConfigMap [] [("healthy", .bool true)]) := by
  obtain ⟨s, run⟩ := race_run
  exact ⟨s, run, stored_whole run⟩

/-! ## What becomes of a call -/

/-- The answers with which the requests of a call were served. -/
def answers (i : ι) (history : List (Event ι)) : List Answer :=
  history.filterMap fun
    | .serve j answer => if j = i then some answer else none
    | _ => none

/-- A call that returned was accepted once, and no call is served twice. -/
structure Accounted (i : ι) (history : List (Event ι)) (s : State ι) : Prop where
  pending : s.sent i ≠ none → answers i history = []
  asking : s.stage i = .asking → s.sent i = none ∧ answers i history = []
  answered : ∀ answer, s.stage i = .waiting (some answer) →
    s.sent i = none ∧ answers i history = [answer]
  returned : s.stage i = .returned → s.sent i = none ∧ answers i history = [.accepted]
  once : (answers i history).length ≤ 1

/-- Since a request was sent, either the ConfigMap is as `configmap_exists` told or
somebody else changed that. -/
def Raced (i : ι) (history : List (Event ι)) (s : State ι) : Prop :=
  ∀ method, s.sent i = some method → ∃ between before,
    history = between ++ .ask i method :: before ∧
    (methodFor s.stored = method ∨ method = .post ∧ (∃ j, .serve j .accepted ∈ between) ∨
      method = .patch ∧ .delete ∈ between)

section Calls

variable {publication : ι → Publication} {history : List (Event ι)} {s t : State ι} {e : Event ι}
  {i : ι}

theorem answers_serve (answer : Answer) :
    answers i (.serve i answer :: history) = answer :: answers i history := by
  unfold answers
  exact List.filterMap_cons_some (if_pos rfl)

theorem answers_other (history : List (Event ι)) (other : ∀ answer, e ≠ .serve i answer) :
    answers i (e :: history) = answers i history := by
  unfold answers
  refine List.filterMap_cons_none ?_
  cases e with
  | serve j answer => exact if_neg fun same => other answer (by rw [same])
  | _ => rfl

/-- A step of another call, or of none, leaves a call as it was. -/
theorem Accounted.frame (accounted : Accounted i history s) (other : ∀ answer, e ≠ .serve i answer)
    (stage : t.stage i = s.stage i) (sent : t.sent i = s.sent i) :
    Accounted i (e :: history) t := by
  have same := answers_other history other
  refine ⟨?_, ?_, ?_, ?_, ?_⟩
  · rw [sent, same]
    exact accounted.pending
  · rw [stage, sent, same]
    exact accounted.asking
  · rw [stage, sent, same]
    exact accounted.answered
  · rw [stage, sent, same]
    exact accounted.returned
  · rw [same]
    exact accounted.once

theorem served_sent (s : State ι) (j : ι) (outcome : Option Document × Answer) :
    (s.served j outcome).sent = Function.update s.sent j none := rfl

theorem served_stage (s : State ι) (j : ι) (outcome : Option Document × Answer) :
    (s.served j outcome).stage =
      if s.stage j = .waiting none then Function.update s.stage j (.waiting (some outcome.2))
      else s.stage := by
  unfold State.served State.answered State.toStage
  split <;> rfl

theorem served_accounted (accounted : Accounted i history s) (outcome : Option Document × Answer)
    (sent : s.sent i ≠ none) :
    Accounted i (.serve i outcome.2 :: history) (s.served i outcome) := by
  have unanswered := accounted.pending sent
  have one : answers i (.serve i outcome.2 :: history) = [outcome.2] := by
    rw [answers_serve, unanswered]
  have cleared : (s.served i outcome).sent i = none := by
    rw [served_sent, Function.update_self]
  refine ⟨fun again => absurd cleared again, ?_, ?_, ?_, by rw [one]; exact le_refl 1⟩
  all_goals rw [served_stage, one]
  · intro asking
    split at asking
    · rw [Function.update_self] at asking
      cases asking
    · exact absurd (accounted.asking asking).1 sent
  · intro answer waiting
    split at waiting
    · rw [Function.update_self] at waiting
      cases waiting
      exact ⟨cleared, rfl⟩
    · exact absurd (accounted.answered answer waiting).1 sent
  · intro returned
    split at returned
    · rw [Function.update_self] at returned
      cases returned
    · exact absurd (accounted.returned returned).1 sent

theorem step_accounted (accounted : Accounted i history s) (step : Step publication s e t) :
    Accounted i (e :: history) t := by
  cases step with
  | ask j asking =>
    by_cases own : j = i
    · subst own
      have before := accounted.asking asking
      have same := answers_other (i := j) (e := .ask j (methodFor s.stored)) history nofun
      have waiting : (s.ask j (methodFor s.stored)).stage j = .waiting none := Function.update_self _ _ _
      refine ⟨fun _ => same.trans before.2, ?_, ?_, ?_, same ▸ accounted.once⟩ <;> rw [waiting] <;> nofun
    · exact accounted.frame nofun (Function.update_of_ne (Ne.symm own) _ _)
        (Function.update_of_ne (Ne.symm own) _ _)
  | serve j method sent =>
    by_cases own : j = i
    · subst own
      exact served_accounted accounted _ (by rw [sent]; exact Option.some_ne_none method)
    · refine accounted.frame (fun _ same => own (Event.serve.inj same).1) ?_ ?_
      · rw [served_stage]
        split
        · exact Function.update_of_ne (Ne.symm own) _ _
        · rfl
      · exact Function.update_of_ne (Ne.symm own) _ _
  | reply j answer waiting =>
    by_cases own : j = i
    · subst own
      have before := accounted.answered answer waiting
      have same := answers_other (i := j) (e := .reply j) history nofun
      have moved : (s.toStage j answer.stage).stage j = answer.stage := Function.update_self _ _ _
      refine ⟨fun sent => absurd before.1 sent, ?_, ?_, ?_, same ▸ accounted.once⟩
      · rw [moved]
        cases answer <;> nofun
      · rw [moved]
        cases answer <;> nofun
      · rw [moved, same]
        cases answer with
        | accepted => exact fun _ => before
        | refused code => nofun
    · exact accounted.frame nofun (Function.update_of_ne (Ne.symm own) _ _) rfl
  | fail j going =>
    by_cases own : j = i
    · subst own
      have same := answers_other (i := j) (e := .fail j) history nofun
      have moved : (s.toStage j .raised).stage j = .raised := Function.update_self _ _ _
      refine ⟨?_, ?_, ?_, ?_, same ▸ accounted.once⟩
      · rw [same]
        exact accounted.pending
      all_goals rw [moved]; nofun
    · exact accounted.frame nofun (Function.update_of_ne (Ne.symm own) _ _) rfl
  | edit => exact accounted.frame nofun rfl rfl
  | delete => exact accounted.frame nofun rfl rfl

/-- Only an accepted request and a deletion change whether the ConfigMap is there. -/
theorem step_stored (step : Step publication s e t) :
    methodFor t.stored = methodFor s.stored ∨
      methodFor s.stored = .post ∧ (∃ j, e = .serve j .accepted) ∨
      methodFor s.stored = .patch ∧ e = .delete := by
  cases step with
  | serve j method sent =>
    unfold State.served
    cases s.stored with
    | none =>
      cases method with
      | post => exact Or.inr (Or.inl ⟨rfl, j, rfl⟩)
      | patch => exact Or.inl rfl
    | some document => cases method <;> exact Or.inl rfl
  | edit document document' stored kept =>
    rw [stored]
    exact Or.inl rfl
  | delete =>
    cases stored : s.stored with
    | none => exact Or.inl rfl
    | some document => exact Or.inr (Or.inr ⟨rfl, rfl⟩)
  | _ => exact Or.inl rfl

theorem step_sent (step : Step publication s e t) (i : ι) :
    t.sent i = s.sent i ∨ t.sent i = none ∨
      e = .ask i (methodFor s.stored) ∧ t.sent i = some (methodFor s.stored) ∧ t.stored = s.stored := by
  cases step with
  | ask j asking =>
    by_cases own : j = i
    · subst own
      exact Or.inr (Or.inr ⟨rfl, Function.update_self _ _ _, rfl⟩)
    · exact Or.inl (Function.update_of_ne (Ne.symm own) _ _)
  | serve j method sent =>
    by_cases own : j = i
    · subst own
      exact Or.inr (Or.inl (Function.update_self _ _ _))
    · exact Or.inl (Function.update_of_ne (Ne.symm own) _ _)
  | _ => exact Or.inl rfl

theorem step_raced (raced : Raced i history s) (step : Step publication s e t) :
    Raced i (e :: history) t := by
  intro method sent
  obtain same | none | ⟨rfl, asked, stored⟩ := step_sent step i
  · obtain ⟨between, before, rfl, cases⟩ := raced method (same ▸ sent)
    refine ⟨e :: between, before, rfl, ?_⟩
    obtain told | ⟨post, j, accepted⟩ | ⟨patch, deleted⟩ := cases
    · obtain kept | ⟨post, j, rfl⟩ | ⟨patch, rfl⟩ := step_stored step
      · exact Or.inl (kept.trans told)
      · exact Or.inr (Or.inl ⟨told.symm.trans post, j, List.mem_cons_self⟩)
      · exact Or.inr (Or.inr ⟨told.symm.trans patch, List.mem_cons_self⟩)
    · exact Or.inr (Or.inl ⟨post, j, List.mem_cons_of_mem e accepted⟩)
    · exact Or.inr (Or.inr ⟨patch, List.mem_cons_of_mem e deleted⟩)
  · rw [none] at sent
    cases sent
  · rw [asked] at sent
    obtain rfl := Option.some.inj sent
    exact ⟨[], history, rfl, Or.inl (by rw [stored])⟩

theorem mem_answers {answer : Answer} :
    answer ∈ answers i history ↔ .serve i answer ∈ history := by
  unfold answers
  rw [List.mem_filterMap]
  constructor
  · rintro ⟨e, mem, told⟩
    cases e with
    | serve j answer' =>
      obtain ⟨rfl, same⟩ := Option.ite_none_right_eq_some.mp told
      rwa [Option.some.inj same] at mem
    | _ => cases told
  · exact fun mem => ⟨_, mem, if_pos rfl⟩

/-- The refusal of a call: between its two requests another publication was
accepted, or the ConfigMap was deleted. -/
def Conflict (i : ι) (code : Nat) (history : List (Event ι)) : Prop :=
  ∃ after between before method,
    history = after ++ .serve i (.refused code) :: (between ++ .ask i method :: before) ∧
    (method = .post ∧ code = 409 ∧ (∃ j, j ≠ i ∧ .serve j .accepted ∈ between) ∨
      method = .patch ∧ code = 404 ∧ .delete ∈ between)

omit [DecidableEq ι] in
theorem Conflict.later {code : Nat} (conflict : Conflict i code history) (e : Event ι) :
    Conflict i code (e :: history) := by
  obtain ⟨after, between, before, method, rfl, cases⟩ := conflict
  exact ⟨e :: after, between, before, method, rfl, cases⟩

theorem refused_conflict (accounted : Accounted i history s) (raced : Raced i history s)
    {method : Method} {code : Nat} (sent : s.sent i = some method)
    (refused : (serve (publication i) method s.stored).2 = .refused code) :
    Conflict i code (.serve i (.refused code) :: history) := by
  obtain ⟨between, before, rfl, cases⟩ := raced method sent
  have unanswered := accounted.pending (by rw [sent]; exact Option.some_ne_none method)
  have others : ∀ j, .serve j .accepted ∈ between → j ≠ i := by
    rintro j mem rfl
    have own : .serve j .accepted ∈ between ++ .ask j method :: before := List.mem_append_left _ mem
    rw [← mem_answers, unanswered] at own
    cases own
  refine ⟨[], between, before, method, rfl, ?_⟩
  cases method with
  | post =>
    cases stored : s.stored with
    | none =>
      rw [stored] at refused
      cases refused
    | some document =>
      rw [stored] at refused cases
      obtain told | ⟨-, j, accepted⟩ | ⟨patch, -⟩ := cases
      · cases told
      · exact Or.inl ⟨rfl, (Answer.refused.inj refused).symm, j, others j accepted, accepted⟩
      · cases patch
  | patch =>
    cases stored : s.stored with
    | some document =>
      rw [stored] at refused
      cases refused
    | none =>
      rw [stored] at refused cases
      obtain told | ⟨post, -⟩ | ⟨-, deleted⟩ := cases
      · cases told
      · cases post
      · exact Or.inr ⟨rfl, (Answer.refused.inj refused).symm, deleted⟩

theorem step_conflict (accounted : Accounted i history s) (raced : Raced i history s)
    (conflicts : ∀ code, .serve i (.refused code) ∈ history → Conflict i code history)
    (step : Step publication s e t) :
    ∀ code, .serve i (.refused code) ∈ e :: history → Conflict i code (e :: history) := by
  intro code mem
  obtain now | earlier := List.mem_cons.mp mem
  · cases step with
    | serve j method sent =>
      obtain ⟨rfl, refused⟩ := Event.serve.inj now
      rw [← refused]
      exact refused_conflict accounted raced sent refused.symm
    | _ => cases now
  · exact (conflicts code earlier).later e

/-- Of every call, in any interleaving: its request takes effect once at most, it did
if the call returned, and a refusal tells of a race, in which another publication
was accepted or the ConfigMap was deleted between the call's two requests. -/
theorem call_told (run : Run Start (Step publication) history s) (i : ι) :
    (answers i history).length ≤ 1 ∧
      (s.stage i = .returned → answers i history = [.accepted]) ∧
      ∀ code, .serve i (.refused code) ∈ history → Conflict i code history := by
  have all : Accounted i history s ∧ Raced i history s ∧
      ∀ code, .serve i (.refused code) ∈ history → Conflict i code history := by
    refine run.invariant (I := fun history s => Accounted i history s ∧ Raced i history s ∧
      ∀ code, .serve i (.refused code) ∈ history → Conflict i code history) ?_ ?_
    · intro s start
      refine ⟨⟨fun _ => rfl, fun _ => ⟨start.sent i, rfl⟩, ?_, ?_, Nat.zero_le 1⟩, ?_, nofun⟩
      · rw [start.stage i]
        nofun
      · rw [start.stage i]
        nofun
      · intro method sent
        rw [start.sent i] at sent
        cases sent
    · rintro history s e t - ⟨accounted, raced, conflicts⟩ step
      exact ⟨step_accounted accounted step, step_raced raced step,
        step_conflict accounted raced conflicts step⟩
  obtain ⟨accounted, -, conflicts⟩ := all
  exact ⟨accounted.once, fun returned => (accounted.returned returned).2, conflicts⟩

end Calls

theorem call_told_race : ∃ s, Run Start (Step racingCalls) race s ∧ Conflict false 409 race := by
  obtain ⟨s, run⟩ := race_run
  exact ⟨s, run, (call_told run false).2.2 409 (by simp [race])⟩

end Publishing

end KubeDataGuard
