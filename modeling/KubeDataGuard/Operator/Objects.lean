import KubeDataGuard.Json
import KubeDataGuard.Time
import KubeDataGuard.Worker.Job

/-!
# Objects of the API server

What the operator reads and writes in one namespace: unstructured custom
resources, the Jobs it creates and the ConfigMaps the workers publish. The
name under which an object is stored is its `metadata.name`.
-/

namespace KubeDataGuard

/-- A UID, given to an object when it is created and never again. -/
abbrev Uid := Nat

/-- A custom resource without its name. -/
structure Resource where
  uid : Uid
  generation : Int
  annotations : List (String × String)
  object : Fields

/-- `unstructured.Unstructured` -/
structure Unstructured extends Resource where
  ns : String
  name : String

/-- `GetAnnotations()[key]`, empty for an absent key. -/
def Unstructured.annotation (o : Unstructured) (key : String) : String :=
  (o.annotations.lookup key).getD ""

def annotationOrDefault (o : Unstructured) (key fallback : String) : String :=
  if o.annotation key = "" then fallback else o.annotation key

/-- `fmt.Errorf("read ...: %w", err)` -/
def readError {α : Type} (context : String) : Except Error α → Except Error α
  | .ok value => .ok value
  | .error cause => .error (.because ("read " ++ context) cause)

inductive EnvSource
  | value (text : String)
  | secretKeyRef (name key : String)
  deriving DecidableEq, Repr

structure EnvVar where
  name : String
  source : EnvSource
  deriving DecidableEq, Repr

structure OwnerReference where
  kind : String
  name : String
  uid : Uid
  controller : Bool
  deriving DecidableEq, Repr

inductive JobConditionType
  | complete
  | failed
  | other (name : String)
  deriving DecidableEq, Repr

/-- A condition of a Job's status; `holds` is a status of `True`. -/
structure JobCondition where
  type : JobConditionType
  holds : Bool
  reason : String := ""
  message : String := ""
  deriving DecidableEq, Repr

structure Job where
  name : String
  labels : List (String × String)
  ownerReferences : List OwnerReference
  ttlSecondsAfterFinished : Int
  activeDeadlineSeconds : Int
  serviceAccountName : String
  image : String
  args : JobArgs
  env : List EnvVar
  conditions : List JobCondition := []
  finishedAt : Option Int := none
  deriving DecidableEq, Repr

namespace Job

variable (job : Job)

/-- The Invariant whose deletion takes the Job along. -/
def ownedBy (uid : Uid) : Bool := job.ownerReferences.any fun owner => owner.uid == uid

end Job

def jobComplete (job : Job) : Bool :=
  job.conditions.any fun c => decide (c.type = .complete) && c.holds

def jobFailed (job : Job) : Bool :=
  job.conditions.any fun c => decide (c.type = .failed) && c.holds

def jobTimedOut (job : Job) : Bool :=
  job.conditions.any fun c => decide (c.type = .failed) && c.holds &&
    decide (c.reason = "DeadlineExceeded")

def jobFailureExplanation (job : Job) (fallback : String) : String :=
  match job.conditions.find? fun c => decide (c.type = .failed) && c.holds with
  | some c => intercalateText ": " (fallback :: ([c.reason, c.message].filter (· ≠ "")))
  | none => fallback

end KubeDataGuard
