import KubeDataGuard.Operator.Environment
import KubeDataGuard.Worker.Config

/-!
# The settings of a worker

`Settings.from_env` in a container the operator made: nothing a worker is
configured with is its own default, comes from its image or depends on whether
it checks or repairs.
-/

namespace KubeDataGuard

/-! ## Containers -/

/-- The text a variable is set to, where the Secret has the key. -/
def EnvSource.text (secrets : String → String → Option String) : EnvSource → Option String
  | .value text => some text
  | .secretKeyRef name key => secrets name key

/-- A container runs with the variables of its specification, whatever else is set. -/
def RunsWith (secrets : String → String → Option String) (env : List EnvVar) (environ : Environ) :
    Prop :=
  ∀ v ∈ env, v.source.text secrets ≠ none ∧ environ v.name = v.source.text secrets

/-- What a variable is meant to be: what the objects set it to, else what the annotations or the
defaults of an Invariant do. -/
def intended (secrets : String → String → Option String) (invariant : Unstructured)
    (dataSource derivedView : Option Unstructured) : Environ := fun name =>
  match (objectsEnv dataSource derivedView).find? fun v => v.name = name with
  | some v => v.source.text secrets
  | none => (ownSettings.find? fun s => s.name = name).map fun s => s.value invariant.annotations

theorem checkerNames_eq : Config.names = checkerNames := rfl

section Intended

variable {secrets : String → String → Option String} {invariant : Unstructured}
  {dataSource derivedView : Option Unstructured}

theorem intended_configured {v : EnvVar} {name : String}
    (found : (objectsEnv dataSource derivedView).find? (fun v => v.name = name) = some v) :
    intended secrets invariant dataSource derivedView name = v.source.text secrets := by
  simp only [intended, found]

theorem intended_own {name : String}
    (unset : ∀ v ∈ objectsEnv dataSource derivedView, v.name ≠ name) :
    intended secrets invariant dataSource derivedView name =
      (ownSettings.find? fun s => s.name = name).map fun s => s.value invariant.annotations := by
  have none_of : (objectsEnv dataSource derivedView).find? (fun v => v.name = name) = none := by
    apply List.find?_eq_none.mpr
    intro v mem
    simpa using unset v mem
  simp only [intended, none_of]

/-- A container runs with every variable as it is meant. -/
theorem runsWith_intended {environ : Environ}
    (started : RunsWith secrets
      ((objectsEnv dataSource derivedView).foldl upsertEnvVar (checkerEnv invariant)) environ)
    {name : String} (known : name ∈ checkerNames) :
    environ name = intended secrets invariant dataSource derivedView name ∧ environ name ≠ none := by
  obtain ⟨names, set, kept⟩ := overlaid_checkerEnv invariant dataSource derivedView
  have held : ∀ v ∈ (objectsEnv dataSource derivedView).foldl upsertEnvVar (checkerEnv invariant),
      v.name = name → environ name = v.source.text secrets ∧ environ name ≠ none := by
    rintro v mem rfl
    obtain ⟨there, read⟩ := started v mem
    exact ⟨read, read ▸ there⟩
  cases found : (objectsEnv dataSource derivedView).find? (fun v => v.name = name) with
  | some v =>
    have same : v.name = name := by simpa using List.find?_some found
    rw [intended_configured found]
    exact held v (set v (List.mem_of_find?_eq_some found)) same
  | none =>
    have unset : ∀ v ∈ objectsEnv dataSource derivedView, v.name ≠ name := by
      intro v mem
      simpa using List.find?_eq_none.mp found v mem
    rw [intended_own unset]
    cases own : ownSettings.find? (fun s => s.name = name) with
    | none =>
      obtain ⟨s, mem, same⟩ := List.mem_map.mp known
      exact absurd same (by simpa using List.find?_eq_none.mp own s mem)
    | some s =>
      have same : s.name = name := by simpa using List.find?_some own
      obtain ⟨i, listed⟩ := List.mem_iff_getElem?.mp (List.mem_of_find?_eq_some own)
      have at_i : (checkerEnv invariant)[i]? =
          some ⟨s.name, .value (s.value invariant.annotations)⟩ := by
        rw [checkerEnv_own, List.getElem?_map, listed, Option.map_some]
      have apart : ∀ v ∈ objectsEnv dataSource derivedView, v.name ≠ s.name :=
        fun v mem => same ▸ unset v mem
      exact held _ (List.mem_of_getElem? (kept i _ at_i apart)) same

theorem intended_retention {s : OwnSetting}
    (own : (ownSettings.find? fun other => other.name = s.name) = some s)
    (other : s.name ∉ dataSourceSettings.map Prod.fst ++ derivedViewSettings.map Prod.fst) :
    intended secrets invariant dataSource derivedView s.name =
      some (s.value invariant.annotations) := by
  rw [intended_own, own]
  · rfl
  · rintro v mem same
    exact other (same ▸ (objectsEnv_names _ _).subset (List.mem_map_of_mem mem))

end Intended

theorem RunsWith.append {secrets : String → String → Option String} {env more : List EnvVar}
    {environ : Environ} (started : RunsWith secrets (env ++ more) environ) :
    RunsWith secrets env environ :=
  fun v mem => started v (List.mem_append_left _ mem)

/-- The workers of an Invariant, those of checks and those of repairs, read the settings its
objects were meant to give it, all of them, and end at once where a retention is no number. -/
theorem worker_settings_intended {c : Cluster} {invariant : Unstructured} {env : List EnvVar}
    (resolved : resolveCheckerEnv c invariant = .ok env) (policy : Unstructured) (mode : String)
    {secrets : String → String → Option String} {check repair : Environ}
    (checking : RunsWith secrets env check)
    (repairing : RunsWith secrets (env ++ repairPolicyEnv policy mode) repair) :
    ∃ dataSource derivedView, ResolvedThrough c invariant dataSource derivedView ∧
      (∀ name ∈ Config.names, intended secrets invariant dataSource derivedView name ≠ none) ∧
      Config.fromEnv check =
        Config.fromEnv (intended secrets invariant dataSource derivedView) ∧
      Config.fromEnv repair =
        Config.fromEnv (intended secrets invariant dataSource derivedView) ∧
      ((Config.fromEnv check).isSome ↔
        (pythonInt (retentionCountSetting.value invariant.annotations)).isSome ∧
        (pythonInt (retentionDaysSetting.value invariant.annotations)).isSome) := by
  obtain ⟨dataSource, derivedView, through, rfl⟩ := resolveCheckerEnv_overlay resolved
  have read : ∀ environ, RunsWith secrets
      ((objectsEnv dataSource derivedView).foldl upsertEnvVar (checkerEnv invariant)) environ →
      Config.fromEnv environ =
        Config.fromEnv (intended secrets invariant dataSource derivedView) := by
    intro environ started
    apply Config.fromEnv_congr
    · exact fun name known => (runsWith_intended started (checkerNames_eq ▸ known)).1
    · exact (runsWith_intended started (by decide)).2
  refine ⟨dataSource, derivedView, through, ?_, read check checking, read repair repairing.append, ?_⟩
  · intro name known
    obtain ⟨meant, set⟩ := runsWith_intended checking (checkerNames_eq ▸ known)
    exact meant ▸ set
  have retention : ∀ (s : OwnSetting) default,
      (ownSettings.find? fun other => other.name = s.name) = some s →
      s.name ∉ dataSourceSettings.map Prod.fst ++ derivedViewSettings.map Prod.fst →
      getenv (intended secrets invariant dataSource derivedView) s.name default =
        s.value invariant.annotations := by
    intro s default own other
    rw [getenv, intended_retention own other, Option.getD_some]
  rw [read check checking, Config.fromEnv_isSome,
    ← retention retentionCountSetting "25" (by decide) (by decide),
    ← retention retentionDaysSetting "30" (by decide) (by decide)]
  rfl

def processEnviron (secrets : String → String → Option String) (env : List EnvVar) : Environ :=
  fun name => (env.find? fun v => v.name = name).bind fun v => v.source.text secrets

theorem worker_settings_intended_search :
    ∃ dataSource derivedView, ResolvedThrough referring indexedInvariant dataSource derivedView ∧
      Config.fromEnv (processEnviron (fun name key => some (name ++ key)) indexedEnv) =
        Config.fromEnv (intended (fun name key => some (name ++ key)) indexedInvariant dataSource
          derivedView) ∧
      (Config.fromEnv (processEnviron (fun name key => some (name ++ key)) indexedEnv)).isSome := by
  have checking : RunsWith (fun name key => some (name ++ key)) indexedEnv
      (processEnviron (fun name key => some (name ++ key)) indexedEnv) := by
    unfold RunsWith
    decide +kernel
  have repairing : RunsWith (fun name key => some (name ++ key))
      (indexedEnv ++ repairPolicyEnv webhooksPolicy "call-webhook")
      (processEnviron (fun name key => some (name ++ key))
        (indexedEnv ++ repairPolicyEnv webhooksPolicy "call-webhook")) := by
    unfold RunsWith
    decide +kernel
  have resolved : resolveCheckerEnv referring indexedInvariant = .ok indexedEnv := rfl
  obtain ⟨dataSource, derivedView, through, -, read, -, iff⟩ :=
    worker_settings_intended resolved webhooksPolicy "call-webhook" checking repairing
  exact ⟨dataSource, derivedView, through, read, iff.mpr (by decide +kernel)⟩

end KubeDataGuard
