import Mathlib.Data.List.Induction
import KubeDataGuard.Operator.JobSpec

/-!
# Settings of a container

Tables of variables with what an object sets each of them to, and environments
overlaid with such settings in place.
-/

namespace KubeDataGuard

/-- Variables, each with what an object sets it to. -/
abbrev Settings (α : Type) := List (String × (α → Option EnvSource))

namespace Settings

variable {α : Type} (settings : Settings α) (a : α)

/-- The object sets the variable to this. -/
def Sets (name : String) (source : EnvSource) : Prop :=
  ∃ setting ∈ settings, setting.1 = name ∧ setting.2 a = some source

/-- The variables an object sets. -/
def env : List EnvVar :=
  settings.filterMap fun setting => (setting.2 a).map (EnvVar.mk setting.1)

variable {settings a}

theorem mem_env {v : EnvVar} : v ∈ settings.env a ↔ settings.Sets a v.name v.source := by
  unfold env Sets
  rw [List.mem_filterMap]
  constructor
  · rintro ⟨setting, listed, made⟩
    obtain ⟨source, set, rfl⟩ := Option.map_eq_some_iff.mp made
    exact ⟨setting, listed, rfl, set⟩
  · rintro ⟨setting, listed, name, set⟩
    refine ⟨setting, listed, ?_⟩
    rw [set, Option.map_some, name]

variable (settings a)

theorem env_names : ((settings.env a).map EnvVar.name).Sublist (settings.map Prod.fst) := by
  unfold env
  induction settings with
  | nil => exact List.Sublist.refl _
  | cons setting settings ih =>
    cases held : setting.2 a with
    | none =>
      rw [List.filterMap_cons_none (by rw [held]; rfl)]
      exact ih.cons _
    | some source =>
      rw [List.filterMap_cons_some (by rw [held]; rfl)]
      exact ih.cons_cons _

/-- The settings one after another. -/
theorem env_flatMap :
    settings.env a = settings.flatMap fun setting =>
      ((setting.2 a).map (EnvVar.mk setting.1)).toList :=
  List.filterMap_eq_flatMap_toList _ _

end Settings

/-! ## Environments overlaid in place -/

/-- A known variable is set where it stands. -/
theorem upsertEnvVar_known {env : List EnvVar} {value : EnvVar} (once : (env.map EnvVar.name).Nodup)
    (known : value.name ∈ env.map EnvVar.name) :
    upsertEnvVar env value = env.map fun e => if e.name = value.name then value else e := by
  induction env with
  | nil => cases known
  | cons e env ih =>
    obtain ⟨fresh, once⟩ := List.nodup_cons.mp once
    rw [upsertEnvVar, List.map_cons]
    by_cases here : e.name = value.name
    · have rest : env.map (fun e => if e.name = value.name then value else e) = env := by
        refine (List.map_congr_left fun other mem => ?_).trans (List.map_id env)
        exact if_neg fun same => fresh (List.mem_map.mpr ⟨other, mem, same.trans here.symm⟩)
      rw [if_pos here, if_pos here, rest]
    · have later : value.name ∈ env.map EnvVar.name :=
        (List.mem_cons.mp known).resolve_left fun same => here same.symm
      rw [if_neg here, if_neg here, ih once later]

/-- An environment with some of its variables set anew: each where it stood, the others as they
were. -/
structure Overlaid (env values result : List EnvVar) : Prop where
  names : result.map EnvVar.name = env.map EnvVar.name
  set : ∀ v ∈ values, v ∈ result
  kept : ∀ (i : Nat) (e : EnvVar), env[i]? = some e → (∀ v ∈ values, v.name ≠ e.name) →
    result[i]? = some e

theorem overlaid_upserts {env values : List EnvVar} (once : (env.map EnvVar.name).Nodup)
    (distinct : (values.map EnvVar.name).Nodup)
    (known : ∀ v ∈ values, v.name ∈ env.map EnvVar.name) :
    Overlaid env values (values.foldl upsertEnvVar env) := by
  induction values using List.reverseRecOn with
  | nil => exact ⟨rfl, nofun, fun _ _ there _ => there⟩
  | append_singleton values value ih =>
    rw [List.map_append, List.nodup_append] at distinct
    obtain ⟨distinct, -, apart⟩ := distinct
    obtain ⟨names, set, kept⟩ := ih distinct fun v mem => known v (List.mem_append_left _ mem)
    have there := known value (List.mem_append_right _ List.mem_cons_self)
    rw [List.foldl_append, List.foldl_cons, List.foldl_nil,
      upsertEnvVar_known (names ▸ once) (names ▸ there)]
    have sameName : ∀ e : EnvVar, (if e.name = value.name then value else e).name = e.name := by
      intro e
      split
      · rename_i same
        exact same.symm
      · rfl
    refine ⟨?_, ?_, ?_⟩
    · rw [List.map_map, ← names]
      exact List.map_congr_left fun e _ => sameName e
    · intro v mem
      rw [List.mem_map]
      obtain mem | mem := List.mem_append.mp mem
      · have other : v.name ≠ value.name :=
          apart _ (List.mem_map_of_mem mem) _ (List.mem_map_of_mem List.mem_cons_self)
        exact ⟨v, set v mem, if_neg other⟩
      · rw [List.mem_singleton.mp mem]
        rw [← names] at there
        obtain ⟨e, held, same⟩ := List.mem_map.mp there
        exact ⟨e, held, if_pos same⟩
    · intro i e held others
      have before := kept i e held fun v mem => others v (List.mem_append_left _ mem)
      have other := others value (List.mem_append_right _ List.mem_cons_self)
      rw [List.getElem?_map, before, Option.map_some, if_neg (Ne.symm other)]

end KubeDataGuard
