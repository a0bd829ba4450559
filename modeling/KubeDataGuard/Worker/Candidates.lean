import Mathlib.Data.List.Dedup
import KubeDataGuard.Worker.Job

/-!
# Candidates

The records a repair collects from the entries of a report: the set of their
ids, sorted. Entries that all name their record give each id once, in order.
-/

namespace KubeDataGuard

def reportItems (payload : Json) (key : String) : List Json :=
  match payload.get key with
  | .arr items => items
  | _ => []

theorem repairOrderIds_eq (payload : Json) : repairOrderIds payload = candidateOrderIds
    (reportItems payload "missing" ++ reportItems payload "stale" ++
      reportItems payload "freshness_violations") := rfl

theorem orderId_text_iff {item : Json} {id : String} :
    orderId item = .ok (some id) ↔ item.get "order_id" = .str id := by
  cases item with
  | obj members =>
    simp only [orderId, Json.get]
    cases Fields.get? members "order_id" with
    | none => simp
    | some value => cases value <;> simp
  | _ => simp [orderId, Json.get]

/-- The record an entry names. -/
def entryName (item : Json) : String :=
  match item.get "order_id" with
  | .str id => id
  | _ => ""

theorem entryName_of_get {item : Json} {id : String} (h : item.get "order_id" = .str id) :
    entryName item = id := by
  rw [entryName, h]

/-- Entries that all name their records give their ids, each once and in order. -/
theorem candidateOrderIds_named {items : List Json}
    (named : ∀ item ∈ items, ∃ id, item.get "order_id" = .str id) :
    ∃ ids : List String, candidateOrderIds items = .ok (ids.map some) ∧
      ids.Pairwise (· < ·) ∧ ∀ id, id ∈ ids ↔ ∃ item ∈ items, item.get "order_id" = .str id := by
  have read : items.mapM orderId = .ok ((items.map entryName).map some) := by
    rw [List.map_map]
    apply mapM_ok
    intro item hi
    obtain ⟨id, hid⟩ := named item hi
    rw [Function.comp_apply, entryName_of_get hid]
    exact orderId_text_iff.mpr hid
  have distinct : ((items.map entryName).map some).dedup = (items.map entryName).dedup.map some :=
    List.dedup_map_of_injective (Option.some_injective String) _
  have noNone : none ∉ (items.map entryName).dedup.map some := by simp
  refine ⟨(items.map entryName).dedup.insertionSort (· ≤ ·), ?_, ?_, ?_⟩
  · unfold candidateOrderIds
    rw [read]
    simp only [bind, Except.bind, distinct]
    rw [if_neg fun h => noNone h.1, if_neg]
    · simp [pure, Except.pure]
    · intro h
      exact noNone (h ▸ List.mem_singleton_self _)
  · have sorted : ((items.map entryName).dedup.insertionSort (· ≤ ·)).Pairwise (· ≤ ·) :=
      List.pairwise_insertionSort _ _
    have nodup : ((items.map entryName).dedup.insertionSort (· ≤ ·)).Nodup :=
      (List.perm_insertionSort _ _).nodup_iff.mpr (List.nodup_dedup _)
    refine (sorted.and nodup).imp ?_
    intro a b h
    exact lt_of_le_of_ne h.1 h.2
  · intro id
    rw [List.mem_insertionSort, List.mem_dedup, List.mem_map]
    constructor
    · rintro ⟨item, hi, rfl⟩
      obtain ⟨id, hid⟩ := named item hi
      exact ⟨item, hi, by rw [hid, entryName_of_get hid]⟩
    · rintro ⟨item, hi, hid⟩
      exact ⟨item, hi, entryName_of_get hid⟩

end KubeDataGuard
