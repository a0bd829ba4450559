import Mathlib.Data.List.Nodup
import KubeDataGuard.Json
import KubeDataGuard.Time

/-!
# Calls that raise, and the values of a row

A worker's call changes a state and returns or raises. Rows are the `dict`s
psycopg and the OpenSearch client hand over, with the few things the checks
ask of a value: its `str`, its truth and its form after `json_safe_value`.
-/

namespace KubeDataGuard

/-- What leaves a call that does not return: an `Exception`, a `SystemExit`,
which `except Exception` lets through, or the end of the process. -/
inductive Raised
  | exception (cls text : String)
  | systemExit (text : String)
  | killed
  deriving DecidableEq, Repr

def valueError (text : String) : Raised := .exception "ValueError" text

@[simp] theorem ok_bind {α β : Type} (a : α) (f : α → Except Raised β) :
    (Except.ok a >>= f) = f a := rfl

@[simp] theorem error_bind {α β : Type} (e : Raised) (f : α → Except Raised β) :
    (Except.error e >>= f) = .error e := rfl

def Py (σ α : Type) := σ → Except Raised α × σ

namespace Py

variable {σ α β : Type}

def pure (a : α) : Py σ α := fun s => (.ok a, s)

def bind (x : Py σ α) (f : α → Py σ β) : Py σ β := fun s =>
  match x s with
  | (.ok a, t) => f a t
  | (.error e, t) => (.error e, t)

instance : Monad (Py σ) where
  pure := Py.pure
  bind := Py.bind

def raise (e : Raised) : Py σ α := fun s => (.error e, s)

def ofExcept (x : Except Raised α) : Py σ α := fun s => (x, s)

@[simp] theorem pure_run (a : α) (s : σ) : (Pure.pure a : Py σ α) s = (.ok a, s) := rfl

@[simp] theorem raise_run (e : Raised) (s : σ) : (raise e : Py σ α) s = (.error e, s) := rfl

@[simp] theorem ofExcept_run (x : Except Raised α) (s : σ) : (ofExcept x : Py σ α) s = (x, s) :=
  rfl

theorem bind_run (x : Py σ α) (f : α → Py σ β) (s : σ) :
    (x >>= f) s = match x s with
      | (.ok a, t) => f a t
      | (.error e, t) => (.error e, t) := rfl

/-- A sequence that returned returned at each of its steps. -/
theorem bind_ok {x : Py σ α} {f : α → Py σ β} {s t : σ} {b : β} :
    (x >>= f) s = (.ok b, t) ↔ ∃ a u, x s = (.ok a, u) ∧ f a u = (.ok b, t) := by
  rw [bind_run]
  cases hx : x s with
  | mk r u => cases r <;> simp

theorem ofExcept_bind (x : Except Raised α) (f : α → Py σ β) (s : σ) :
    (ofExcept x >>= f) s = match x with
      | .ok a => f a s
      | .error e => (.error e, s) := by
  cases x <;> rfl

/-- A sequence raises at its first step or goes on with what that returned. -/
theorem bind_cases {x : Py σ α} {f : α → Py σ β} {s t : σ} {r : Except Raised β}
    (h : (x >>= f) s = (r, t)) :
    (∃ e, x s = (.error e, t) ∧ r = .error e) ∨ ∃ a u, x s = (.ok a, u) ∧ f a u = (r, t) := by
  rw [bind_run] at h
  cases hx : x s with
  | mk y u =>
    rw [hx] at h
    cases y with
    | ok a => exact Or.inr ⟨a, u, rfl, h⟩
    | error e =>
      cases h
      exact Or.inl ⟨e, rfl, rfl⟩

theorem ofExcept_cases {x : Except Raised α} {f : α → Py σ β} {s t : σ} {r : Except Raised β}
    (h : (ofExcept x >>= f) s = (r, t)) :
    (∃ e, r = .error e ∧ t = s) ∨ ∃ a, x = .ok a ∧ f a s = (r, t) := by
  cases x with
  | ok a => exact Or.inr ⟨a, rfl, h⟩
  | error e =>
    cases h
    exact Or.inl ⟨e, rfl, rfl⟩

theorem ofExcept_ok {x : Except Raised α} {f : α → Py σ β} {s t : σ} {b : β}
    (h : (ofExcept x >>= f) s = (.ok b, t)) : ∃ a, x = .ok a ∧ f a s = (.ok b, t) := by
  rcases ofExcept_cases h with ⟨e, he, -⟩ | found
  · cases he
  · exact found

end Py

theorem bind_eq_ok {ε α β : Type} {x : Except ε α} {f : α → Except ε β} {b : β}
    (h : (x >>= f) = .ok b) : ∃ a, x = .ok a ∧ f a = .ok b := by
  cases x with
  | ok a => exact ⟨a, rfl, h⟩
  | error e => cases h

/-! ## Loops that may raise -/

theorem mapM_ok {α β : Type} {f : α → Except Raised β} {g : α → β} {l : List α}
    (h : ∀ a ∈ l, f a = .ok (g a)) : l.mapM f = .ok (l.map g) := by
  induction l with
  | nil => rfl
  | cons a l ih =>
    rw [List.mapM_cons, h a List.mem_cons_self, ih fun b hb => h b (List.mem_cons_of_mem a hb)]
    rfl

/-- A loop whose turns raise one error at most raises it. -/
theorem mapM_error {α β : Type} {f : α → Except Raised β} {e : Raised} {l : List α}
    (failed : ∃ a ∈ l, f a = .error e) (only : ∀ a ∈ l, ∀ e', f a = .error e' → e' = e) :
    l.mapM f = .error e := by
  induction l with
  | nil =>
    obtain ⟨a, ha, -⟩ := failed
    cases ha
  | cons a l ih =>
    rw [List.mapM_cons]
    cases hf : f a with
    | error e' =>
      rw [only a List.mem_cons_self e' hf]
      rfl
    | ok b =>
      obtain ⟨c, hc, hfc⟩ := failed
      have later : c ∈ l := by
        rcases List.mem_cons.mp hc with rfl | hc
        · rw [hf] at hfc
          cases hfc
        · exact hc
      have rest := ih ⟨c, later, hfc⟩ fun b hb => only b (List.mem_cons_of_mem a hb)
      rw [rest]
      rfl

inductive Value
  | null
  | bool (b : Bool)
  | int (n : Int)
  | float (text : String) (value : ℚ)
  /-- A `Decimal`, with the `repr` of the double nearest to it. -/
  | numeric (text : String) (value : ℚ) (floatText : String)
  | str (s : String)
  | timestamp (text : String) (at_ : Instant)
  | date (text : String)
  /-- A list or a `dict`, with its `repr`. -/
  | container (text : String) (truthy : Bool) (json : Json)
  /-- Any other object: a `uuid`, bytes. -/
  | other (text : String) (truthy : Bool)

namespace Value

/-- `str(value)` -/
def text : Value → String
  | null => "None"
  | bool true => "True"
  | bool false => "False"
  | int n => toString n
  | float text _ | numeric text _ _ | timestamp text _ | date text | container text _ _
  | other text _ => text
  | str s => s

def truthy : Value → Bool
  | null => false
  | bool b => b
  | int n => n ≠ 0
  | float _ value | numeric _ value _ => value ≠ 0
  | str s => s ≠ ""
  | timestamp _ _ | date _ => true
  | container _ truthy _ | other _ truthy => truthy

def isNone : Value → Bool
  | null => true
  | _ => false

def toJson : Value → Json
  | null => .null
  | bool b => .bool b
  | int n => .int n
  | float text value => .decimal text value
  | str s => .str s
  | container _ _ json => json
  | numeric text _ _ | timestamp text _ | date text | other text _ => .foreign text

end Value

def jsonSafeValue : Value → Value
  | .timestamp _ at_ => .str (iso at_)
  | .date text => .str text
  | .numeric _ value floatText =>
    if value.den = 1 then .int value.num else .float floatText ((float64 value).getD value)
  | value => value

/-- A `dict` from column to value. -/
abbrev Row := List (String × Value)

namespace Row

def get (row : Row) (key : String) : Value := (List.lookup key row).getD .null

def has (row : Row) (key : String) : Bool := (List.lookup key row).isSome

def toJson (row : Row) : Json := .obj (row.map fun (key, value) => (key, value.toJson))

end Row

def serializeQueryRow (row : Row) : Row := row.map fun (key, value) => (key, jsonSafeValue value)

theorem serializeQueryRow_get (row : Row) (key : String) :
    (serializeQueryRow row).get key = jsonSafeValue (row.get key) := by
  unfold serializeQueryRow Row.get
  induction row with
  | nil => rfl
  | cons column row ih =>
    obtain ⟨name, value⟩ := column
    simp only [List.map_cons, List.lookup_cons]
    split
    · rfl
    · exact ih

/-- `separator.join(texts)` -/
def intercalateText (separator : String) : List String → String
  | [] => ""
  | [s] => s
  | s :: rest => s ++ separator ++ intercalateText separator rest

/-! ## Lookups -/

section Lookup

variable {α κ : Type} {key : α → κ} {l : List α}

/-- With one element a key the last element of a key is its only one. -/
theorem find?_reverse_eq_some (distinct : (l.map key).Nodup) {p : α → Bool}
    (one : ∀ a b, p a = true → p b = true → key a = key b) {a : α} :
    l.reverse.find? p = some a ↔ a ∈ l ∧ p a = true := by
  constructor
  · intro h
    exact ⟨List.mem_reverse.mp (List.mem_of_find?_eq_some h), List.find?_some h⟩
  · rintro ⟨mem, hp⟩
    cases found : l.reverse.find? p with
    | none => exact absurd hp (by simpa using List.find?_eq_none.mp found a (List.mem_reverse.mpr mem))
    | some b =>
      have hb := List.mem_reverse.mp (List.mem_of_find?_eq_some found)
      rw [List.inj_on_of_nodup_map distinct hb mem (one b a (List.find?_some found) hp)]

/-- `{key(a): a for a in l}` looked up: where keys are distinct, the element with the key. -/
theorem find_last [BEq κ] [LawfulBEq κ] (distinct : (l.map key).Nodup) {k : κ} {a : α} :
    (l.reverse.find? fun b => key b == k) = some a ↔ a ∈ l ∧ key a = k := by
  rw [find?_reverse_eq_some distinct (p := fun b => key b == k), beq_iff_eq]
  intro b c hb hc
  exact (eq_of_beq hb).trans (eq_of_beq hc).symm

end Lookup

/-- The greatest text of a list, as `max` of strings finds it. -/
def maxText : List String → Option String
  | [] => none
  | s :: rest => some (rest.foldl (fun best t => if best < t then t else best) s)

/-- `latest_query_watermark` and, on rows, `latest_source_watermark`. -/
def latestQueryWatermark (rows : List Row) : Option String :=
  maxText ((rows.filter fun row => (row.get "updated_at").truthy).map fun row =>
    (row.get "updated_at").text)

end KubeDataGuard
