import Mathlib.Data.Rat.Floor
import Mathlib.Data.List.Basic

/-!
# JSON values

One type for the values of both programs: what `json.dumps` prints in the
worker and what the operator's `map[string]any` holds after decoding. An
integer literal and an `int64` are both `int`. A literal with a fraction or
an exponent is a `decimal` until it is normalised to a `float`, a finite
double standing for the rational it denotes. A `foreign` value is a Python
object without a JSON form, which `json.dumps` refuses.
-/

namespace KubeDataGuard

inductive Json
  | null
  | bool (b : Bool)
  | int (n : Int)
  | decimal (text : String) (value : ℚ)
  | float (value : ℚ)
  | str (s : String)
  | arr (items : List Json)
  | obj (members : List (String × Json))
  | foreign (text : String)

/-- A JSON object, as a Python `dict` and as a Go `map[string]any`. -/
abbrev Fields := List (String × Json)

def Fields.get? (m : Fields) (key : String) : Option Json := List.lookup key m

def Fields.set (m : Fields) (key : String) (value : Json) : Fields :=
  (key, value) :: m.filter (fun e => e.1 != key)

@[simp] theorem Fields.get?_nil (key : String) : Fields.get? [] key = none := rfl

theorem Fields.get?_cons (k : String) (v : Json) (m : Fields) (key : String) :
    Fields.get? ((k, v) :: m) key = if key = k then some v else Fields.get? m key := by
  simp only [Fields.get?, List.lookup_cons]
  by_cases h : key = k
  · simp [h]
  · simp [h, beq_eq_false_iff_ne.mpr h]

@[simp] theorem Fields.get?_set_self (m : Fields) (key : String) (value : Json) :
    (m.set key value).get? key = some value := by
  simp [Fields.set, Fields.get?_cons]

theorem Fields.get?_erase (m : Fields) {key other : String} (h : other ≠ key) :
    Fields.get? (m.filter fun e => e.1 != key) other = m.get? other := by
  induction m with
  | nil => rfl
  | cons e m ih =>
    obtain ⟨k, v⟩ := e
    by_cases he : k = key
    · have hne : other ≠ k := fun ho => h (ho.trans he)
      rw [List.filter_cons_of_neg (by simpa using he), ih, Fields.get?_cons, if_neg hne]
    · rw [List.filter_cons_of_pos (by simpa using he), Fields.get?_cons, Fields.get?_cons, ih]

@[simp] theorem Fields.get?_set_ne (m : Fields) {key other : String} (value : Json)
    (h : other ≠ key) : (m.set key value).get? other = m.get? other := by
  rw [Fields.set, Fields.get?_cons, if_neg h, Fields.get?_erase m h]

theorem Fields.get?_map {names : List String} (value : String → Json) {name : String}
    (mem : name ∈ names) : Fields.get? (names.map fun n => (n, value n)) name = some (value name) := by
  induction names with
  | nil => cases mem
  | cons n names ih =>
    rw [List.map_cons, Fields.get?_cons]
    split
    · rename_i same
      rw [same]
    · rename_i other
      exact ih ((List.mem_cons.mp mem).resolve_left other)

/-- `dict.get(key)`, which is `None` for an absent key. -/
def Json.get : Json → String → Json
  | .obj members, key => (Fields.get? members key).getD .null
  | _, _ => .null

mutual

/-- `json.dumps` accepts the value. -/
def Json.dumps : Json → Bool
  | .obj members => dumpsMembers members
  | .arr items => dumpsItems items
  | .foreign _ => false
  | _ => true

def dumpsItems : List Json → Bool
  | [] => true
  | value :: items => value.dumps && dumpsItems items

def dumpsMembers : List (String × Json) → Bool
  | [] => true
  | (_, value) :: members => value.dumps && dumpsMembers members

end

/-! ## Numbers -/

def inInt64 (n : Int) : Bool := decide (-2 ^ 63 ≤ n) && decide (n < 2 ^ 63)

/-- The `int64` that a result of Go's integer arithmetic wraps to. -/
def wrap64 (n : Int) : Int := n.bmod (2 ^ 64)

/-- The double nearest to a rational, ties to even; none past the finite range. -/
def float64 (q : ℚ) : Option ℚ :=
  if q = 0 then some 0
  else
    let num := q.num.natAbs
    let log : Int := (Nat.log2 num : Int) - Nat.log2 q.den
    -- the exponent whose unit makes a 53-bit integer of `|q|`, subnormals apart
    let floorLog : Int := if (2 : ℚ) ^ log ≤ |q| then log else log - 1
    let unit : ℚ := (2 : ℚ) ^ (max (floorLog - 52) (-1074))
    let scaled := |q| / unit
    let down := scaled.floor
    let rem := scaled - down
    let rounded : Int :=
      if rem < 1 / 2 then down
      else if 1 / 2 < rem then down + 1
      else if down % 2 = 0 then down else down + 1
    let result := (rounded : ℚ) * unit
    if (2 : ℚ) ^ (1024 : Int) ≤ result then none
    else some (if q < 0 then -result else result)

/-- `int64(value)` of a double: truncation, and the lowest `int64` out of range. -/
def truncate64 (q : ℚ) : Int :=
  let n := q.num.tdiv q.den
  if inInt64 n then n else -2 ^ 63

/-! ## Decoding a status payload -/

/-- A ConfigMap data entry as `json.Decoder` finds it. -/
inductive Payload
  | empty
  | malformed
  | json (value : Json)

inductive Error
  | accessor (path : List String)
  | because (context : String) (cause : Error)
  | message (text : String)
  deriving DecidableEq, Repr

mutual

def normalizeJSONValue : Json → Json
  | .obj members => .obj (normalizeMembers members)
  | .arr items => .arr (normalizeItems items)
  | .int n =>
    if inInt64 n then .int n
    else match float64 n with
      | some f => .float f
      | none => .str (toString n)
  | .decimal text value =>
    match float64 value with
    | some f => .float f
    | none => .str text
  | value => value

def normalizeItems : List Json → List Json
  | [] => []
  | .null :: items => normalizeItems items
  | value :: items => normalizeJSONValue value :: normalizeItems items

def normalizeMembers : List (String × Json) → List (String × Json)
  | [] => []
  | (_, .null) :: members => normalizeMembers members
  | (key, value) :: members => (key, normalizeJSONValue value) :: normalizeMembers members

end

/-- Go decodes the literal `null` into a nil map, which normalises to an empty one. -/
def decodeStatusPayload : Payload → Except Error Fields
  | .json (.obj members) => .ok (normalizeMembers members)
  | .json .null => .ok []
  | .json _ => .error (.message "json: cannot unmarshal into Go value of type map[string]interface {}")
  | .malformed | .empty => .error (.message "invalid status payload")

/-- A member of a decoded object: dropped when it was null, normalised otherwise. -/
def keptMember : Option Json → Option Json
  | none | some .null => none
  | some value => some (normalizeJSONValue value)

/-- Keys are unique in an object a `dict` was printed from. -/
def Fields.UniqueKeys (m : Fields) : Prop := (m.map Prod.fst).Nodup

theorem Fields.uniqueKeys_set {m : Fields} (h : m.UniqueKeys) (key : String) (value : Json) :
    (m.set key value).UniqueKeys := by
  refine List.nodup_cons.mpr ⟨?_, h.sublist (List.filter_sublist.map _)⟩
  intro hmem
  obtain ⟨e, he, hk⟩ := List.mem_map.mp hmem
  exact absurd hk (by simpa using (List.mem_filter.mp he).2)

theorem get?_normalizeMembers {m : Fields} (h : m.UniqueKeys) (key : String) :
    Fields.get? (normalizeMembers m) key = keptMember (m.get? key) := by
  induction m with
  | nil => rfl
  | cons e m ih =>
    obtain ⟨k, v⟩ := e
    have hu : k ∉ m.map Prod.fst ∧ Fields.UniqueKeys m := List.nodup_cons.mp h
    have hrest := ih hu.2
    have habsent : Fields.get? m k = none := by
      simp only [Fields.get?, List.lookup_eq_none_iff, bne_iff_ne]
      intro p hp hk
      exact hu.1 (List.mem_map.mpr ⟨p, hp, by simpa using hk.symm⟩)
    rw [Fields.get?_cons]
    by_cases hk : key = k
    · subst hk
      cases v <;> simp [normalizeMembers, keptMember, hrest, habsent, Fields.get?_cons]
    · cases v <;> simp [normalizeMembers, hrest, hk, Fields.get?_cons]

def int64Field (m : Fields) (key : String) : Option Int :=
  match m.get? key with
  | some (.int n) => some n
  | some (.float q) => some (truncate64 q)
  | _ => none

def stringField (m : Fields) (key : String) : Option String :=
  match m.get? key with
  | some (.str s) => some s
  | _ => none

def boolField (m : Fields) (key : String) : Option Bool :=
  match m.get? key with
  | some (.bool b) => some b
  | _ => none

/-! ## Nested fields of unstructured objects -/

/-- `unstructured.NestedFieldNoCopy`: a missing or null step is not found, a
step into anything but an object is an error. -/
def nestedField : Json → List String → Except Error (Option Json)
  | value, [] => .ok (some value)
  | .null, _ :: _ => .ok none
  | .obj members, field :: fields =>
    match Fields.get? members field with
    | none => .ok none
    | some value => nestedField value fields
  | _, field :: fields => .error (.accessor (field :: fields))

/-- The typed accessors `NestedString`, `NestedInt64`, `NestedBool` and `NestedSlice`. -/
def nestedAs {α : Type} (pick : Json → Option α) (object : Fields) (fields : List String) :
    Except Error (Option α) :=
  match nestedField (.obj object) fields with
  | .error e => .error e
  | .ok none => .ok none
  | .ok (some value) =>
    match pick value with
    | some a => .ok (some a)
    | none => .error (.accessor fields)

def nestedString : Fields → List String → Except Error (Option String) :=
  nestedAs fun | .str s => some s | _ => none

def nestedInt64 : Fields → List String → Except Error (Option Int) :=
  nestedAs fun | .int n => some n | _ => none

def nestedBool : Fields → List String → Except Error (Option Bool) :=
  nestedAs fun | .bool b => some b | _ => none

def nestedSlice : Fields → List String → Except Error (Option (List Json)) :=
  nestedAs fun | .arr items => some items | _ => none

def nestedMap : Fields → List String → Except Error (Option Fields) :=
  nestedAs fun | .obj members => some members | _ => none

/-- `value, _, _ := NestedString(...)`: the empty string when absent or of another type. -/
def nestedStringOrEmpty (object : Fields) (fields : List String) : String :=
  match nestedString object fields with
  | .ok (some s) => s
  | _ => ""

theorem nestedAs_set_ne {α : Type} (pick : Json → Option α) (object : Fields) {field key : String}
    (fields : List String) (value : Json) (h : field ≠ key) :
    nestedAs pick (object.set key value) (field :: fields) = nestedAs pick object (field :: fields) := by
  simp only [nestedAs, nestedField, Fields.get?_set_ne _ _ h]

end KubeDataGuard
