import KubeDataGuard.Doubles
import KubeDataGuard.Worker.Report

/-!
# Normalised status values

What `decodeStatusPayload` makes of an object: nulls are gone at every depth,
every number is read, and nothing else changes. Such a value is its own
normalisation.
-/

namespace KubeDataGuard

/-! ## One entry at a time -/

theorem normalizeItems_cons (value : Json) (items : List Json) :
    normalizeItems (value :: items) =
      if value.isNull then normalizeItems items
      else normalizeJSONValue value :: normalizeItems items := by
  cases value <;> rfl

theorem normalizeMembers_cons (key : String) (value : Json) (members : Fields) :
    normalizeMembers ((key, value) :: members) =
      if value.isNull then normalizeMembers members
      else (key, normalizeJSONValue value) :: normalizeMembers members := by
  cases value <;> rfl

/-- An array keeps its elements in order, without the nulls. -/
theorem normalizeItems_eq (items : List Json) :
    normalizeItems items = (items.filter fun value => !value.isNull).map normalizeJSONValue := by
  induction items with
  | nil => rfl
  | cons value items ih =>
    rw [normalizeItems_cons, ih]
    cases kept : value.isNull <;> simp [kept]

/-- An object keeps its members under their keys, without the nulls. -/
theorem normalizeMembers_eq (members : Fields) :
    normalizeMembers members =
      (members.filter fun e => !e.2.isNull).map fun e => (e.1, normalizeJSONValue e.2) := by
  induction members with
  | nil => rfl
  | cons entry members ih =>
    obtain ⟨key, value⟩ := entry
    rw [normalizeMembers_cons, ih]
    cases kept : value.isNull <;> simp [kept]

/-! ## Normal values -/

mutual

/-- No null and no number as `json.Number` keeps it, at any depth. -/
def Normal : Json → Prop
  | .null => False
  | .decimal _ _ => False
  | .int n => inInt64 n = true
  | .arr items => NormalItems items
  | .obj members => NormalMembers members
  | _ => True

def NormalItems : List Json → Prop
  | [] => True
  | value :: items => Normal value ∧ NormalItems items

def NormalMembers : List (String × Json) → Prop
  | [] => True
  | (_, value) :: members => Normal value ∧ NormalMembers members

end

/-- A value stands somewhere in another. -/
inductive Occurs (v : Json) : Json → Prop
  | here : Occurs v v
  | item {items : List Json} {value : Json} (mem : value ∈ items) (inside : Occurs v value) :
      Occurs v (.arr items)
  | member {members : Fields} {key : String} {value : Json} (mem : (key, value) ∈ members)
      (inside : Occurs v value) : Occurs v (.obj members)

theorem NormalItems.mem {items : List Json} (h : NormalItems items) {value : Json}
    (mem : value ∈ items) : Normal value := by
  induction items with
  | nil => cases mem
  | cons first items ih =>
    obtain ⟨head, tail⟩ := h
    obtain rfl | mem := List.mem_cons.mp mem
    · exact head
    · exact ih tail mem

theorem NormalMembers.mem {members : Fields} (h : NormalMembers members) {key : String}
    {value : Json} (mem : (key, value) ∈ members) : Normal value := by
  induction members with
  | nil => cases mem
  | cons first members ih =>
    obtain ⟨head, tail⟩ := h
    obtain rfl | mem := List.mem_cons.mp mem
    · exact head
    · exact ih tail mem

theorem Normal.occurs {v j : Json} (normal : Normal j) (inside : Occurs v j) : Normal v := by
  induction inside with
  | here => exact normal
  | item mem _ ih =>
    rw [Normal] at normal
    exact ih (normal.mem mem)
  | member mem _ ih =>
    rw [Normal] at normal
    exact ih (normal.mem mem)

theorem normal_number (n : Int) : Normal (normalizeJSONValue (.int n)) := by
  rw [normalizeJSONValue]
  split
  · rename_i fits
    rw [Normal]
    exact fits
  · split <;> simp [Normal]

theorem normal_decimal (text : String) (value : ℚ) :
    Normal (normalizeJSONValue (.decimal text value)) := by
  rw [normalizeJSONValue]
  split <;> simp [Normal]

mutual

theorem normal_normalize : ∀ j : Json, j.isNull = false → Normal (normalizeJSONValue j)
  | .null, kept => by cases kept
  | .bool _, _ | .float _, _ | .str _, _ | .foreign _, _ => by simp [normalizeJSONValue, Normal]
  | .int n, _ => normal_number n
  | .decimal text value, _ => normal_decimal text value
  | .arr items, _ => by
    rw [normalizeJSONValue, Normal]
    exact normal_items items
  | .obj members, _ => by
    rw [normalizeJSONValue, Normal]
    exact normal_members members

theorem normal_items : ∀ items : List Json, NormalItems (normalizeItems items)
  | [] => trivial
  | value :: items => by
    rw [normalizeItems_cons]
    cases kept : value.isNull with
    | true => exact normal_items items
    | false => exact ⟨normal_normalize value kept, normal_items items⟩

theorem normal_members : ∀ members : Fields, NormalMembers (normalizeMembers members)
  | [] => trivial
  | (key, value) :: members => by
    rw [normalizeMembers_cons]
    cases kept : value.isNull with
    | true => exact normal_members members
    | false => exact ⟨normal_normalize value kept, normal_members members⟩

end

theorem Normal.kept {j : Json} (normal : Normal j) : j.isNull = false := by
  cases j with
  | null =>
    rw [Normal] at normal
    exact normal.elim
  | _ => rfl

mutual

/-- A normal value is left as it is. -/
theorem normalize_of_normal : ∀ j : Json, Normal j → normalizeJSONValue j = j
  | .null, _ | .bool _, _ | .float _, _ | .str _, _ | .foreign _, _ => by
    simp [normalizeJSONValue]
  | .int n, normal => by
    rw [Normal] at normal
    rw [normalizeJSONValue, if_pos normal]
  | .decimal text value, normal => by
    rw [Normal] at normal
    exact normal.elim
  | .arr items, normal => by
    rw [Normal] at normal
    rw [normalizeJSONValue, normalizeItems_of_normal items normal]
  | .obj members, normal => by
    rw [Normal] at normal
    rw [normalizeJSONValue, normalizeMembers_of_normal members normal]

theorem normalizeItems_of_normal : ∀ items : List Json, NormalItems items →
    normalizeItems items = items
  | [], _ => rfl
  | value :: items, ⟨head, tail⟩ => by
    rw [normalizeItems_cons, head.kept, normalize_of_normal value head,
      normalizeItems_of_normal items tail]
    rfl

theorem normalizeMembers_of_normal : ∀ members : Fields, NormalMembers members →
    normalizeMembers members = members
  | [], _ => rfl
  | (key, value) :: members, ⟨head, tail⟩ => by
    rw [normalizeMembers_cons, head.kept, normalize_of_normal value head,
      normalizeMembers_of_normal members tail]
    rfl

end

/-! ## A decoded status -/

/-- What a number is read as: an `int64` or else a double, or else its text. -/
def readNumber (integer : Option Int) (value : ℚ) (text : String) : Json :=
  match integer.filter fun n => inInt64 n with
  | some n => .int n
  | none =>
    match float64 value with
    | some f => .float f
    | none => .str text

/-- A double is read as itself. -/
theorem readNumber_double {value : ℚ} {m e : ℤ} (double : value = m * 2 ^ e) (places : |m| < 2 ^ 53)
    (least : -1074 ≤ e) (finite : |value| < 2 ^ (1024 : ℤ)) (text : String) :
    readNumber none value text = .float value := by
  rw [readNumber, Option.filter_none]
  simp only [float64_exact double places least finite]

/-- A text is left of the numbers past the finite range alone. -/
theorem readNumber_text_iff {value : ℚ} {text : String} : readNumber none value text = .str text ↔
    (2 ^ 53 - 1 / 2) * (2 : ℚ) ^ (971 : ℤ) ≤ |value| := by
  rw [← float64_none_iff, readNumber, Option.filter_none]
  cases float64 value <;> simp

/-- What normalisation makes of every number, array and object, whatever they stand in. -/
structure Normalised : Prop where
  integer : ∀ n : Int, normalizeJSONValue (.int n) = readNumber (some n) n (toString n)
  decimal : ∀ text value, normalizeJSONValue (.decimal text value) = readNumber none value text
  items : ∀ items, normalizeJSONValue (.arr items) =
    .arr ((items.filter fun value => !value.isNull).map normalizeJSONValue)
  members : ∀ members, normalizeJSONValue (.obj members) =
    .obj ((members.filter fun e => !e.2.isNull).map fun e => (e.1, normalizeJSONValue e.2))

theorem normalised : Normalised := by
  constructor
  · intro n
    rw [normalizeJSONValue, readNumber, Option.filter_some]
    cases fits : inInt64 n <;> rfl
  · intro text value
    rw [normalizeJSONValue]
    rfl
  · intro items
    rw [normalizeJSONValue, normalizeItems_eq]
  · intro members
    rw [normalizeJSONValue, normalizeMembers_eq]

/-- A decoded object is normalised at every depth: it holds no null and no unread number, and
normalising it again changes nothing. -/
theorem status_normalised (members : Fields) :
    ∃ status, decodeStatusPayload (.json (.obj members)) = .ok status ∧
      status = (members.filter fun e => !e.2.isNull).map
        (fun e => (e.1, normalizeJSONValue e.2)) ∧
      (∀ v, Occurs v (.obj status) → v ≠ .null ∧ (∀ text value, v ≠ .decimal text value) ∧
        ∀ n, v = .int n → inInt64 n = true) ∧
      normalizeJSONValue (.obj status) = .obj status ∧ Normalised := by
  have normal : Normal (.obj (normalizeMembers members)) := by
    rw [Normal]
    exact normal_members members
  refine ⟨normalizeMembers members, rfl, normalizeMembers_eq members, ?_,
    normalize_of_normal _ normal, normalised⟩
  intro v inside
  have inner := normal.occurs inside
  refine ⟨?_, ?_, ?_⟩
  · rintro rfl
    rw [Normal] at inner
    exact inner
  · rintro text value rfl
    rw [Normal] at inner
    exact inner
  · rintro n rfl
    rw [Normal] at inner
    exact inner

end KubeDataGuard
