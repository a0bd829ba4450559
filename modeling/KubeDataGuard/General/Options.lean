import Mathlib.Data.List.Nodup
import Mathlib.Data.List.TakeDrop
import Mathlib.Data.List.TakeWhile
import Mathlib.Data.String.Basic
import KubeDataGuard.General.Texts

/-!
# Command lines of options

Tokens are read one by one: what starts with a dash is an option, by its whole
name or by a prefix of only one, unless it is a negative number or has a space.
An option that takes a value takes the next token if that reads as an argument.

* `parse_render`: options written with their values are read back exactly if no
  value reads as anything but an argument;
* `reading_undashed`, `reading_int`: values that always do.
-/

namespace Options

/-- An option, and whether it takes a value. -/
structure Flag where
  name : String
  takesValue : Bool
  deriving DecidableEq

inductive Reading
  | argument
  | option (name : String) (explicit : Option String)
  /-- The separator, an unknown or an ambiguous option. -/
  | refused
  deriving DecidableEq

/-- The text before the first `=` and the one after it. -/
def explicitValue (t : String) : Option (String × String) :=
  match t.toList.span (· ≠ '=') with
  | (name, _ :: value) => some (String.ofList name, String.ofList value)
  | (_, []) => none

/-- What an option may be meant by a text: a long one by a prefix, a short one with its value. -/
def meanings (options : List String) (t : String) : List (String × Option String) :=
  match t.toList with
  | '-' :: '-' :: _ =>
    let (name, value) := match explicitValue t with
      | some (name, value) => (name, some value)
      | none => (t, none)
    (options.filter fun o => name.toList.isPrefixOf o.toList).map fun o => (o, value)
  | '-' :: c :: value =>
    options.filterMap fun o =>
      if o.toList = ['-', c] then some (o, some (String.ofList value))
      else if t.toList.isPrefixOf o.toList then some (o, none)
      else none
  | _ => []

/-- `-12`, `-1.5` or `-.5` in the digits of any script, a final newline aside. -/
def isNegative (t : String) : Bool :=
  match t.toList with
  | '-' :: rest =>
    let number := if rest.getLast? = some '\n' then rest.dropLast else rest
    match number.span Texts.isDecimal with
    | (digits, []) => !digits.isEmpty
    | (_, '.' :: fraction) => !fraction.isEmpty && fraction.all Texts.isDecimal
    | _ => false
  | _ => false

def reading (options : List String) (t : String) : Reading :=
  match t.toList with
  | '-' :: rest =>
    if t ∈ options then .option t none
    else if rest = [] then .argument
    else if t = "--" then .refused
    else match (explicitValue t).filter fun e => decide (e.1 ∈ options) with
      | some (name, value) => .option name (some value)
      | none => match meanings options t with
        | [] => if isNegative t ∨ ' ' ∈ t.toList then .argument else .refused
        | [(name, value)] => .option name value
        | _ => .refused
  | _ => .argument

/-- The options of a command line with their values, or nothing where it is refused. -/
def parse (options : List String) (flags : List Flag) :
    List String → Option (List (String × Option String))
  | [] => some []
  | t :: rest =>
    match reading options t with
    | .option name explicit =>
      match flags.find? fun f => f.name = name, explicit, rest with
      | some ⟨_, true⟩, some value, rest => (parse options flags rest).map ((name, some value) :: ·)
      | some ⟨_, true⟩, none, value :: rest =>
        if reading options value = .argument then
          (parse options flags rest).map ((name, some value) :: ·)
        else none
      | some ⟨_, false⟩, none, rest => (parse options flags rest).map ((name, none) :: ·)
      | _, _, _ => none
    | _ => none

/-- The values given for an option, in order. -/
def values (parsed : List (String × Option String)) (name : String) : List String :=
  parsed.filterMap fun p => if p.1 = name then p.2 else none

def render (pairs : List (String × String)) : List String := pairs.flatMap fun p => [p.1, p.2]

/-- Every option with the value it was written with. -/
def rendered (pairs : List (String × String)) : List (String × Option String) :=
  pairs.map fun p => (p.1, some p.2)

variable {options : List String} {flags : List Flag}

/-- The option is known and takes a value. -/
structure Valued (options : List String) (flags : List Flag) (name : String) : Prop where
  known : name ∈ options
  dashed : name.toList.head? = some '-'
  takes : (flags.find? fun f => f.name = name).map Flag.takesValue = some true

instance (name : String) : Decidable (Valued options flags name) :=
  decidable_of_iff (name ∈ options ∧ name.toList.head? = some '-' ∧
    (flags.find? fun f => f.name = name).map Flag.takesValue = some true)
    ⟨fun ⟨known, dashed, takes⟩ => ⟨known, dashed, takes⟩, fun h => ⟨h.known, h.dashed, h.takes⟩⟩

theorem reading_option {name : String} (h : Valued options flags name) :
    reading options name = .option name none := by
  obtain ⟨rest, dashed⟩ := List.head?_eq_some_iff.mp h.dashed
  unfold reading
  rw [dashed]
  simp only [h.known, if_true]

theorem parse_valued {name : String} (h : Valued options flags name) (v : String)
    (rest : List String) : parse options flags (name :: v :: rest) =
      if reading options v = .argument then
        (parse options flags rest).map ((name, some v) :: ·)
      else none := by
  obtain ⟨⟨own, _⟩, found, rfl⟩ := Option.map_eq_some_iff.mp h.takes
  rw [parse, reading_option h]
  simp only [found]

/-- Options with values are read back, if and only if every value reads as one. -/
theorem parse_render {pairs : List (String × String)}
    (valued : ∀ p ∈ pairs, Valued options flags p.1) :
    parse options flags (render pairs) =
      if ∀ p ∈ pairs, reading options p.2 = .argument then some (rendered pairs) else none := by
  induction pairs with
  | nil => simp [render, rendered, parse]
  | cons p pairs ih =>
    obtain ⟨name, v⟩ := p
    have tokens : render ((name, v) :: pairs) = name :: v :: render pairs := rfl
    have first := valued (name, v) List.mem_cons_self
    rw [tokens, parse_valued first, ih fun p mem => valued p (List.mem_cons_of_mem _ mem)]
    simp only [List.forall_mem_cons]
    by_cases argument : reading options v = .argument
    · by_cases arguments : ∀ p ∈ pairs, reading options p.2 = .argument
      · rw [if_pos argument, if_pos arguments, if_pos ⟨argument, arguments⟩]
        rfl
      · rw [if_pos argument, if_neg arguments, if_neg fun h => arguments h.2, Option.map_none]
    · rw [if_neg argument, if_neg fun h => argument h.1]

section Values

variable (pairs more : List (String × String)) (name : String)

@[simp] theorem values_nil : values (rendered []) name = [] := rfl

@[simp] theorem values_cons (p : String × String) : values (rendered (p :: pairs)) name =
    if p.1 = name then p.2 :: values (rendered pairs) name else values (rendered pairs) name := by
  by_cases same : p.1 = name
  · simp [values, rendered, same]
  · simp [values, rendered, same]

@[simp] theorem values_append : values (rendered (pairs ++ more)) name =
    values (rendered pairs) name ++ values (rendered more) name := by
  simp [values, rendered]

variable {pairs name} in
theorem values_absent (absent : name ∉ pairs.map Prod.fst) : values (rendered pairs) name = [] := by
  induction pairs with
  | nil => rfl
  | cons p pairs ih =>
    rw [List.map_cons, List.mem_cons, not_or] at absent
    rw [values_cons, if_neg (Ne.symm absent.1), ih absent.2]

variable {pairs} in
theorem mem_values {p : String × String} (mem : p ∈ pairs) : p.2 ∈ values (rendered pairs) p.1 := by
  obtain ⟨before, after, rfl⟩ := List.append_of_mem mem
  simp

theorem any_rendered :
    ((rendered pairs).any fun p => p.1 = name) = !(values (rendered pairs) name).isEmpty := by
  induction pairs with
  | nil => rfl
  | cons p pairs ih =>
    rw [values_cons, rendered, List.map_cons, List.any_cons, ← rendered, ih]
    by_cases same : p.1 = name
    · simp [same]
    · simp [same]

end Values

/-! ## What reads as an argument -/

theorem reading_undashed {t : String} (h : ∀ rest, t.toList ≠ '-' :: rest) :
    reading options t = .argument := by
  unfold reading
  split
  · rename_i rest dashed
    exact absurd dashed (h rest)
  · rfl

theorem isNegative_digits {t : String} {digits : List Char} (text : t.toList = '-' :: digits)
    (some_digit : digits ≠ []) (all : ∀ c ∈ digits, c.isDigit = true) : isNegative t = true := by
  have last : digits.getLast? ≠ some '\n' := by
    intro h
    have newline := all _ (List.mem_of_getLast? h)
    simp at newline
  have number : digits.span Texts.isDecimal = (digits, []) := by
    have decimals : ∀ c ∈ digits, Texts.isDecimal c = true :=
      fun c mem => Texts.isDecimal_digit (all c mem)
    rw [List.span_eq_takeWhile_dropWhile, List.takeWhile_eq_self_iff.mpr decimals,
      List.dropWhile_eq_nil_iff.mpr decimals]
  unfold isNegative
  rw [text]
  simp only [if_neg last, number]
  simpa using some_digit

theorem explicitValue_none {t : String} (absent : '=' ∉ t.toList) : explicitValue t = none := by
  have number : t.toList.span (fun c => decide (c ≠ '=')) = (t.toList, []) := by
    have all : ∀ c ∈ t.toList, decide (c ≠ '=') = true := by
      intro c mem
      simp only [ne_eq, decide_not, Bool.not_eq_true', decide_eq_false_iff_not]
      rintro rfl
      exact absent mem
    rw [List.span_eq_takeWhile_dropWhile, List.takeWhile_eq_self_iff.mpr all,
      List.dropWhile_eq_nil_iff.mpr all]
  rw [explicitValue, number]

section Negative

variable {t : String} {c : Char} {rest : List Char} (text : t.toList = '-' :: c :: rest)
  (unnamed : ∀ o ∈ options, ∀ rest, o.toList ≠ '-' :: c :: rest)
include text unnamed

theorem meanings_unnamed (short : c ≠ '-') : meanings options t = [] := by
  unfold meanings
  rw [text]
  split
  · rename_i separated
    exact absurd (List.cons.inj (List.cons.inj separated).2).1 short
  · rename_i same
    obtain ⟨rfl, rfl⟩ := List.cons.inj (List.cons.inj same).2
    apply List.filterMap_eq_nil_iff.mpr
    intro o mem
    have no_prefix : ('-' :: c :: rest).isPrefixOf o.toList = false := by
      rw [Bool.eq_false_iff]
      intro extended
      obtain ⟨more, same⟩ := List.isPrefixOf_iff_prefix.mp extended
      exact unnamed o mem _ same.symm
    rw [if_neg (unnamed o mem []), no_prefix]
    rfl
  · rfl

theorem reading_negative (all : ∀ d ∈ c :: rest, d.isDigit = true) :
    reading options t = .argument := by
  have short : c ≠ '-' := by
    rintro rfl
    exact absurd (all _ List.mem_cons_self) (by decide)
  have unknown : t ∉ options := fun mem => unnamed t mem rest text
  have apart : t ≠ "--" := by
    rintro rfl
    simp at text
    exact short text.1.symm
  have plain : explicitValue t = none := by
    apply explicitValue_none
    rw [text]
    intro mem
    obtain same | mem := List.mem_cons.mp mem
    · simp at same
    · exact absurd (all _ mem) (by decide)
  have negative := isNegative_digits text (by simp) all
  have meant := meanings_unnamed text unnamed short
  unfold reading
  rw [text]
  simp [unknown, plain, meant, negative, apart]

end Negative

/-- No option looks like a negative number. -/
def unlikeNumbers (options : List String) : Bool :=
  options.all fun o => o.toList[1]?.all fun c => !c.isDigit

theorem unlikeNumbers_second (h : unlikeNumbers options = true) {o : String} (mem : o ∈ options)
    {c : Char} {rest : List Char} (text : o.toList = '-' :: c :: rest) : c.isDigit = false := by
  have second := List.all_eq_true.mp h o mem
  rw [text] at second
  simpa using second

theorem reading_int (h : unlikeNumbers options = true) (n : Int) :
    reading options (toString n) = .argument := by
  cases n with
  | ofNat n =>
    apply reading_undashed
    intro rest dashed
    have minus : '-' ∈ (Nat.repr n).toList := by
      change (Nat.repr n).toList = _ at dashed
      simp [dashed]
    exact absurd (Texts.nat_text_digits minus) (by decide)
  | negSucc n =>
    have text : (toString (Int.negSucc n)).toList = '-' :: (Nat.repr (n + 1)).toList :=
      String.toList_append (s := "-") (t := Nat.repr (n + 1))
    have all : ∀ c ∈ (Nat.repr (n + 1)).toList, c.isDigit = true := fun c => Texts.nat_text_digits
    cases digits : (Nat.repr (n + 1)).toList with
    | nil =>
      rw [Nat.toList_repr] at digits
      exact absurd digits Nat.toDigits_ne_nil
    | cons c rest =>
      rw [digits] at text all
      refine reading_negative text (fun o mem rest same => ?_) all
      have digit := all c List.mem_cons_self
      rw [unlikeNumbers_second h mem same] at digit
      cases digit

end Options
