import Mathlib.Data.List.DropRight
import KubeDataGuard.Operator.Labels

/-!
# Generated names are labels

Whatever text a name is made from, `dnsLabel` yields a DNS-1123 label, and a
text that is one already stays as it is.
-/

namespace KubeDataGuard

def Alphanumeric (c : Char) : Prop := ('a' ≤ c ∧ c ≤ 'z') ∨ ('0' ≤ c ∧ c ≤ '9')

instance (c : Char) : Decidable (Alphanumeric c) :=
  inferInstanceAs (Decidable (('a' ≤ c ∧ c ≤ 'z') ∨ ('0' ≤ c ∧ c ≤ '9')))

/-- The text of a label, of any length. -/
structure LabelText (text : List Char) : Prop where
  nonempty : 1 ≤ text.length
  chars : ∀ c ∈ text, Alphanumeric c ∨ c = '-'
  starts : ∀ c, text.head? = some c → Alphanumeric c
  ends : ∀ c, text.getLast? = some c → Alphanumeric c

/-- A DNS-1123 label. -/
structure ValidLabel (text : List Char) : Prop extends LabelText text where
  short : text.length ≤ 63

theorem Alphanumeric.ne_dash {c : Char} (h : Alphanumeric c) : c ≠ '-' := by
  rintro rfl
  exact absurd h (by decide)

theorem labelChars_of_all {text : List Char}
    (h : (text.all fun c => decide (Alphanumeric c ∨ c = '-')) = true) :
    ∀ c ∈ text, Alphanumeric c ∨ c = '-' :=
  fun c hc => of_decide_eq_true (List.all_eq_true.mp h c hc)

/-! ## Trimming -/

section Trim

variable {text : List Char}

theorem trimDashes_eq (text : List Char) :
    trimDashes text = (text.dropWhile (· = '-')).rdropWhile (· = '-') := rfl

theorem trimDashes_subset (text : List Char) : trimDashes text ⊆ text := by
  rw [trimDashes_eq]
  exact List.Subset.trans (List.rdropWhile_prefix _ _).subset (List.dropWhile_subset _)

theorem trimDashes_length (text : List Char) : (trimDashes text).length ≤ text.length := by
  rw [trimDashes_eq]
  exact le_trans (List.rdropWhile_prefix _ _).length_le (List.dropWhile_suffix _).length_le

/-- A text that opens with no dash keeps its first character. -/
theorem trimDashes_opens {c : Char} (h : c ≠ '-') (rest : List Char) :
    ∃ kept, trimDashes (c :: rest) = c :: kept := by
  rw [trimDashes_eq, dropDashes h]
  obtain ⟨tail, whole⟩ := List.rdropWhile_prefix (fun d => decide (d = '-')) (l := c :: rest)
  cases front : (c :: rest).rdropWhile fun d => decide (d = '-') with
  | nil =>
    have dash := List.rdropWhile_eq_nil_iff.mp front c List.mem_cons_self
    exact absurd (of_decide_eq_true dash) h
  | cons d kept =>
    rw [front] at whole
    exact ⟨kept, by rw [(List.cons.inj whole).1]⟩

theorem trimDashes_head {c : Char} (h : (trimDashes text).head? = some c) : c ≠ '-' := by
  rw [trimDashes_eq] at h
  obtain ⟨kept, front⟩ := List.head?_eq_some_iff.mp h
  obtain ⟨tail, whole⟩ :=
    List.rdropWhile_prefix (fun d => decide (d = '-')) (l := text.dropWhile (· = '-'))
  rw [front] at whole
  have first := List.head?_dropWhile_not (fun d => decide (d = '-')) text
  rw [← whole] at first
  exact of_decide_eq_false first

theorem trimDashes_last {c : Char} (h : (trimDashes text).getLast? = some c) : c ≠ '-' := by
  rw [trimDashes_eq] at h
  obtain ⟨filled, rfl⟩ := List.mem_getLast?_eq_getLast h
  simpa using List.rdropWhile_last_not _ _ filled

theorem trimDashes_whole (starts : ∀ c, text.head? = some c → c ≠ '-')
    (ends : ∀ c, text.getLast? = some c → c ≠ '-') : trimDashes text = text := by
  have front : text.dropWhile (· = '-') = text := by
    cases text with
    | nil => rfl
    | cons c rest => exact dropDashes (starts c rfl) rest
  rw [trimDashes_eq, front, List.rdropWhile_eq_self_iff]
  intro filled
  simpa using ends _ (List.getLast?_eq_some_getLast filled)

end Trim

/-! ## Label characters -/

theorem labelRune_char (c : Char) : Alphanumeric (labelRune c) ∨ labelRune c = '-' := by
  unfold labelRune
  split
  · rename_i kept
    rcases kept with letter | digit | dash
    · exact Or.inl (Or.inl letter)
    · exact Or.inl (Or.inr digit)
    · exact Or.inr dash
  · exact Or.inr rfl

/-- Trimmed runes are the text of a label, unless nothing is left. -/
theorem trimmed_label (runes : List Char) (left : trimDashes (runes.map labelRune) ≠ []) :
    LabelText (trimDashes (runes.map labelRune)) := by
  have chars : ∀ c ∈ trimDashes (runes.map labelRune), Alphanumeric c ∨ c = '-' := by
    intro c mem
    obtain ⟨rune, -, rfl⟩ := List.mem_map.mp (trimDashes_subset _ mem)
    exact labelRune_char rune
  refine ⟨List.length_pos_of_ne_nil left, chars, ?_, ?_⟩
  · intro c first
    exact (chars c (List.mem_of_head? first)).resolve_right (trimDashes_head first)
  · intro c last
    exact (chars c (List.mem_of_getLast? last)).resolve_right (trimDashes_last last)

theorem labelSuffix_length (text : List Char) : (labelSuffix text).length = 8 := by
  unfold labelSuffix
  rw [List.length_take, Digest.hex_length, Digest.sha1_length]
  rfl

theorem labelSuffix_alphanumeric {text : List Char} {c : Char} (mem : c ∈ labelSuffix text) :
    Alphanumeric c := by
  obtain ⟨n, rfl⟩ := Digest.hex_digits (List.mem_of_mem_take mem)
  obtain digit | ⟨low, high⟩ := Digest.hexDigit_range n
  · exact Or.inr digit
  · exact Or.inl ⟨low, le_trans high (by decide)⟩

/-- Cutting the text of a label leaves a label. -/
theorem cutLabel_valid {text : List Char} (label : LabelText text) : ValidLabel (cutLabel text) := by
  unfold cutLabel
  split
  · rename_i short
    exact { label with short := short }
  rename_i long
  have eight := labelSuffix_length text
  rw [eight]
  obtain ⟨first, rest, rfl⟩ := List.exists_cons_of_length_pos label.nonempty
  have opens := label.starts first rfl
  obtain ⟨kept, front⟩ := trimDashes_opens opens.ne_dash (rest.take 53)
  have taken : (first :: rest).take (63 - 8 - 1) = first :: rest.take 53 := rfl
  have cut : (first :: kept).length ≤ 54 := by
    rw [← front, ← taken]
    exact le_trans (trimDashes_length _) (List.length_take_le _ _)
  rw [taken, front]
  refine ⟨⟨?_, ?_, ?_, ?_⟩, ?_⟩
  · simp
  · intro c mem
    obtain mem | mem := List.mem_append.mp mem
    · rw [← front] at mem
      have held := trimDashes_subset _ mem
      rw [← taken] at held
      exact label.chars c (List.mem_of_mem_take held)
    · obtain rfl | mem := List.mem_cons.mp mem
      · exact Or.inr rfl
      · exact Or.inl (labelSuffix_alphanumeric mem)
  · intro c head
    obtain rfl := Option.some.inj head
    exact opens
  · intro c last
    have filled : labelSuffix (first :: rest) ≠ [] := by
      rw [← List.length_pos_iff_ne_nil]
      omega
    rw [List.getLast?_append_of_ne_nil _ (List.cons_ne_nil _ _), List.getLast?_cons_of_ne_nil filled]
      at last
    exact labelSuffix_alphanumeric (List.mem_of_getLast? last)
  · have tail : ('-' :: labelSuffix (first :: rest)).length = 9 := congrArg (· + 1) eight
    rw [List.length_append, tail]
    omega

/-! ## Every name -/

/-- What is left of a text when it is cleaned. -/
def cleanLabel (text : List Char) : List Char :=
  if trimDashes ((text.map lowerRune).map labelRune) = [] then "dataguard".toList
  else trimDashes ((text.map lowerRune).map labelRune)

theorem dnsLabel_eq (start value : String) :
    dnsLabel start value = String.ofList (cutLabel (cleanLabel (start ++ "-" ++ value).toList)) := by
  unfold dnsLabel cutLabel labelSuffix cleanLabel
  simp only
  generalize (if trimDashes (((start ++ "-" ++ value).toList.map lowerRune).map labelRune) = [] then
    "dataguard".toList else _) = text
  split <;> rfl

theorem cleanLabel_label (text : List Char) : LabelText (cleanLabel text) := by
  unfold cleanLabel
  split
  · refine ⟨by decide, labelChars_of_all (by decide), ?_, ?_⟩
    · rintro c ⟨⟩
      decide
    · intro c last
      obtain rfl : 'd' = c := Option.some.inj last
      decide
  · rename_i left
    exact trimmed_label _ left

/-- The text of a label is clean. -/
theorem cleanLabel_whole {text : List Char} (label : LabelText text) : cleanLabel text = text := by
  have plain : DotFree text := by
    intro c mem
    rcases label.chars c mem with (letter | digit) | rfl
    · exact ⟨Or.inl letter, by rintro rfl; exact absurd letter (by decide)⟩
    · exact ⟨Or.inr (Or.inl digit), by rintro rfl; exact absurd digit (by decide)⟩
    · decide
  have whole := trimDashes_whole (fun c head => (label.starts c head).ne_dash)
    (fun c last => (label.ends c last).ne_dash)
  have filled : text ≠ [] := List.length_pos_iff_ne_nil.mp label.nonempty
  unfold cleanLabel
  rw [plain.runes, whole, if_neg filled]

/-- Every generated name is a label, and a label is left as it is. -/
theorem dnsLabel_valid (start value : String) :
    ValidLabel (dnsLabel start value).toList ∧
      (ValidLabel (start ++ "-" ++ value).toList → dnsLabel start value = start ++ "-" ++ value) := by
  rw [dnsLabel_eq, String.toList_ofList]
  refine ⟨cutLabel_valid (cleanLabel_label _), fun label => ?_⟩
  rw [cleanLabel_whole label.toLabelText, cutLabel, if_pos label.short, String.ofList_toList]

theorem dnsLabel_valid_orders :
    dnsLabel "dataguard-check" "orders-g1" = "dataguard-check-orders-g1" := by
  refine (dnsLabel_valid "dataguard-check" "orders-g1").2 ⟨⟨by decide, ?_, ?_, ?_⟩, by decide⟩
  · exact labelChars_of_all (by decide)
  · rintro c ⟨⟩
    decide
  · rintro c ⟨⟩
    decide

end KubeDataGuard
