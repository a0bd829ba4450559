import KubeDataGuard.Operator.Reconcile

/-!
# Generated names apart

A label spells its start, the Invariant's name and the check ID, dots turned to
dashes, and is cut before a digest of all that where it is too long. Two runs
share no name unless their names differ in nothing but dots against dashes.
-/

namespace KubeDataGuard

/-! ## Characters -/

/-- A character of a DNS-1123 subdomain. -/
def SubdomainRune (c : Char) : Prop :=
  ('a' ≤ c ∧ c ≤ 'z') ∨ ('0' ≤ c ∧ c ≤ '9') ∨ c = '-' ∨ c = '.'

instance (c : Char) : Decidable (SubdomainRune c) :=
  inferInstanceAs
    (Decidable (('a' ≤ c ∧ c ≤ 'z') ∨ ('0' ≤ c ∧ c ≤ '9') ∨ c = '-' ∨ c = '.'))

/-- The characters of a DNS-1123 subdomain and no others. -/
def SubdomainText (name : String) : Prop := ∀ c ∈ name.toList, SubdomainRune c

instance (name : String) : Decidable (SubdomainText name) := List.decidableBAll SubdomainRune name.toList

/-- What a label keeps of it. -/
def dash (c : Char) : Char := if c = '.' then '-' else c

theorem lowerRune_subdomain {c : Char} (h : SubdomainRune c) : lowerRune c = c := by
  have small : c ≤ 'z' := by
    rcases h with ⟨-, high⟩ | ⟨-, high⟩ | rfl | rfl
    · exact high
    · exact le_trans high (by decide)
    · decide
    · decide
  have capital : ¬('A' ≤ c ∧ c ≤ 'Z') := by
    rintro ⟨low, high⟩
    rcases h with ⟨low', -⟩ | ⟨-, high'⟩ | rfl | rfl
    · exact absurd (le_trans low' high) (by decide)
    · exact absurd (le_trans low high') (by decide)
    · exact absurd low (by decide)
    · exact absurd low (by decide)
  have kelvin : c ≠ Char.ofNat 0x212A := by
    rintro rfl
    exact absurd small (by decide)
  have dotted : c ≠ Char.ofNat 0x130 := by
    rintro rfl
    exact absurd small (by decide)
  unfold lowerRune
  rw [if_neg capital, if_neg kelvin, if_neg dotted]

theorem labelRune_subdomain {c : Char} (h : SubdomainRune c) : labelRune (lowerRune c) = dash c := by
  rw [lowerRune_subdomain h]
  unfold labelRune dash
  by_cases dot : c = '.'
  · rw [dot]
    decide
  · have kept : ('a' ≤ c ∧ c ≤ 'z') ∨ ('0' ≤ c ∧ c ≤ '9') ∨ c = '-' := by
      rcases h with letter | digit | minus | period
      · exact Or.inl letter
      · exact Or.inr (Or.inl digit)
      · exact Or.inr (Or.inr minus)
      · exact absurd period dot
    rw [if_pos kept, if_neg dot]

theorem labelRunes_subdomain {text : List Char} (h : ∀ c ∈ text, SubdomainRune c) :
    (text.map lowerRune).map labelRune = text.map dash := by
  rw [List.map_map]
  exact List.map_congr_left fun c hc => labelRune_subdomain (h c hc)

/-- A text without dots is its own label. -/
def DotFree (text : List Char) : Prop := ∀ c ∈ text, SubdomainRune c ∧ c ≠ '.'

instance (text : List Char) : Decidable (DotFree text) :=
  List.decidableBAll (fun c => SubdomainRune c ∧ c ≠ '.') text

theorem DotFree.runes {text : List Char} (plain : DotFree text) :
    (text.map lowerRune).map labelRune = text := by
  rw [labelRunes_subdomain fun c hc => (plain c hc).1]
  refine (List.map_congr_left fun c hc => ?_).trans (List.map_id _)
  exact if_neg (plain c hc).2

theorem digit_plain {c : Char} (h : c.isDigit = true) : SubdomainRune c ∧ c ≠ '.' := by
  refine ⟨Or.inr (Or.inl ?_), ?_⟩
  · simpa [Char.isDigit, Char.le_def] using h
  · rintro rfl
    exact absurd h (by decide)

/-! ## Check IDs -/

/-- The check IDs of runs: a generation, or a generation and a slot. -/
inductive CheckId : String → Prop
  | generation (n : Nat) : CheckId (generationId n)
  | slot (n m : Nat) : CheckId (slotId n m)

theorem nat_text (n : Nat) : toString (n : Int) = Nat.repr n := rfl

section CheckIds

variable {id : String} (h : CheckId id)

include h

theorem CheckId.plain : DotFree id.toList := by
  have digits : ∀ n : Nat, ∀ c ∈ (Nat.repr n).toList, SubdomainRune c ∧ c ≠ '.' :=
    fun n c hc => digit_plain (Texts.nat_text_digits hc)
  cases h with
  | generation n =>
    rw [generationId_chars, nat_text]
    exact List.forall_mem_cons.mpr ⟨by decide, digits n⟩
  | slot n m =>
    rw [slotId_chars, nat_text, nat_text]
    refine List.forall_mem_append.mpr ⟨List.forall_mem_append.mpr ⟨?_, ?_⟩, ?_⟩
    · exact List.forall_mem_cons.mpr ⟨by decide, digits n⟩
    · exact List.forall_mem_singleton.mpr (by decide)
    · exact List.forall_mem_cons.mpr ⟨by decide, digits m⟩

/-- Its mark is the last `g` of a text that ends in it. -/
theorem CheckId.mark : ∃ rest, id.toList = 'g' :: rest ∧ 'g' ∉ rest := by
  have digits : ∀ n : Nat, 'g' ∉ (Nat.repr n).toList :=
    fun n hg => absurd (Texts.nat_text_digits hg) (by decide)
  cases h with
  | generation n => exact ⟨(Nat.repr n).toList, generationId_chars n, digits n⟩
  | slot n m =>
    refine ⟨(Nat.repr n).toList ++ ['-'] ++ 't' :: (Nat.repr m).toList, slotId_chars n m, ?_⟩
    simp only [List.mem_append, List.mem_cons, List.not_mem_nil, or_false, not_or]
    exact ⟨⟨digits n, by decide⟩, by decide, digits m⟩

/-- It ends in a digit. -/
theorem CheckId.ends : ∃ front c, id.toList = front ++ [c] ∧ c ≠ '-' := by
  have digits : ∀ n : Nat, ∃ front c, (Nat.repr n).toList = front ++ [c] ∧ c ≠ '-' := by
    intro n
    have nonempty : (Nat.repr n).toList ≠ [] := by
      rw [Nat.toList_repr]
      exact Nat.toDigits_ne_nil
    refine ⟨_, _, (List.dropLast_append_getLast nonempty).symm, fun minus => ?_⟩
    have digit := Texts.nat_text_digits (List.getLast_mem nonempty)
    rw [minus] at digit
    cases digit
  cases h with
  | generation n =>
    obtain ⟨front, c, text, digit⟩ := digits n
    refine ⟨'g' :: front, c, ?_, digit⟩
    rw [generationId_chars, nat_text, text, List.cons_append]
  | slot n m =>
    obtain ⟨front, c, text, digit⟩ := digits m
    refine ⟨'g' :: (Nat.repr n).toList ++ ['-'] ++ 't' :: front, c, ?_, digit⟩
    rw [slotId_chars, nat_text, nat_text, text]
    simp

/-- After its last dash come a mark and digits. -/
def Marked (text : List Char) : Prop :=
  ∃ before mark digits, text = before ++ '-' :: mark :: digits ∧ (mark = 'g' ∨ mark = 't') ∧
    ∀ c ∈ digits, c.isDigit = true

theorem CheckId.marked : Marked ('-' :: id.toList) := by
  cases h with
  | generation n =>
    refine ⟨[], 'g', (Nat.repr n).toList, ?_, Or.inl rfl, fun c => Texts.nat_text_digits⟩
    rw [generationId_chars, nat_text]
    rfl
  | slot n m =>
    refine ⟨'-' :: 'g' :: (Nat.repr n).toList, 't', (Nat.repr m).toList, ?_, Or.inr rfl,
      fun c => Texts.nat_text_digits⟩
    rw [slotId_chars, nat_text, nat_text]
    simp

end CheckIds

/-! ## Texts of labels -/

def dashed (name : String) : List Char := name.toList.map dash

/-- The text of a label before it is cut. -/
def labelText (start name id : String) : List Char :=
  start.toList ++ '-' :: (dashed name ++ '-' :: id.toList)

/-- The eight digits a cut label ends in. -/
def labelSuffix (text : List Char) : List Char :=
  (Digest.hex (Digest.sha1 (Digest.utf8 (String.ofList text)))).take 8

def cutLabel (text : List Char) : List Char :=
  if text.length ≤ 63 then text
  else trimDashes (text.take (63 - (labelSuffix text).length - 1)) ++ '-' :: labelSuffix text

/-- It begins and ends in no dash. -/
def Framed (text : List Char) : Prop := ∃ c inner d, text = c :: inner ++ [d] ∧ c ≠ '-' ∧ d ≠ '-'

theorem dropDashes {c : Char} (h : c ≠ '-') (rest : List Char) :
    (c :: rest).dropWhile (· = '-') = c :: rest := by
  rw [List.dropWhile_cons, if_neg (by simpa using h)]

/-- Trimming takes nothing off a framed text, and what follows one it trims at the end only. -/
theorem Framed.trim_append {front : List Char} (h : Framed front) (text : List Char) :
    ∃ kept, kept <+: text ∧ trimDashes (front ++ text) = front ++ kept := by
  obtain ⟨c, inner, d, rfl, hc, hd⟩ := h
  have ahead : (c :: inner ++ [d] ++ text).dropWhile (· = '-') = c :: inner ++ [d] ++ text :=
    dropDashes hc _
  have turned : (c :: inner ++ [d]).reverse = d :: (c :: inner).reverse := by
    rw [List.reverse_append, List.reverse_singleton, List.singleton_append]
  unfold trimDashes
  rw [ahead, List.reverse_append, List.dropWhile_append]
  split
  · refine ⟨[], List.nil_prefix, ?_⟩
    rw [turned, dropDashes hd, ← turned, List.reverse_reverse, List.append_nil]
  · refine ⟨(text.reverse.dropWhile (· = '-')).reverse, ?_, ?_⟩
    · rw [← List.reverse_suffix, List.reverse_reverse]
      exact List.dropWhile_suffix _
    · rw [List.reverse_append, List.reverse_reverse]

theorem Framed.trim {text : List Char} (h : Framed text) : trimDashes text = text := by
  obtain ⟨kept, nothing, trimmed⟩ := h.trim_append []
  rwa [List.prefix_nil.mp nothing, List.append_nil] at trimmed

structure Start (start : String) : Prop where
  plain : DotFree start.toList
  short : start.toList.length ≤ 54
  framed : Framed start.toList

section Texts

variable {start name id : String} (begins : Start start)
  (valid : SubdomainText name) (hid : CheckId id)

include hid in
theorem labelText_marked (start name : String) : Marked (labelText start name id) := by
  obtain ⟨before, mark, digits, text, marked, all⟩ := hid.marked
  refine ⟨start.toList ++ '-' :: (dashed name ++ before), mark, digits, ?_, marked, all⟩
  unfold labelText
  rw [text]
  simp

include begins

/-- Every label shows its start. -/
theorem cutLabel_start (name id : String) :
    ∃ rest, cutLabel (labelText start name id) = start.toList ++ rest := by
  unfold cutLabel
  split
  · exact ⟨_, rfl⟩
  · have eight : (labelSuffix (labelText start name id)).length ≤ 8 := List.length_take_le _ _
    have short := begins.short
    unfold labelText at eight ⊢
    rw [List.take_append, List.take_of_length_le (by omega)]
    obtain ⟨kept, -, trimmed⟩ := begins.framed.trim_append
      (List.take (63 - (labelSuffix (start.toList ++ '-' :: (dashed name ++ '-' :: id.toList))).length -
        1 - start.toList.length) ('-' :: (dashed name ++ '-' :: id.toList)))
    rw [trimmed, List.append_assoc]
    exact ⟨_, rfl⟩

include hid

theorem labelText_framed (name : String) : Framed (labelText start name id) := by
  obtain ⟨c, inner, d, opens, hc, -⟩ := begins.framed
  obtain ⟨front, e, text, digit⟩ := hid.ends
  refine ⟨c, inner ++ d :: '-' :: (dashed name ++ '-' :: front), e, ?_, hc, digit⟩
  unfold labelText
  rw [opens, text]
  simp

include valid

theorem dnsLabel_text : dnsLabel start (name ++ "-" ++ id) =
    String.ofList (cutLabel (labelText start name id)) := by
  have runes : ((start ++ "-" ++ (name ++ "-" ++ id)).toList.map lowerRune).map labelRune =
      labelText start name id := by
    simp only [String.toList_append, List.map_append, begins.plain.runes, hid.plain.runes,
      labelRunes_subdomain valid]
    unfold labelText dashed
    simp [show "-".toList = ['-'] from rfl, show labelRune (lowerRune '-') = '-' by decide]
  have framed := labelText_framed begins hid name
  have nonempty : labelText start name id ≠ [] := by
    obtain ⟨c, inner, d, text, -⟩ := framed
    rw [text]
    exact List.cons_ne_nil c _
  unfold dnsLabel cutLabel labelSuffix
  simp only [runes, framed.trim, if_neg nonempty]
  split <;> rfl

end Texts

/-! ## Labels apart -/

theorem labelText_injective {start name name' id id' : String} (hid : CheckId id)
    (hid' : CheckId id') (h : labelText start name id = labelText start name' id') :
    id = id' ∧ dashed name = dashed name' := by
  obtain ⟨rest, mark, none⟩ := hid.mark
  obtain ⟨rest', mark', none'⟩ := hid'.mark
  unfold labelText at h
  have names := (List.cons.inj (List.append_cancel_left h)).2
  have split : (dashed name ++ ['-']) ++ 'g' :: rest = (dashed name' ++ ['-']) ++ 'g' :: rest' := by
    rw [mark, mark'] at names
    simpa using names
  obtain ⟨before, after⟩ := Texts.split_last_unique none none' split
  refine ⟨String.toList_inj.mp ?_, List.append_cancel_right before⟩
  rw [mark, mark', after]

/-- The digests of two texts differ if the texts do and both are cut. -/
def DigestsApart (text text' : List Char) : Prop :=
  63 < text.length → 63 < text'.length → labelSuffix text = labelSuffix text' → text = text'

theorem labelSuffix_chars {text : List Char} {c : Char} (h : c ∈ labelSuffix text) :
    c ≠ '-' ∧ c ≠ 'g' ∧ c ≠ 't' := by
  have digits : ∀ n < 16, Nat.digitChar n ≠ '-' ∧ Nat.digitChar n ≠ 'g' ∧ Nat.digitChar n ≠ 't' := by
    decide
  obtain ⟨n, rfl⟩ := Digest.hex_digits (List.mem_of_mem_take h)
  exact digits _ (Nat.mod_lt n (by decide))

/-- A text that is not cut does not end like one that is. -/
theorem marked_ne_cut {text : List Char} (marked : Marked text) (kept cut : List Char) :
    text ≠ kept ++ '-' :: labelSuffix cut := by
  intro h
  obtain ⟨before, mark, digits, rfl, hmark, all⟩ := marked
  have free : '-' ∉ mark :: digits := by
    intro mem
    rcases List.mem_cons.mp mem with rfl | digit
    · rcases hmark with hmark | hmark <;> exact absurd hmark (by decide)
    · exact absurd (all _ digit) (by decide)
  obtain ⟨-, same⟩ := Texts.split_last_unique free (fun mem => (labelSuffix_chars mem).1 rfl) h
  have shown : mark ∈ labelSuffix cut := same ▸ List.mem_cons_self
  rcases hmark with rfl | rfl
  · exact (labelSuffix_chars shown).2.1 rfl
  · exact (labelSuffix_chars shown).2.2 rfl

theorem cutLabel_injective {text text' : List Char} (marked : Marked text) (marked' : Marked text')
    (digests : DigestsApart text text') (h : cutLabel text = cutLabel text') : text = text' := by
  unfold cutLabel at h
  split at h <;> split at h
  · exact h
  · exact absurd h (marked_ne_cut marked _ _)
  · exact absurd h.symm (marked_ne_cut marked' _ _)
  · rename_i long long'
    have suffixes := Texts.split_last_unique (fun mem => (labelSuffix_chars mem).1 rfl)
      (fun mem => (labelSuffix_chars mem).1 rfl) h
    exact digests (not_le.mp long) (not_le.mp long') suffixes.2

/-! ## Names of objects -/

inductive ObjectKind
  | job
  | configMap
  deriving DecidableEq, Repr

def objectName : ObjectKind → Duty → String → String → String
  | .job => Duty.jobName
  | .configMap => Duty.configMapName

def nameStart : ObjectKind → Duty → String
  | .job, .check => "dataguard-check"
  | .job, .repair => "dataguard-repair"
  | .configMap, .check => "dataguard-report"
  | .configMap, .repair => "dataguard-repair-report"

theorem objectName_label (kind : ObjectKind) (duty : Duty) (name id : String) :
    objectName kind duty name id = dnsLabel (nameStart kind duty) (name ++ "-" ++ id) := by
  cases kind <;> cases duty <;> rfl

theorem nameStart_start (kind : ObjectKind) (duty : Duty) : Start (nameStart kind duty) := by
  cases kind <;> cases duty <;> refine ⟨by decide, by decide, 'd', ?_⟩
  · exact ⟨"ataguard-chec".toList, 'k', rfl, by decide, by decide⟩
  · exact ⟨"ataguard-repai".toList, 'r', rfl, by decide, by decide⟩
  · exact ⟨"ataguard-repor".toList, 't', rfl, by decide, by decide⟩
  · exact ⟨"ataguard-repair-repor".toList, 't', rfl, by decide, by decide⟩

/-- No start of a kind goes on as the other one. -/
theorem nameStart_apart {kind : ObjectKind} {duty duty' : Duty} {rest rest' : List Char}
    (h : (nameStart kind duty).toList ++ rest = (nameStart kind duty').toList ++ rest') :
    duty = duty' := by
  -- the starts differ within their first fourteen characters
  have heads : (nameStart kind duty).toList.take 14 = (nameStart kind duty').toList.take 14 := by
    have long : ∀ duty, 14 ≤ (nameStart kind duty).toList.length := by
      cases kind <;> rintro (- | -) <;> decide
    have cut := congrArg (List.take 14) h
    rwa [List.take_append_of_le_length (long duty), List.take_append_of_le_length (long duty')] at cut
  revert heads
  cases kind <;> cases duty <;> cases duty' <;> decide

section Names

variable {kind : ObjectKind} {duty duty' : Duty} {name name' id id' : String}
  (valid : SubdomainText name) (valid' : SubdomainText name')
  (hid : CheckId id) (hid' : CheckId id')

include valid hid in
theorem objectName_text (kind : ObjectKind) (duty : Duty) : objectName kind duty name id =
    String.ofList (cutLabel (labelText (nameStart kind duty) name id)) := by
  rw [objectName_label, dnsLabel_text (nameStart_start kind duty) valid hid]

include valid valid' hid hid'

/-- A name shows its duty, its check ID and, but for dots, the Invariant's name. -/
theorem objectName_eq_iff (digests : DigestsApart (labelText (nameStart kind duty) name id)
      (labelText (nameStart kind duty) name' id')) :
    objectName kind duty name id = objectName kind duty' name' id' ↔
      duty = duty' ∧ id = id' ∧ dashed name = dashed name' := by
  rw [objectName_text valid hid, objectName_text valid' hid', String.ofList_inj]
  constructor
  · intro same
    obtain ⟨rest, start⟩ := cutLabel_start (nameStart_start kind duty) name id
    obtain ⟨rest', start'⟩ := cutLabel_start (nameStart_start kind duty') name' id'
    have both := same
    rw [start, start'] at both
    obtain rfl := nameStart_apart both
    have text := cutLabel_injective (labelText_marked hid _ name) (labelText_marked hid' _ name')
      digests same
    exact ⟨rfl, labelText_injective hid hid' text⟩
  · rintro ⟨rfl, rfl, dashes⟩
    unfold labelText
    rw [dashes]

/-- Within each kind the objects of two runs have no name in common exactly when the runs differ
in their check IDs or their names in more than dots against dashes. -/
theorem names_apart_iff (digests : ∀ kind duty,
      DigestsApart (labelText (nameStart kind duty) name id)
        (labelText (nameStart kind duty) name' id')) :
    (∀ kind duty duty', objectName kind duty name id ≠ objectName kind duty' name' id') ↔
      id ≠ id' ∨ dashed name ≠ dashed name' := by
  constructor
  · intro apart
    by_contra same
    rw [not_or, not_not, not_not] at same
    refine apart .job .check .check ?_
    exact (objectName_eq_iff valid valid' hid hid' (digests .job .check)).mpr ⟨rfl, same⟩
  · intro differ kind duty duty' same
    obtain ⟨-, sameId, sameName⟩ :=
      (objectName_eq_iff valid valid' hid hid' (digests kind duty)).mp same
    rcases differ with other | other
    · exact other sameId
    · exact other sameName

end Names

/-- A name whose labels are all cut. -/
def longName : String := "paid-orders-of-the-western-sales-region-by-warehouse"

theorem slot_checkId : CheckId "g1-t5" := by
  have id : slotId 1 5 = "g1-t5" := by decide
  rw [← id]
  exact .slot 1 5

theorem generation_checkId : CheckId "g2" := by
  have id : generationId 2 = "g2" := by decide
  rw [← id]
  exact .generation 2

theorem names_apart_iff_long : "g1-t5" ≠ "g2" ∧ ∀ kind duty duty',
    objectName kind duty longName "g1-t5" ≠ objectName kind duty' longName "g2" := by
  have valid : SubdomainText longName := by decide
  have digests : ∀ kind duty, DigestsApart (labelText (nameStart kind duty) longName "g1-t5")
      (labelText (nameStart kind duty) longName "g2") := by
    intro kind duty _ _ same
    have apart : labelSuffix (labelText (nameStart kind duty) longName "g1-t5") ≠
        labelSuffix (labelText (nameStart kind duty) longName "g2") := by
      cases kind <;> cases duty <;> decide +kernel
    exact absurd same apart
  have other : "g1-t5" ≠ "g2" := by decide
  exact ⟨other, (names_apart_iff valid valid slot_checkId generation_checkId digests).mpr (Or.inl other)⟩

/-- Invariants whose names differ in dots against dashes read each other's reports. -/
theorem shared_reports {c : Cluster} {invariant invariant' : Unstructured} {run : CheckRun}
    (valid : SubdomainText invariant.name) (valid' : SubdomainText invariant'.name)
    (hid : CheckId run.id)
    (generation : invariant.generation = invariant'.generation)
    (dashes : dashed invariant.name = dashed invariant'.name) (duty : Duty) :
    statusFromReportConfigMap c invariant (duty.configMapName invariant.name run.id) run =
      statusFromReportConfigMap c invariant' (duty.configMapName invariant'.name run.id) run := by
  have same : duty.configMapName invariant.name run.id = duty.configMapName invariant'.name run.id := by
    have text := objectName_text valid hid .configMap duty
    have text' := objectName_text valid' hid .configMap duty
    unfold labelText at text text'
    rw [dashes] at text
    exact text.trans text'.symm
  unfold statusFromReportConfigMap
  rw [same, generation]

def versionedInvariant (name : String) : Unstructured where
  ns := "default"
  name := name
  uid := 0
  generation := 1
  annotations := []
  object := []

/-- A namespace with one report, of the Invariant whose name has the dash. -/
def versionedReports : Cluster where
  ns := "default"
  now := 0
  nextUid := 0
  invariants := fun _ => none
  jobs := fun _ => none
  configMaps := Function.update (fun _ => none) (reportConfigMapName "orders-v1" "g1-t5")
    (some ⟨.json (.obj [("phase", .str "Healthy"), ("observedGeneration", .int 1),
      ("checkID", .str "g1-t5")]), .empty, .empty⟩)
  policies := []
  derivedViews := fun _ => none
  dataSources := fun _ => none
  serviceAccounts := []
  roles := []
  roleBindings := []

theorem shared_reports_dotted :
    statusFromReportConfigMap versionedReports (versionedInvariant "orders.v1")
        (reportConfigMapName "orders.v1" "g1-t5") { id := "g1-t5" } =
      statusFromReportConfigMap versionedReports (versionedInvariant "orders-v1")
        (reportConfigMapName "orders-v1" "g1-t5") { id := "g1-t5" } :=
  @shared_reports versionedReports (versionedInvariant "orders.v1") (versionedInvariant "orders-v1")
    { id := "g1-t5" } (by decide) (by decide) slot_checkId rfl (by decide) .check

/-! ## Two names that are one label -/

theorem dotted_text (start : String) :
    labelText start "orders.v1" "g1-t5" = labelText start "orders-v1" "g1-t5" := by
  have dashes : dashed "orders.v1" = dashed "orders-v1" := by decide
  unfold labelText
  rw [dashes]

theorem dotted_name_collides :
    "orders.v1" ≠ "orders-v1" ∧
    SubdomainText "orders.v1" ∧ SubdomainText "orders-v1" ∧
    CheckId "g1-t5" ∧
    (∀ kind duty, DigestsApart (labelText (nameStart kind duty) "orders.v1" "g1-t5")
      (labelText (nameStart kind duty) "orders-v1" "g1-t5")) ∧
    ∀ kind duty,
      objectName kind duty "orders.v1" "g1-t5" = objectName kind duty "orders-v1" "g1-t5" := by
  have valid : SubdomainText "orders.v1" := by decide
  have valid' : SubdomainText "orders-v1" := by decide
  refine ⟨by decide, valid, valid', slot_checkId, fun kind duty _ _ _ => dotted_text _, ?_⟩
  intro kind duty
  rw [objectName_text valid slot_checkId, objectName_text valid' slot_checkId, dotted_text]

end KubeDataGuard
