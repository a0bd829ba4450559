import KubeDataGuard.General.Texts

/-!
# The text format of metrics

A sample is one line: a name, labels in braces and a value. Label values stand
between double quotes, with a backslash before a quote, a backslash and the
`n` of a newline. A reader goes through a line one character at a time; it
reads every written sample back, and a document of such lines.
-/

namespace Exposition

structure Sample where
  name : String
  labels : List (String × String)
  value : Int
  deriving DecidableEq, Repr

/-- A character of the name of a metric or of a label. -/
def nameChar (c : Char) : Bool := c.isAlphanum || c == '_' || c == ':'

def IsName (s : String) : Prop := s ≠ "" ∧ s.toList.all nameChar = true

instance (s : String) : Decidable (IsName s) :=
  inferInstanceAs (Decidable (s ≠ "" ∧ s.toList.all nameChar = true))

theorem IsName.chars {s : String} (h : IsName s) : ∀ c ∈ s.toList, nameChar c = true :=
  List.all_eq_true.mp h.2

structure Sample.Named (s : Sample) : Prop where
  metric : IsName s.name
  labels : ∀ label ∈ s.labels, IsName label.1

/-! ## Writing -/

def escapeChar (c : Char) : List Char :=
  if c = '\\' then ['\\', '\\']
  else if c = '"' then ['\\', '"']
  else if c = '\n' then ['\\', 'n']
  else [c]

def escape (text : List Char) : List Char := text.flatMap escapeChar

def labelChars (label : String × String) : List Char :=
  label.1.toList ++ '=' :: '"' :: (escape label.2.toList ++ ['"'])

def labelsChars (labels : List (String × String)) : List Char :=
  if labels = [] then [] else '{' :: ([','].intercalate (labels.map labelChars) ++ ['}'])

def write (s : Sample) : List Char :=
  s.name.toList ++ (labelsChars s.labels ++ ' ' :: (toString s.value).toList)

/-! ## Reading -/

/-- Where a reader stands in a line. -/
inductive Mode
  | metric
  | key (name : List Char)
  | equals (name : List Char)
  | value (name text : List Char)
  | escaped (name text : List Char)
  | closed
  | blank
  | number (digits : List Char)
  deriving DecidableEq, Repr

structure Scan where
  metric : List Char := []
  labels : List (String × String) := []
  mode : Mode := .metric
  deriving DecidableEq, Repr

def unescape (c : Char) : Option Char :=
  if c = '\\' then some '\\' else if c = '"' then some '"' else if c = 'n' then some '\n' else none

/-- One character of a line. -/
def step (s : Scan) (c : Char) : Option Scan :=
  match s.mode with
  | .metric =>
    if nameChar c then some { s with metric := s.metric ++ [c] }
    else if c = '{' then some { s with mode := .key [] }
    else if c = ' ' then some { s with mode := .number [] }
    else none
  | .key name =>
    if nameChar c then some { s with mode := .key (name ++ [c]) }
    else if c = '=' then some { s with mode := .equals name }
    else none
  | .equals name => if c = '"' then some { s with mode := .value name [] } else none
  | .value name text =>
    if c = '\\' then some { s with mode := .escaped name text }
    else if c = '"' then
      some { s with
        labels := s.labels ++ [(String.ofList name, String.ofList text)]
        mode := .closed }
    else if c = '\n' then none
    else some { s with mode := .value name (text ++ [c]) }
  | .escaped name text =>
    (unescape c).map fun d => { s with mode := .value name (text ++ [d]) }
  | .closed =>
    if c = ',' then some { s with mode := .key [] }
    else if c = '}' then some { s with mode := .blank }
    else none
  | .blank => if c = ' ' then some { s with mode := .number [] } else none
  | .number digits => some { s with mode := .number (digits ++ [c]) }

def readDigits (digits : List Char) : Option Nat :=
  if digits ≠ [] ∧ digits.all Char.isDigit = true then some (Nat.ofDigitChars 10 digits 0) else none

def readInt : List Char → Option Int
  | '-' :: digits => (readDigits digits).map fun n : Nat => -(n : Int)
  | digits => (readDigits digits).map Int.ofNat

def Scan.finish (s : Scan) : Option Sample :=
  match s.mode with
  | .number digits => (readInt digits).map fun n => ⟨String.ofList s.metric, s.labels, n⟩
  | _ => none

def read (line : List Char) : Option Sample := (line.foldlM step {}).bind Scan.finish

/-- A line that is neither blank nor a comment. -/
def isSample (line : List Char) : Bool := line.head?.any (· != '#')

/-- The samples of a document. -/
def readAll (document : List Char) : Option (List Sample) :=
  ((document.splitOn '\n').filter isSample).mapM read

/-! ## What a reader makes of each part -/

variable {metric name text : List Char} {labels : List (String × String)}

theorem scan_append {l m : List Char} {s t : Scan} (h : l.foldlM step s = some t) :
    (l ++ m).foldlM step s = m.foldlM step t := by
  rw [List.foldlM_append, h]
  rfl

theorem scan_cons {c : Char} {l : List Char} {s t : Scan} (h : step s c = some t) :
    (c :: l).foldlM step s = l.foldlM step t := by
  rw [List.foldlM_cons, h]
  rfl

theorem scan_metric {cs : List Char} (named : ∀ c ∈ cs, nameChar c = true) :
    cs.foldlM step ⟨metric, labels, .metric⟩ = some ⟨metric ++ cs, labels, .metric⟩ := by
  induction cs generalizing metric with
  | nil => simp
  | cons c cs ih =>
    have first : step ⟨metric, labels, .metric⟩ c = some ⟨metric ++ [c], labels, .metric⟩ := by
      simp [step, named c List.mem_cons_self]
    rw [scan_cons first, ih fun d hd => named d (List.mem_cons_of_mem c hd), List.append_assoc]
    rfl

theorem scan_key {cs : List Char} (named : ∀ c ∈ cs, nameChar c = true) :
    cs.foldlM step ⟨metric, labels, .key name⟩ = some ⟨metric, labels, .key (name ++ cs)⟩ := by
  induction cs generalizing name with
  | nil => simp
  | cons c cs ih =>
    have first : step ⟨metric, labels, .key name⟩ c = some ⟨metric, labels, .key (name ++ [c])⟩ := by
      simp [step, named c List.mem_cons_self]
    rw [scan_cons first, ih fun d hd => named d (List.mem_cons_of_mem c hd), List.append_assoc]
    rfl

/-- An escaped character is one character of the value. -/
theorem scan_escapeChar (c : Char) :
    (escapeChar c).foldlM step ⟨metric, labels, .value name text⟩ =
      some ⟨metric, labels, .value name (text ++ [c])⟩ := by
  by_cases backslash : c = '\\'
  · subst backslash
    rfl
  by_cases quote : c = '"'
  · subst quote
    rfl
  by_cases newline : c = '\n'
  · subst newline
    rfl
  simp [escapeChar, step, backslash, quote, newline]

theorem scan_escape (value : List Char) :
    (escape value).foldlM step ⟨metric, labels, .value name text⟩ =
      some ⟨metric, labels, .value name (text ++ value)⟩ := by
  induction value generalizing text with
  | nil => simp [escape]
  | cons c value ih =>
    rw [escape, List.flatMap_cons, scan_append (scan_escapeChar c)]
    have rest := @ih (text ++ [c])
    rwa [List.append_assoc] at rest

theorem scan_label {label : String × String} (named : IsName label.1) :
    (labelChars label).foldlM step ⟨metric, labels, .key []⟩ =
      some ⟨metric, labels ++ [label], .closed⟩ := by
  obtain ⟨key, value⟩ := label
  have quoted : step ⟨metric, labels, .equals key.toList⟩ '"' =
      some ⟨metric, labels, .value key.toList []⟩ := rfl
  have equals : step ⟨metric, labels, .key key.toList⟩ '=' =
      some ⟨metric, labels, .equals key.toList⟩ := rfl
  rw [labelChars, scan_append (scan_key named.chars), List.nil_append, scan_cons equals,
    scan_cons quoted, scan_append (scan_escape value.toList), List.nil_append]
  simp [step]

theorem scan_labels {label : String × String} {rest : List (String × String)}
    (named : ∀ l ∈ label :: rest, IsName l.1) :
    ([','].intercalate ((label :: rest).map labelChars)).foldlM step ⟨metric, labels, .key []⟩ =
      some ⟨metric, labels ++ label :: rest, .closed⟩ := by
  induction rest generalizing label labels with
  | nil => simpa using scan_label (named label List.mem_cons_self)
  | cons next rest ih =>
    have comma : step ⟨metric, labels ++ [label], .closed⟩ ',' =
        some ⟨metric, labels ++ [label], .key []⟩ := rfl
    rw [List.map_cons, List.map_cons, List.intercalate_cons_cons, List.append_assoc,
      scan_append (scan_label (named label List.mem_cons_self)), List.singleton_append,
      scan_cons comma, ← List.map_cons, ih fun l hl => named l (List.mem_cons_of_mem label hl)]
    simp

theorem scan_number (digits cs : List Char) :
    cs.foldlM step ⟨metric, labels, .number digits⟩ =
      some ⟨metric, labels, .number (digits ++ cs)⟩ := by
  induction cs generalizing digits with
  | nil => simp
  | cons c cs ih =>
    have first : step ⟨metric, labels, .number digits⟩ c =
        some ⟨metric, labels, .number (digits ++ [c])⟩ := rfl
    rw [scan_cons first, ih, List.append_assoc]
    rfl

/-- From the end of the name to the value, with braces where there are labels. -/
theorem scan_labelsChars {labels : List (String × String)}
    (named : ∀ label ∈ labels, IsName label.1) (cs : List Char) :
    (labelsChars labels ++ ' ' :: cs).foldlM step ⟨metric, [], .metric⟩ =
      some ⟨metric, labels, .number cs⟩ := by
  cases labels with
  | nil =>
    have blank : step ⟨metric, [], .metric⟩ ' ' = some ⟨metric, [], .number []⟩ := rfl
    rw [labelsChars, if_pos rfl, List.nil_append, scan_cons blank, scan_number, List.nil_append]
  | cons label rest =>
    have brace : step ⟨metric, [], .metric⟩ '{' = some ⟨metric, [], .key []⟩ := rfl
    have close : step ⟨metric, label :: rest, .closed⟩ '}' =
        some ⟨metric, label :: rest, .blank⟩ := rfl
    have blank : step ⟨metric, label :: rest, .blank⟩ ' ' =
        some ⟨metric, label :: rest, .number []⟩ := rfl
    rw [labelsChars, if_neg (List.cons_ne_nil label rest), List.cons_append, scan_cons brace,
      List.append_assoc, scan_append (scan_labels named), List.nil_append, List.singleton_append,
      scan_cons close, scan_cons blank, scan_number, List.nil_append]

/-! ## Round trips -/

theorem readDigits_text (n : Nat) : readDigits (Nat.repr n).toList = some n := by
  have digits : (Nat.repr n).toList = Nat.toDigits 10 n := Nat.toList_repr
  have shape : (Nat.repr n).toList ≠ [] ∧ (Nat.repr n).toList.all Char.isDigit = true :=
    ⟨digits ▸ Nat.toDigits_ne_nil, List.all_eq_true.mpr fun c hc => Texts.nat_text_digits hc⟩
  rw [readDigits, if_pos shape, digits, Nat.ofDigitChars_ten_toDigits]

theorem readInt_text (n : Int) : readInt (toString n).toList = some n := by
  cases n with
  | ofNat n =>
    have text : (toString (Int.ofNat n)).toList = (Nat.repr n).toList := rfl
    have first : ∀ digits, (Nat.repr n).toList ≠ '-' :: digits := by
      intro digits h
      have minus : '-' ∈ (Nat.repr n).toList := h ▸ List.mem_cons_self
      exact absurd (Texts.nat_text_digits minus) (by decide)
    rw [text, readInt]
    · rw [readDigits_text, Option.map_some]
    · exact first
  | negSucc n =>
    have text : (toString (Int.negSucc n)).toList = '-' :: (Nat.repr (n + 1)).toList :=
      String.toList_append (s := "-") (t := Nat.repr (n + 1))
    rw [text, readInt, readDigits_text, Option.map_some]
    rfl

/-- A written sample is read back. -/
theorem read_write {s : Sample} (named : s.Named) : read (write s) = some s := by
  rw [read, write, scan_append (scan_metric named.metric.chars), List.nil_append,
    scan_labelsChars named.labels, Option.bind_some]
  simp only [Scan.finish, readInt_text, Option.map_some, String.ofList_toList]

example : read "up\x7bjob=\"a\\\"b\\n\"\x7d -3".toList = some ⟨"up", [("job", "a\"b\n")], -3⟩ := rfl

theorem write_injective {s t : Sample} (hs : s.Named) (ht : t.Named) (h : write s = write t) :
    s = t := by
  have same := read_write hs
  rw [h, read_write ht] at same
  exact (Option.some.inj same).symm

theorem newline_notMem_escape (text : List Char) : '\n' ∉ escape text := by
  intro h
  obtain ⟨c, -, hc⟩ := List.mem_flatMap.mp h
  by_cases newline : c = '\n'
  · subst newline
    exact absurd hc (by decide)
  · simp only [escapeChar] at hc
    split at hc
    · exact absurd hc (by decide)
    split at hc
    · exact absurd hc (by decide)
    · exact newline (List.mem_singleton.mp hc).symm

theorem notMem_intercalate {c x : Char} {parts : List (List Char)} (other : c ≠ x)
    (absent : ∀ part ∈ parts, c ∉ part) : c ∉ [x].intercalate parts := by
  induction parts with
  | nil => exact List.not_mem_nil
  | cons part parts ih =>
    have rest := ih fun p hp => absent p (List.mem_cons_of_mem part hp)
    have first := absent part List.mem_cons_self
    cases parts with
    | nil => rwa [List.intercalate_singleton]
    | cons next parts =>
      rw [List.intercalate_cons_cons]
      simp [first, other, rest]

/-- A written sample is one line. -/
theorem newline_notMem_write {s : Sample} (named : s.Named) : '\n' ∉ write s := by
  have names : ∀ name, IsName name → '\n' ∉ name.toList := by
    intro name hname h
    exact absurd (hname.chars _ h) (by decide)
  have parts : ∀ part ∈ s.labels.map labelChars, '\n' ∉ part := by
    intro part hpart
    obtain ⟨label, hl, rfl⟩ := List.mem_map.mp hpart
    simp [labelChars, names _ (named.labels label hl), newline_notMem_escape]
  have labels : '\n' ∉ labelsChars s.labels := by
    rw [labelsChars]
    split
    · exact List.not_mem_nil
    · simp [notMem_intercalate (show '\n' ≠ ',' by decide) parts]
  have value : '\n' ∉ (toString s.value).toList :=
    Texts.not_mem_int_text (by decide) (by decide)
  simp only [write, List.mem_append, List.mem_cons, not_or]
  exact ⟨names _ named.metric, labels, by decide, value⟩

/-- A line begins with the name of its metric. -/
theorem isSample_write {s : Sample} (named : s.Named) : isSample (write s) = true := by
  cases name : s.name.toList with
  | nil => exact absurd (String.toList_inj.mp (name.trans String.toList_empty.symm)) named.metric.1
  | cons c rest =>
    have first : nameChar c = true := named.metric.chars c (name ▸ List.mem_cons_self)
    rw [write, name, isSample, List.cons_append, List.head?_cons, Option.any_some, bne_iff_ne]
    rintro rfl
    exact absurd first (by decide)

/-- Lines, each with its newline, are a document of the samples among them. -/
theorem readAll_lines {lines : List (List Char)} (single : ∀ line ∈ lines, '\n' ∉ line) :
    readAll (['\n'].intercalate (lines ++ [[]])) = (lines.filter isSample).mapM read := by
  rw [readAll, List.splitOn_intercalate]
  · rw [List.filter_append, List.filter_cons_of_neg (by decide), List.filter_nil, List.append_nil]
  · intro line hline
    rcases List.mem_append.mp hline with hl | hl
    · exact single line hl
    · simp [List.mem_singleton.mp hl]
  · simp

theorem mapM_read_write {samples : List Sample} (named : ∀ s ∈ samples, s.Named) :
    (samples.map write).mapM read = some samples := by
  induction samples with
  | nil => rfl
  | cons s samples ih =>
    rw [List.map_cons, List.mapM_cons, read_write (named s List.mem_cons_self),
      ih fun t ht => named t (List.mem_cons_of_mem s ht)]
    rfl

end Exposition
