import KubeDataGuard.General.Retention
import KubeDataGuard.Worker.ReportStore

/-!
# What a report directory holds

`write_report_artifacts` writes a report and then applies the retention. Over any
number of calls the directory is one of whole families: those of the newest
reports that are not too old, and the copy of the last one.
-/

namespace KubeDataGuard

open Retention

/-- A call: its report, and its clock when it writes and when it cleans up. -/
structure ReportWrite where
  report : DriftReport
  now : Instant
  later : Instant

namespace ReportWrite

variable (w : ReportWrite)

def jsonFile : LocalFile := ⟨jsonName w.now, w.now, .json w.report.toDict⟩

/-- The files that go together. -/
def family : List LocalFile :=
  [w.jsonFile, ⟨markdownName w.now, w.now, .markdown w.report.toDict⟩,
    ⟨compactName w.now, w.now, .compact w.report.toDict⟩]

def latestFile : LocalFile := ⟨latestName, w.now, .json w.report.toDict⟩

/-- The cutoff of the call is past the other one's report. -/
def old (retentionDays : Nat) (b : ReportWrite) : Bool :=
  decide (0 < retentionDays ∧ b.now < w.later - seconds (retentionDays * 86400))

end ReportWrite

def retainLocal (retentionCount retentionDays : Nat) (now : Instant) : Py (List LocalFile) Unit :=
  fun directory => (.ok (), applyLocalRetention retentionCount retentionDays now directory)

/-- The local part of `write_report_artifacts`; where a report cannot be written there is no
retention. -/
def writeLocalArtifacts (print : Printing) (retentionCount retentionDays : Nat) (w : ReportWrite) :
    Py (List LocalFile) Unit := do
  writeReports print w.report w.now
  retainLocal retentionCount retentionDays w.later

/-- The directory after calls, the last one first. -/
def directoryAfter (print : Printing) (retentionCount retentionDays : Nat) :
    List ReportWrite → List LocalFile
  | [] => []
  | w :: writes => (writeLocalArtifacts print retentionCount retentionDays w
      (directoryAfter print retentionCount retentionDays writes)).2

/-- The calls follow each other, no two within a second. -/
def Spaced (writes : List ReportWrite) : Prop :=
  writes.Pairwise fun w before => before.now < w.now ∧ before.later ≤ w.later ∧
    stampText before.now ≠ stampText w.now

/-! ## Names -/

/-- A name is its stamp and its ending. -/
theorem family_name {w : ReportWrite} {f : LocalFile} (mem : f ∈ w.family) :
    ∃ ending : List Char, f.name = "drift-" ++ stampText w.now ++ String.ofList ('.' :: ending) := by
  simp only [ReportWrite.family, List.mem_cons, List.not_mem_nil, or_false] at mem
  obtain rfl | rfl | rfl := mem
  · exact ⟨['j', 's', 'o', 'n'], rfl⟩
  · exact ⟨['m', 'd'], rfl⟩
  · exact ⟨['c', 'o', 'm', 'p', 'a', 'c', 't', '.', 'j', 's', 'o', 'n'], rfl⟩

theorem stamped_inj {t u : Instant} {a b : List Char}
    (same : "drift-" ++ stampText t ++ String.ofList ('.' :: a) =
      "drift-" ++ stampText u ++ String.ofList ('.' :: b)) : stampText t = stampText u ∧ a = b := by
  have chars := drift_name same
  simp only [String.toList_ofList] at chars
  obtain ⟨stamps, endings⟩ := Texts.split_unique (stampText_chars t) (stampText_chars u) chars
  exact ⟨String.toList_inj.mp stamps, endings⟩

theorem family_stamp {w v : ReportWrite} {f g : LocalFile} (hf : f ∈ w.family) (hg : g ∈ v.family)
    (same : f.name = g.name) : stampText w.now = stampText v.now := by
  obtain ⟨a, ha⟩ := family_name hf
  obtain ⟨b, hb⟩ := family_name hg
  rw [ha, hb] at same
  exact (stamped_inj same).1

theorem family_ne_latest {w : ReportWrite} {f : LocalFile} (mem : f ∈ w.family) :
    f.name ≠ latestName := by
  obtain ⟨ending, name⟩ := family_name mem
  intro same
  have chars := congrArg String.toList (name.symm.trans same)
  simp only [String.toList_append, List.append_assoc] at chars
  exact absurd (congrArg List.head? chars) (by simp [latestName])

/-- A report's family is found by its name. -/
theorem reportFamily_jsonName (w : ReportWrite) :
    reportFamily (jsonName w.now) = w.family.map LocalFile.name := by
  have stem : (jsonName w.now).toList.take ((jsonName w.now).toList.length - 5) =
      "drift-".toList ++ (stampText w.now).toList := by
    have chars : (jsonName w.now).toList =
        ("drift-".toList ++ (stampText w.now).toList) ++ ['.', 'j', 's', 'o', 'n'] := by
      simp [jsonName, String.toList_append]
    rw [chars, List.length_append]
    exact List.take_left' (by simp)
  unfold reportFamily
  simp only [stem, String.ofList_append, String.ofList_toList]
  rfl

/-! ## One call -/

section Glob

variable {stamp : List Char}

/-- The pattern and the ending that is left out, of a name without other dots. -/
theorem isReport_chars {f : LocalFile} {ending : List Char}
    (name : f.name.toList = "drift-".toList ++ (stamp ++ ending)) :
    f.isReport = (".json".toList.isSuffixOf (stamp ++ ending) &&
      !".compact.json".toList.isSuffixOf ("drift-".toList ++ (stamp ++ ending))) := by
  have start : "drift-".toList.isPrefixOf ("drift-".toList ++ (stamp ++ ending)) = true :=
    List.isPrefixOf_iff_prefix.mpr (List.prefix_append _ _)
  have rest : ("drift-".toList ++ (stamp ++ ending)).drop 6 = stamp ++ ending :=
    List.drop_left' (by decide)
  unfold LocalFile.isReport
  rw [name, start, rest, Bool.true_and]

theorem json_not_compact (plain : '.' ∉ stamp) :
    ¬".compact.json".toList <:+ "drift-".toList ++ (stamp ++ ".json".toList) := by
  rintro ⟨before, split⟩
  have ending : ".compact.json".toList = ".compact".toList ++ ".json".toList := by decide
  rw [ending, ← List.append_assoc, ← List.append_assoc] at split
  have dotted : '.' ∈ "drift-".toList ++ stamp := by
    rw [← List.append_cancel_right split]
    exact List.mem_append_right _ (by decide)
  obtain drift | there := List.mem_append.mp dotted
  · exact absurd drift (by decide)
  · exact plain there

theorem markdown_not_json : ¬".json".toList <:+ stamp ++ ".md".toList := by
  rintro ⟨before, split⟩
  have last := congrArg List.getLast? split
  rw [List.getLast?_append, List.getLast?_append, show ".json".toList.getLast? = some 'n' by decide,
    show ".md".toList.getLast? = some 'd' by decide] at last
  exact absurd last (by simp)

end Glob

/-- Of a family only the report itself is found by the retention. -/
theorem filter_isReport (w : ReportWrite) : w.family.filter LocalFile.isReport = [w.jsonFile] := by
  have chars : ∀ (f : LocalFile) (ending : String), f.name = "drift-" ++ stampText w.now ++ ending →
      f.name.toList = "drift-".toList ++ ((stampText w.now).toList ++ ending.toList) := by
    intro f ending name
    rw [name, String.toList_append, String.toList_append, List.append_assoc]
  have json : w.jsonFile.isReport = true := by
    rw [isReport_chars (chars w.jsonFile ".json" rfl), Bool.and_eq_true, Bool.not_eq_true',
      Bool.eq_false_iff]
    refine ⟨List.isSuffixOf_iff_suffix.mpr (List.suffix_append _ _), ?_⟩
    exact fun compact =>
      json_not_compact (stampText_chars w.now) (List.isSuffixOf_iff_suffix.mp compact)
  have markdown : LocalFile.isReport ⟨markdownName w.now, w.now, .markdown w.report.toDict⟩ = false := by
    rw [isReport_chars (chars ⟨markdownName w.now, _, _⟩ ".md" rfl), Bool.and_eq_false_iff,
      Bool.eq_false_iff]
    exact Or.inl fun json => markdown_not_json (List.isSuffixOf_iff_suffix.mp json)
  have compact : LocalFile.isReport ⟨compactName w.now, w.now, .compact w.report.toDict⟩ = false := by
    rw [isReport_chars (chars ⟨compactName w.now, _, _⟩ ".compact.json" rfl), ← List.append_assoc,
      List.isSuffixOf_iff_suffix.mpr (List.suffix_append _ _), Bool.not_true, Bool.and_false]
  unfold ReportWrite.family
  rw [List.filter_cons_of_pos json, List.filter_cons_of_neg (by rw [markdown]; nofun),
    List.filter_cons_of_neg (by rw [compact]; nofun), List.filter_nil]

theorem withText_new {directory : List LocalFile} {name : String} {modified : Instant}
    {content : Artifact} (new : ∀ f ∈ directory, f.name ≠ name) :
    withText directory name modified content = ⟨name, modified, content⟩ :: directory := by
  unfold withText
  rw [List.filter_eq_self.mpr fun f mem => decide_eq_true (new f mem)]

theorem withText_perm {directory directory' : List LocalFile} (same : directory.Perm directory')
    (name : String) (modified : Instant) (content : Artifact) :
    (withText directory name modified content).Perm (withText directory' name modified content) :=
  (same.filter _).cons _

theorem withReport_perm {directory directory' : List LocalFile} (same : directory.Perm directory')
    (report : DriftReport) (now : Instant) :
    (withReport directory report now).Perm (withReport directory' report now) :=
  withText_perm (withText_perm (withText_perm (withText_perm same _ _ _) _ _ _) _ _ _) _ _ _

section Write

variable {w : ReportWrite} {writes : List ReportWrite} {copies : List LocalFile}

/-- No file there has a name of the family. -/
theorem family_unused (fresh : ∀ v ∈ writes, stampText v.now ≠ stampText w.now)
    (latest : ∀ f ∈ copies, f.name = latestName) {g : LocalFile} (own : g ∈ w.family) :
    ∀ f ∈ writes.flatMap ReportWrite.family ++ copies, f.name ≠ g.name := by
  intro f mem same
  obtain here | copy := List.mem_append.mp mem
  · obtain ⟨v, hv, hf⟩ := List.mem_flatMap.mp here
    exact fresh v hv (family_stamp hf own same)
  · exact family_ne_latest own (same.symm.trans (latest f copy))

/-- A report under a new stamp adds its family and replaces the copy of the last one. -/
theorem withReport_family (fresh : ∀ v ∈ writes, stampText v.now ≠ stampText w.now)
    (latest : ∀ f ∈ copies, f.name = latestName) :
    (withReport (writes.flatMap ReportWrite.family ++ copies) w.report w.now).Perm
      ((w :: writes).flatMap ReportWrite.family ++ [w.latestFile]) := by
  have unused : ∀ g ∈ w.family, ∀ f ∈ writes.flatMap ReportWrite.family ++ copies, f.name ≠ g.name :=
    fun g own => family_unused fresh latest own
  have own : ∀ g ∈ w.family, g.name ≠ latestName := fun g mem => family_ne_latest mem
  have others : (writes.flatMap ReportWrite.family ++ copies).filter
      (fun f => decide (f.name ≠ latestName)) = writes.flatMap ReportWrite.family := by
    have copied : copies.filter (fun f => decide (f.name ≠ latestName)) = [] :=
      List.filter_eq_nil_iff.mpr fun f mem => by simp [latest f mem]
    rw [List.filter_append, copied, List.append_nil]
    refine List.filter_eq_self.mpr fun f mem => ?_
    obtain ⟨v, -, hf⟩ := List.mem_flatMap.mp mem
    exact decide_eq_true (family_ne_latest hf)
  simp only [ReportWrite.family, List.forall_mem_cons, List.not_mem_nil, false_imp_iff, implies_true,
    and_true] at unused own
  obtain ⟨unnamed, markdown, compact⟩ := unused
  have json : ∀ f ∈ writes.flatMap ReportWrite.family ++ copies, f.name ≠ jsonName w.now := unnamed
  obtain ⟨json_own, markdown_own, compact_own⟩ := own
  have markdown_json : jsonName w.now ≠ markdownName w.now := (jsonName_ne_markdown w.now w.now).symm
  have compact_json : jsonName w.now ≠ compactName w.now := (jsonName_ne_compact w.now w.now).symm
  have compact_markdown : markdownName w.now ≠ compactName w.now := fun same =>
    absurd (stamped_inj (a := ['m', 'd'])
      (b := ['c', 'o', 'm', 'p', 'a', 'c', 't', '.', 'j', 's', 'o', 'n']) same).2 (by decide)
  unfold withReport
  simp only
  rw [withText_new json, withText_new (List.forall_mem_cons.mpr ⟨markdown_json, markdown⟩),
    withText_new (List.forall_mem_cons.mpr ⟨compact_markdown,
      List.forall_mem_cons.mpr ⟨compact_json, compact⟩⟩)]
  unfold withText
  rw [List.filter_cons_of_pos (by exact decide_eq_true compact_own),
    List.filter_cons_of_pos (by exact decide_eq_true markdown_own),
    List.filter_cons_of_pos (by exact decide_eq_true json_own), others]
  refine (List.perm_append_singleton _ _).symm.trans ?_
  rw [List.flatMap_cons]
  exact ((List.reverse_perm w.family).append_right _).append_right [w.latestFile]

end Write

section Retain

variable {retentionCount retentionDays : Nat} {w : ReportWrite} {writes : List ReportWrite}
  {directory : List LocalFile} {copy : LocalFile}

/-- The reports that the retention finds, newest first. -/
theorem reports_newestFirst (same : directory.Perm (writes.flatMap ReportWrite.family ++ [copy]))
    (latest : copy.name = latestName)
    (ordered : writes.Pairwise fun w before => before.now < w.now) :
    (directory.filter LocalFile.isReport).insertionSort (fun a b => b.modified ≤ a.modified) =
      writes.map ReportWrite.jsonFile := by
  have other : copy.isReport = false := by
    unfold LocalFile.isReport
    rw [latest]
    decide
  refine newestFirst_eq LocalFile.modified ?_ (List.pairwise_map.mpr ordered)
  refine (same.filter _).trans (List.Perm.of_eq ?_)
  rw [List.filter_append, List.filter_flatMap, List.filter_cons_of_neg (by rw [other]; nofun),
    List.filter_nil, List.append_nil, List.map_eq_flatMap]
  exact congrArg (fun files => writes.flatMap files) (funext filter_isReport)

/-- The retention dooms the report at an index. -/
def dooms (retentionCount retentionDays : Nat) (w : ReportWrite) (index : Nat) (b : ReportWrite) :
    Bool :=
  decide (0 < retentionCount ∧ retentionCount ≤ index) || w.old retentionDays b

/-- A file stays unless its name is in the family of a doomed report. -/
theorem applyLocalRetention_eq (retentionCount retentionDays : Nat) (w : ReportWrite)
    (same : directory.Perm (writes.flatMap ReportWrite.family ++ [copy]))
    (latest : copy.name = latestName)
    (ordered : writes.Pairwise fun w before => before.now < w.now) :
    ∃ kept : LocalFile → Bool,
      applyLocalRetention retentionCount retentionDays w.later directory = directory.filter kept ∧
      ∀ f, kept f = true ↔ ∀ i b, writes[i]? = some b →
        dooms retentionCount retentionDays w i b = true → ∀ g ∈ b.family, g.name ≠ f.name := by
  unfold applyLocalRetention
  simp only [reports_newestFirst same latest ordered]
  refine ⟨_, rfl, fun f => ?_⟩
  rw [List.all_eq_true]
  constructor
  · intro kept i b found doomed g own name
    have mem : (b.jsonFile, i) ∈ (writes.map ReportWrite.jsonFile).zipIdx :=
      List.mem_zipIdx_iff_getElem?.mpr (by rw [List.getElem?_map, found, Option.map_some])
    have out := kept _ (List.mem_filter.mpr ⟨mem, doomed⟩)
    refine of_decide_eq_true out ?_
    have family : reportFamily b.jsonFile.name = b.family.map LocalFile.name := reportFamily_jsonName b
    rw [family, ← name]
    exact List.mem_map_of_mem own
  · rintro kept ⟨r, i⟩ mem
    obtain ⟨found, doomed⟩ := List.mem_filter.mp mem
    have at_i := List.mem_zipIdx_iff_getElem?.mp found
    rw [List.getElem?_map] at at_i
    obtain ⟨b, hb, rfl⟩ := Option.map_eq_some_iff.mp at_i
    have family : reportFamily b.jsonFile.name = b.family.map LocalFile.name := reportFamily_jsonName b
    refine decide_eq_true ?_
    rw [family]
    intro named
    obtain ⟨g, own, name⟩ := List.mem_map.mp named
    exact kept i b hb doomed g own name

/-- Within a list of calls a stamp tells the index. -/
theorem index_of_stamp (stamps : (writes.map fun w => stampText w.now).Nodup) {i j : Nat}
    {b c : ReportWrite} (hb : writes[i]? = some b) (hc : writes[j]? = some c)
    (same : stampText b.now = stampText c.now) : i = j := by
  have bound : i < (writes.map fun w => stampText w.now).length := by
    rw [List.length_map]
    exact (List.getElem?_eq_some_iff.mp hb).1
  refine (List.getElem?_inj bound stamps).mp ?_
  rw [List.getElem?_map, List.getElem?_map, hb, hc, Option.map_some, Option.map_some, same]

/-- A family stays or goes as a whole. -/
theorem family_kept {kept : LocalFile → Bool} (stamps : (writes.map fun w => stampText w.now).Nodup)
    (rule : ∀ f, kept f = true ↔ ∀ i b, writes[i]? = some b →
      dooms retentionCount retentionDays w i b = true → ∀ g ∈ b.family, g.name ≠ f.name)
    {i : Nat} {b : ReportWrite} (found : writes[i]? = some b) :
    b.family.filter kept =
      if dooms retentionCount retentionDays w i b = true then [] else b.family := by
  split
  · rename_i doomed
    exact List.filter_eq_nil_iff.mpr fun f mem stays =>
      (rule f).mp stays i b found doomed f mem rfl
  · rename_i spared
    refine List.filter_eq_self.mpr fun f mem => (rule f).mpr ?_
    rintro j c hc doomed g own name
    obtain rfl := index_of_stamp stamps hc found (family_stamp own mem name)
    rw [hc] at found
    obtain rfl := Option.some.inj found
    exact spared doomed

/-- After the retention the families are left that are new enough, and the copy. -/
theorem applyLocalRetention_families
    (same : directory.Perm (writes.flatMap ReportWrite.family ++ [copy]))
    (latest : copy.name = latestName) (ordered : writes.Pairwise fun w before => before.now < w.now)
    (stamps : (writes.map fun w => stampText w.now).Nodup) :
    (applyLocalRetention retentionCount retentionDays w.later directory).Perm
      (((limit retentionCount writes).filter fun b => !w.old retentionDays b).flatMap
        ReportWrite.family ++ [copy]) := by
  obtain ⟨kept, retained, rule⟩ :=
    applyLocalRetention_eq retentionCount retentionDays w same latest ordered
  have copied : kept copy = true := (rule copy).mpr fun _ _ _ _ g own name =>
    family_ne_latest own (name.trans latest)
  have families : (writes.flatMap fun b => b.family.filter kept) =
      ((limit retentionCount writes).filter fun b => !w.old retentionDays b).flatMap
        ReportWrite.family := by
    refine flatMap_limit fun i b found => ?_
    rw [family_kept stamps rule found]
    simp only [dooms, Bool.or_eq_true, decide_eq_true_eq]
  rw [retained]
  refine (same.filter kept).trans (List.Perm.of_eq ?_)
  rw [List.filter_append, List.filter_flatMap, families, List.filter_cons_of_pos copied,
    List.filter_nil]

end Retain

/-! ## Calls after one another -/

section Calls

variable {print : Printing} {retentionCount retentionDays : Nat} {w : ReportWrite}
  {writes : List ReportWrite}

theorem Spaced.ordered (spaced : Spaced writes) :
    writes.Pairwise fun w before => before.now < w.now := spaced.imp fun apart => apart.1

theorem Spaced.stamps (spaced : Spaced writes) : (writes.map fun w => stampText w.now).Nodup :=
  List.pairwise_map.mpr (spaced.imp fun apart => apart.2.2.symm)

/-- What is too old for a call is too old for the later ones. -/
theorem Spaced.aging (spaced : Spaced writes) : writes.Pairwise fun later earlier =>
    ∀ b, earlier.old retentionDays b = true → later.old retentionDays b = true := by
  refine spaced.imp fun {later earlier} apart b aged => ?_
  obtain ⟨limited, past⟩ := of_decide_eq_true aged
  exact decide_eq_true ⟨limited, lt_of_lt_of_le past (sub_le_sub_right apart.2.1 _)⟩

/-- What is older than something too old is too old. -/
theorem Spaced.older (spaced : Spaced writes) (c : ReportWrite) : writes.Pairwise fun newer older =>
    c.old retentionDays newer = true → c.old retentionDays older = true := by
  refine spaced.imp fun {newer older} apart aged => ?_
  obtain ⟨limited, past⟩ := of_decide_eq_true aged
  exact decide_eq_true ⟨limited, lt_trans apart.1 past⟩

/-- The copy of the last report, if there was one. -/
def copies (writes : List ReportWrite) : List LocalFile :=
  (writes.head?.map ReportWrite.latestFile).toList

theorem writeLocalArtifacts_rendered (retentionCount retentionDays : Nat)
    (rendered : Returns (renderReports print w.report)) (directory : List LocalFile) :
    writeLocalArtifacts print retentionCount retentionDays w directory =
      (.ok (), applyLocalRetention retentionCount retentionDays w.later
        (withReport directory w.report w.now)) := by
  rw [writeLocalArtifacts, Py.bind_run, writeReports_rendered rendered]
  rfl

/-- Each call pushes its family and trims what is there. -/
theorem directoryAfter_remaining (retentionCount retentionDays : Nat) (spaced : Spaced writes)
    (rendered : ∀ b ∈ writes, Returns (renderReports print b.report)) :
    (directoryAfter print retentionCount retentionDays writes).Perm
      ((remaining retentionCount (fun w => w.old retentionDays) writes).flatMap
        ReportWrite.family ++ copies writes) := by
  induction writes with
  | nil => exact List.Perm.refl []
  | cons w writes ih =>
    obtain ⟨first, rest⟩ := List.pairwise_cons.mp spaced
    have kept := remaining_sublist retentionCount (fun w => w.old retentionDays) writes
    have fresh : ∀ v ∈ remaining retentionCount (fun w => w.old retentionDays) writes,
        stampText v.now ≠ stampText w.now := fun v mem => (first v (kept.subset mem)).2.2
    have latest : ∀ f ∈ copies writes, f.name = latestName := by
      intro f mem
      obtain ⟨v, -, rfl⟩ := Option.map_eq_some_iff.mp (Option.mem_toList.mp mem)
      rfl
    obtain ⟨own, others⟩ := List.forall_mem_cons.mp rendered
    have written := (withReport_perm (ih rest others) w.report w.now).trans
      (withReport_family fresh latest)
    have still : Spaced (w :: remaining retentionCount (fun w => w.old retentionDays) writes) :=
      spaced.sublist (kept.cons_cons w)
    rw [directoryAfter, writeLocalArtifacts_rendered retentionCount retentionDays own]
    exact applyLocalRetention_families written rfl still.ordered still.stamps

end Calls

/-- Three checks, a second apart. -/
def threeChecks : List ReportWrite :=
  [⟨ordersReport "third", 2000000, 2000000⟩, ⟨ordersReport "second", 1000000, 1000000⟩,
    ⟨ordersReport "first", 0, 0⟩]

end KubeDataGuard
