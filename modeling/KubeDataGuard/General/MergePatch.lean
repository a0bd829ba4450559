import Mathlib.Logic.Function.Basic
import Mathlib.Tactic.TypeStar

/-!
# Merge patches

Documents as trees: nulls, leaves, and nodes with members. `merge` applies a
merge patch, in which a null stands for a removal; `diff` is the patch with
what differs between two documents and nothing else.

* `merge_diff`: a difference turns the document it starts from into a document
  without nulls;
* `read_merge_diff`: applied to any other document, each path reads as wanted
  or as it did, the latter only where no difference was seen.
-/

namespace MergePatch

inductive Tree (κ α : Type*)
  | null
  | leaf (a : α)
  | node (members : κ → Option (Tree κ α))

variable {κ α : Type*}

/-- Induction with a case for each constructor, over the members there are. -/
@[elab_as_elim] theorem Tree.induction {motive : Tree κ α → Prop} (null : motive .null)
    (leaf : ∀ a, motive (.leaf a))
    (node : ∀ members, (∀ k t, members k = some t → motive t) → motive (.node members))
    (t : Tree κ α) : motive t := by
  refine @Tree.rec κ α motive (fun member => ∀ t, member = some t → motive t) null leaf ?_ ?_ ?_ t
  · intro members ih
    exact node members ih
  · nofun
  · rintro t ih _ ⟨⟩
    exact ih

namespace Tree

/-- Only a node has members. -/
def members : Tree κ α → κ → Option (Tree κ α)
  | node m => m
  | _ => fun _ => none

/-- The leaf at the end of a path. -/
def read : Tree κ α → List κ → Option α
  | leaf a, [] => some a
  | node m, k :: path => (m k).bind fun t => t.read path
  | _, _ => none

/-- No null stands anywhere. -/
inductive NullFree : Tree κ α → Prop
  | leaf (a : α) : NullFree (leaf a)
  | node (m : κ → Option (Tree κ α)) (members : ∀ k t, m k = some t → NullFree t) :
      NullFree (node m)

@[simp] theorem read_null (path : List κ) : (null : Tree κ α).read path = none := by
  cases path <;> rfl

@[simp] theorem members_node (m : κ → Option (Tree κ α)) : (node m).members = m := rfl

theorem read_cons (t : Tree κ α) (k : κ) (path : List κ) :
    t.read (k :: path) = (t.members k).bind fun t => t.read path := by
  cases t <;> rfl

@[simp] theorem read_leaf_cons (a : α) (k : κ) (path : List κ) :
    (leaf a : Tree κ α).read (k :: path) = none := rfl

@[simp] theorem read_node_nil (m : κ → Option (Tree κ α)) : (node m).read [] = none := rfl

theorem read_getD (member : Option (Tree κ α)) (path : List κ) :
    (member.getD null).read path = member.bind fun t => t.read path := by
  cases member with
  | none => exact read_null path
  | some t => rfl

theorem NullFree.member {m : κ → Option (Tree κ α)} (h : (Tree.node m).NullFree) {k : κ}
    {t : Tree κ α} (mem : m k = some t) : t.NullFree := by
  cases h with
  | node _ members => exact members k t mem

end Tree

open MergePatch.Tree

mutual

/-- A patch that is no node replaces; a node merges member by member. -/
def merge : Tree κ α → Tree κ α → Tree κ α
  | t, .node patch => .node fun k => mergeMember (t.members k) (patch k)
  | _, .leaf a => .leaf a
  | _, .null => .null

def mergeMember : Option (Tree κ α) → Option (Tree κ α) → Option (Tree κ α)
  | member, none => member
  | _, some .null => none
  | member, some patch => some (merge (member.getD .null) patch)

end

open Classical in
mutual

/-- What a patch says of a member: nothing where it is the same, a null where it went. -/
noncomputable def change : Option (Tree κ α) → Option (Tree κ α) → Option (Tree κ α)
  | member, none => member.map fun _ => .null
  | none, some new => some new
  | some old, some new => if old = new then none else some (diff old new)

/-- The patch from one document to another: where both are nodes, their changes. -/
noncomputable def diff : Tree κ α → Tree κ α → Tree κ α
  | .node old, .node new => .node fun k => change (old k) (new k)
  | _, new => new

end

theorem merge_node (t : Tree κ α) (patch : κ → Option (Tree κ α)) :
    merge t (.node patch) = .node fun k => mergeMember (t.members k) (patch k) := by
  rw [merge]

theorem mergeMember_some {patch : Tree κ α} (filled : patch.NullFree) (member : Option (Tree κ α)) :
    mergeMember member (some patch) = some (merge (member.getD .null) patch) := by
  cases filled <;> rw [mergeMember] <;> nofun

/-! ## A patch without nulls adds -/

/-- Merged into nothing a document is itself. -/
theorem merge_bare {t : Tree κ α} (bare : t.members = fun _ => none) {patch : Tree κ α}
    (filled : patch.NullFree) : merge t patch = patch := by
  induction patch using Tree.induction generalizing t with
  | null => cases filled
  | leaf a => rw [merge]
  | node m ih =>
    rw [merge_node, bare]
    congr 1
    funext k
    cases member : m k with
    | none => rw [mergeMember]
    | some c =>
      have below := filled.member member
      rw [mergeMember_some below, ih k c member rfl below]

/-- A path reads as the patch says, or as before where the patch says nothing. -/
theorem read_merge {patch : Tree κ α} (filled : patch.NullFree) (t : Tree κ α) (path : List κ) :
    (merge t patch).read path = patch.read path ∨
      patch.read path = none ∧ (merge t patch).read path = t.read path := by
  induction patch using Tree.induction generalizing t path with
  | null => cases filled
  | leaf a => exact Or.inl (by rw [merge])
  | node m ih =>
    rw [merge_node]
    cases path with
    | nil => exact Or.inl rfl
    | cons k path =>
      rw [read_cons, read_cons, read_cons t]
      simp only [members_node]
      cases member : m k with
      | none => exact Or.inr ⟨rfl, by rw [mergeMember]⟩
      | some c =>
        have below := filled.member member
        rw [mergeMember_some below]
        rcases ih k c member below ((t.members k).getD .null) path with wanted | ⟨silent, kept⟩
        · exact Or.inl wanted
        · exact Or.inr ⟨silent, kept.trans (read_getD _ _)⟩

/-! ## Differences -/

theorem diff_node (old new : κ → Option (Tree κ α)) :
    diff (.node old) (.node new) = .node fun k => change (old k) (new k) := by
  rw [diff]

theorem diff_leaf (old : Tree κ α) (a : α) : diff old (.leaf a) = .leaf a := by
  rw [diff]
  nofun

/-- What is no node is replaced as a whole. -/
theorem diff_bare {old : Tree κ α} (bare : ∀ x, old ≠ .node x) (new : Tree κ α) :
    diff old new = new := by
  rw [diff]
  rintro x y rfl
  exact absurd rfl (bare x)

theorem change_same (member : Option (Tree κ α)) : change member member = none := by
  cases member with
  | none => rw [change, Option.map_none]
  | some t => rw [change, if_pos rfl]

theorem change_differs {old new : Tree κ α} (h : old ≠ new) :
    change (some old) (some new) = some (diff old new) := by
  rw [change, if_neg h]

/-- A difference to a document without nulls removes nothing as a whole. -/
theorem mergeMember_diff {old new : Tree κ α} (filled : new.NullFree) (member : Option (Tree κ α)) :
    mergeMember member (some (diff old new)) = some (merge (member.getD .null) (diff old new)) := by
  have removes : diff old new ≠ .null := by
    cases filled with
    | leaf a =>
      rw [diff_leaf]
      nofun
    | node y =>
      cases old with
      | node x =>
        rw [diff_node]
        nofun
      | _ =>
        rw [diff_bare (by simp)]
        nofun
  rw [mergeMember]
  exact removes

section Member

variable {old new : Option (Tree κ α)} (filled : ∀ t, new = some t → t.NullFree)
include filled

theorem mergeMember_change_of (below : ∀ a b, old = some a → new = some b → merge a (diff a b) = b) :
    mergeMember old (change old new) = new := by
  cases new with
  | none => cases old <;> rw [change] <;> simp [mergeMember]
  | some b =>
    have filled := filled b rfl
    cases old with
    | none => rw [change, mergeMember_some filled, Option.getD_none, merge_bare rfl filled]
    | some a =>
      by_cases same : a = b
      · rw [same, change_same, mergeMember]
      · rw [change_differs same, mergeMember_diff filled, Option.getD_some, below a b rfl rfl]

theorem read_change_of {path : List κ} (member : Option (Tree κ α))
    (below : ∀ a b t, old = some a → new = some b →
      (merge t (diff a b)).read path = b.read path ∨
        a.read path = b.read path ∧ (merge t (diff a b)).read path = t.read path) :
    ((mergeMember member (change old new)).bind fun t => t.read path) =
        (new.bind fun t => t.read path) ∨
      ((old.bind fun t => t.read path) = new.bind fun t => t.read path) ∧
        ((mergeMember member (change old new)).bind fun t => t.read path) =
          member.bind fun t => t.read path := by
  cases new with
  | none =>
    cases old with
    | none => exact Or.inr ⟨rfl, by rw [change, Option.map_none, mergeMember]⟩
    | some a => exact Or.inl (by rw [change, Option.map_some, mergeMember])
  | some b =>
    have filled := filled b rfl
    cases old with
    | none =>
      rw [change, mergeMember_some filled]
      rcases read_merge filled (member.getD .null) path with wanted | ⟨silent, kept⟩
      · exact Or.inl wanted
      · exact Or.inr ⟨silent.symm, kept.trans (read_getD _ _)⟩
    | some a =>
      by_cases same : a = b
      · rw [same, change_same, mergeMember]
        exact Or.inr ⟨rfl, rfl⟩
      · rw [change_differs same, mergeMember_diff filled]
        rcases below a b (member.getD .null) rfl rfl with wanted | ⟨agreed, kept⟩
        · exact Or.inl wanted
        · exact Or.inr ⟨agreed, kept.trans (read_getD _ _)⟩

end Member

/-- The difference installs the new document on the one it was taken from. -/
theorem merge_diff {old new : Tree κ α} (filled : new.NullFree) : merge old (diff old new) = new := by
  induction new using Tree.induction generalizing old with
  | null => cases filled
  | leaf a => rw [diff_leaf, merge]
  | node y ih =>
    cases old with
    | node x =>
      rw [diff_node, merge_node]
      congr 1
      funext k
      exact mergeMember_change_of (fun _ => filled.member)
        fun _ b _ new => ih k b new (filled.member new)
    | _ =>
      rw [diff_bare (by simp)]
      exact merge_bare rfl filled

/-- On any other document a path reads as wanted, or as it did where the old
document read as the new one there. -/
theorem read_merge_diff {old new : Tree κ α} (filled : new.NullFree) (t : Tree κ α)
    (path : List κ) :
    (merge t (diff old new)).read path = new.read path ∨
      old.read path = new.read path ∧ (merge t (diff old new)).read path = t.read path := by
  induction new using Tree.induction generalizing old t path with
  | null => cases filled
  | leaf a => exact Or.inl (by rw [diff_leaf, merge])
  | node y ih =>
    by_cases nodes : ∃ x, old = .node x
    · obtain ⟨x, rfl⟩ := nodes
      rw [diff_node, merge_node]
      cases path with
      | nil => exact Or.inl rfl
      | cons k path =>
        rw [read_cons, read_cons, read_cons _ k, read_cons t]
        exact read_change_of (fun _ => filled.member) _
          fun _ b t _ new => ih k b new (filled.member new) t path
    · have bare : ∀ x, old ≠ .node x := fun x hx => nodes ⟨x, hx⟩
      rw [diff_bare bare]
      rcases read_merge filled t path with wanted | ⟨silent, kept⟩
      · exact Or.inl wanted
      · cases path with
        | nil => exact Or.inl (by rw [merge_node]; rfl)
        | cons k path =>
          have unread : old.read (k :: path) = none := by
            cases old with
            | node x => exact absurd rfl (bare x)
            | _ => rfl
          exact Or.inr ⟨unread.trans silent.symm, kept⟩

section Member

variable {old new : Option (Tree κ α)} (filled : ∀ t, new = some t → t.NullFree)
include filled

theorem mergeMember_change : mergeMember old (change old new) = new :=
  mergeMember_change_of filled fun _ b _ new => merge_diff (filled b new)

theorem read_change (member : Option (Tree κ α)) (path : List κ) :
    ((mergeMember member (change old new)).bind fun t => t.read path) =
        (new.bind fun t => t.read path) ∨
      ((old.bind fun t => t.read path) = new.bind fun t => t.read path) ∧
        ((mergeMember member (change old new)).bind fun t => t.read path) =
          member.bind fun t => t.read path :=
  read_change_of filled member fun _ b t _ new => read_merge_diff (filled b new) t path

end Member

end MergePatch
