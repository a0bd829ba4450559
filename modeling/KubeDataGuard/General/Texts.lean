import Mathlib.Data.List.Basic

/-!
# Texts that can be taken apart

Numbers printed between separators are read back uniquely: a printed integer
holds digits and at most a minus sign, so a separator ends it. The decimal
digits of the other scripts are read as those of ASCII are.
-/

namespace Texts

theorem split_unique {α : Type*} {c : α} {a a' b b' : List α} (ha : c ∉ a) (ha' : c ∉ a')
    (h : a ++ c :: b = a' ++ c :: b') : a = a' ∧ b = b' := by
  induction a generalizing a' with
  | nil =>
    cases a' with
    | nil => exact ⟨rfl, (List.cons.inj h).2⟩
    | cons x a' => exact absurd (List.cons.inj h).1 (fun hx => ha' (hx ▸ List.mem_cons_self))
  | cons x a ih =>
    cases a' with
    | nil => exact absurd (List.cons.inj h).1.symm (fun hx => ha (hx ▸ List.mem_cons_self))
    | cons y a' =>
      obtain ⟨rfl, rest⟩ := List.cons.inj h
      obtain ⟨rfl, rfl⟩ := ih (fun hm => ha (List.mem_cons_of_mem _ hm))
        (fun hm => ha' (List.mem_cons_of_mem _ hm)) rest
      exact ⟨rfl, rfl⟩

/-- The last separator ends the text before it. -/
theorem split_last_unique {α : Type*} {c : α} {a a' b b' : List α} (hb : c ∉ b) (hb' : c ∉ b')
    (h : a ++ c :: b = a' ++ c :: b') : a = a' ∧ b = b' := by
  have turned : b.reverse ++ c :: a.reverse = b'.reverse ++ c :: a'.reverse := by
    simpa using congrArg List.reverse h
  obtain ⟨after, before⟩ := split_unique (by simpa using hb) (by simpa using hb') turned
  exact ⟨List.reverse_inj.mp before, List.reverse_inj.mp after⟩

theorem split_absent {α : Type*} {c : α} {a a' b : List α} (ha' : c ∉ a') :
    a ++ c :: b ≠ a' := by
  intro h
  exact ha' (h ▸ by simp)

theorem nat_text_injective {m n : Nat} (h : Nat.repr m = Nat.repr n) : m = n := by
  have digits := congrArg String.toList h
  rw [Nat.toList_repr, Nat.toList_repr] at digits
  rw [← Nat.ofDigitChars_ten_toDigits (n := m), digits, Nat.ofDigitChars_ten_toDigits]

theorem nat_text_digits {n : Nat} {c : Char} (h : c ∈ (Nat.repr n).toList) : c.isDigit := by
  rw [Nat.toList_repr] at h
  exact Nat.isDigit_of_mem_toDigits (by decide) (by decide) h

theorem int_text_chars {n : Int} {c : Char} (h : c ∈ (toString n).toList) :
    c.isDigit ∨ c = '-' := by
  cases n with
  | ofNat n => exact Or.inl (nat_text_digits h)
  | negSucc n =>
    have h : c ∈ ("-" ++ Nat.repr (n + 1)).toList := h
    rw [String.toList_append, List.mem_append] at h
    rcases h with h | h
    · exact Or.inr (by simpa using h)
    · exact Or.inl (nat_text_digits h)

theorem int_text_injective {m n : Int} (h : toString m = toString n) : m = n := by
  have minus : ∀ a b : Nat, Nat.repr a ≠ "-" ++ Nat.repr b := by
    intro a b h
    have hm : '-' ∈ (Nat.repr a).toList := by simp [h]
    exact absurd (nat_text_digits hm) (by decide)
  cases m with
  | ofNat m =>
    cases n with
    | ofNat n => exact congrArg Int.ofNat (nat_text_injective h)
    | negSucc n => exact absurd h (minus _ _)
  | negSucc m =>
    cases n with
    | ofNat n => exact absurd h.symm (minus _ _)
    | negSucc n =>
      have h : "-" ++ Nat.repr (m + 1) = "-" ++ Nat.repr (n + 1) := h
      have digits := congrArg String.toList h
      rw [String.toList_append, String.toList_append] at digits
      have := nat_text_injective (String.toList_inj.mp (List.append_cancel_left digits))
      rw [show m = n by omega]

theorem not_mem_int_text {n : Int} {c : Char} (digit : c.isDigit = false) (minus : c ≠ '-') :
    c ∉ (toString n).toList := by
  intro h
  rcases int_text_chars h with h | h
  · rw [digit] at h
    cases h
  · exact minus h

/-! ## Decimal digits -/

/-- The zeros of Unicode 15, each before the other nine digits of its script. -/
def decimalZeros : List Nat :=
  [0x30, 0x660, 0x6f0, 0x7c0, 0x966, 0x9e6, 0xa66, 0xae6, 0xb66, 0xbe6, 0xc66, 0xce6, 0xd66, 0xde6,
    0xe50, 0xed0, 0xf20, 0x1040, 0x1090, 0x17e0, 0x1810, 0x1946, 0x19d0, 0x1a80, 0x1a90, 0x1b50,
    0x1bb0, 0x1c40, 0x1c50, 0xa620, 0xa8d0, 0xa900, 0xa9d0, 0xa9f0, 0xaa50, 0xabf0, 0xff10, 0x104a0,
    0x10d30, 0x11066, 0x110f0, 0x11136, 0x111d0, 0x112f0, 0x11450, 0x114d0, 0x11650, 0x116c0,
    0x11730, 0x118e0, 0x11950, 0x11c50, 0x11d50, 0x11da0, 0x11f50, 0x16a60, 0x16ac0, 0x16b50,
    0x1d7ce, 0x1d7d8, 0x1d7e2, 0x1d7ec, 0x1d7f6, 0x1e140, 0x1e2f0, 0x1e4f0, 0x1e950, 0x1fbf0]

def decimal (c : Char) : Option Nat :=
  (decimalZeros.find? fun base => base ≤ c.toNat ∧ c.toNat < base + 10).map (c.toNat - ·)

def isDecimal (c : Char) : Bool := (decimal c).isSome

/-- The number that digits of any script are. -/
def decimalNumber (digits : List Char) (init : Nat) : Nat :=
  digits.foldl (fun n c => 10 * n + (decimal c).getD 0) init

theorem decimal_digit {c : Char} (digit : c.isDigit = true) :
    decimal c = some (c.toNat - '0'.toNat) := by
  have range := Char.isDigit_iff_toNat.mp digit
  have first : decimalZeros.find? (fun base => base ≤ c.toNat ∧ c.toNat < base + 10) = some 0x30 := by
    apply List.find?_cons_of_pos
    simpa [Nat.lt_succ_iff] using range
  rw [decimal, first]
  rfl

theorem isDecimal_digit {c : Char} (digit : c.isDigit = true) : isDecimal c = true := by
  rw [isDecimal, decimal_digit digit, Option.isSome_some]

theorem decimalNumber_digits {digits : List Char} (all : ∀ c ∈ digits, c.isDigit = true)
    (init : Nat) : decimalNumber digits init = Nat.ofDigitChars 10 digits init := by
  induction digits generalizing init with
  | nil => rfl
  | cons c digits ih =>
    rw [decimalNumber, List.foldl_cons, decimal_digit (all c List.mem_cons_self)]
    exact ih (fun d mem => all d (List.mem_cons_of_mem c mem)) _

example : decimal (Char.ofNat 0x663) = some 3 := by decide

end Texts
