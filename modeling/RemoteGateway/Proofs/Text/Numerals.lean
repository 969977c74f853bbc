import Mathlib.Tactic.SplitIfs
import RemoteGateway.Text.Numeral

/-!
# Numerals within a bound

Reading a bounded number stops at the first digit that takes the value above the bound. Since a
value only grows with further digits, that is the same as writing a number within the bound: a text
is read exactly when it is an optional sign and then digits whose value is at most the bound
(`readNatural_eq_ok`).
-/

namespace RemoteGateway.Text

/-- A value with one more digit behind it. -/
def appendDigit (value : Nat) (c : Char) : Nat :=
  value * 10 + (c.toNat - '0'.toNat)

/-- The number that some digits write. -/
def digitsValue (digits : List Char) : Nat :=
  digits.foldl appendDigit 0

/-- Digits, behind a sign or not, that write a number within a bound. -/
def IsNumeral (bound : Nat) (s : List Char) : Prop :=
  ∃ digits, (s = digits ∨ s = '+' :: digits) ∧ digits ≠ [] ∧
    (∀ c ∈ digits, c.isDigit = true) ∧ digitsValue digits ≤ bound

variable {bound value n : Nat} {s digits : List Char}

/-- A value only grows with further digits. -/
theorem le_foldl_appendDigit (value : Nat) (s : List Char) : value ≤ s.foldl appendDigit value := by
  induction s generalizing value with
  | nil => exact Nat.le_refl value
  | cons c rest ih =>
    have hstep : value ≤ appendDigit value c := by
      unfold appendDigit
      omega
    exact Nat.le_trans hstep (ih _)

theorem readDigits_eq_ok (hvalue : value ≤ bound) :
    readDigits bound value s = .ok n ↔
      (∀ c ∈ s, c.isDigit = true) ∧ s.foldl appendDigit value = n ∧ n ≤ bound := by
  induction s generalizing value with
  | nil =>
    rw [readDigits, Except.ok.injEq]
    constructor
    · rintro rfl
      exact ⟨nofun, rfl, hvalue⟩
    · rintro ⟨-, hn, -⟩
      exact hn
  | cons c rest ih =>
    rw [List.forall_mem_cons, List.foldl_cons, readDigits, digitValue?]
    cases hdigit : c.isDigit with
    | false =>
      exact ⟨nofun, fun h => nomatch h.1.1⟩
    | true =>
      simp only [if_true, true_and]
      change (if appendDigit value c ≤ bound then readDigits bound (appendDigit value c) rest
        else .error .tooLarge) = .ok n ↔ _
      split_ifs with hle
      · exact ih hle
      · refine ⟨nofun, ?_⟩
        rintro ⟨-, rfl, hn⟩
        exact absurd (Nat.le_trans (le_foldl_appendDigit _ rest) hn) hle

/-- **A number is read from a text exactly when the text writes it.** -/
theorem readNatural_eq_ok :
    readNatural bound s = .ok n ↔
      ∃ digits, (s = digits ∨ s = '+' :: digits) ∧ digits ≠ [] ∧
        (∀ c ∈ digits, c.isDigit = true) ∧ digitsValue digits = n ∧ n ≤ bound := by
  have hplus : '+'.isDigit = false := by
    decide
  have hplain : ∀ {digits : List Char}, (∀ c ∈ digits, c.isDigit = true) →
      ∀ rest, digits ≠ '+' :: rest := by
    rintro digits hall rest rfl
    exact Bool.false_ne_true (hplus ▸ hall '+' List.mem_cons_self)
  fun_cases readNatural bound s with
  | case1 =>
    refine ⟨nofun, ?_⟩
    rintro ⟨digits, rfl | h, hne, -⟩
    · exact absurd rfl hne
    · cases h
  | case2 =>
    refine ⟨nofun, ?_⟩
    rintro ⟨digits, rfl | h, hne, hall, -⟩
    · exact absurd rfl (hplain hall [])
    · cases h
      exact absurd rfl hne
  | case3 rest hrest =>
    rw [readDigits_eq_ok (Nat.zero_le bound)]
    constructor
    · rintro ⟨hall, hn⟩
      exact ⟨rest, .inr rfl, fun h => hrest (h ▸ rfl), hall, hn⟩
    · rintro ⟨digits, rfl | h, -, hall, hn⟩
      · exact absurd rfl (hplain hall rest)
      · cases h
        exact ⟨hall, hn⟩
  | case4 _ hne _ hsigned =>
    rw [readDigits_eq_ok (Nat.zero_le bound)]
    constructor
    · rintro ⟨hall, hn⟩
      exact ⟨s, .inl rfl, hne, hall, hn⟩
    · rintro ⟨digits, rfl | rfl, -, hall, hn⟩
      · exact ⟨hall, hn⟩
      · exact absurd rfl (hsigned digits)

/-- A text is read as a number within the bound exactly when it writes one. -/
theorem isNumeral_iff : IsNumeral bound s ↔ ∃ n, readNatural bound s = .ok n := by
  simp only [readNatural_eq_ok]
  constructor
  · rintro ⟨digits, hsign, hne, hall, hle⟩
    exact ⟨_, digits, hsign, hne, hall, rfl, hle⟩
  · rintro ⟨n, digits, hsign, hne, hall, rfl, hle⟩
    exact ⟨digits, hsign, hne, hall, hle⟩

end RemoteGateway.Text
