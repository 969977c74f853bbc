import Mathlib.Data.List.Induction
import Mathlib.Tactic.IntervalCases
import RemoteGateway.Proofs.Document.Integers

/-!
# Numerals of one value

A numeral writes a number in decimal digits, with a sign in front or without one. Two numerals write
the same number exactly when they differ in no more than the sign and in zeros in front of the other
digits (`writes_iff`): each number has one numeral that can do without both. Reading within a bound
gives the number that a text writes, however long the text is (`readNatural_eq_ok_iff`).
-/

namespace RemoteGateway.Text

variable {bound n m : Nat} {s digits : List Char}

/-- Digits, behind a sign or not, that write a number. -/
def Writes (s : List Char) (n : Nat) : Prop :=
  ∃ digits, (s = digits ∨ s = '+' :: digits) ∧ digits ≠ [] ∧
    (∀ c ∈ digits, c.isDigit = true) ∧ digitsValue digits = n

/-- **Within a bound the number is read that a text writes.** -/
theorem readNatural_eq_ok_iff : readNatural bound s = .ok n ↔ Writes s n ∧ n ≤ bound := by
  rw [readNatural_eq_ok]
  constructor
  · rintro ⟨digits, hsign, hne, hall, hvalue, hle⟩
    exact ⟨⟨digits, hsign, hne, hall, hvalue⟩, hle⟩
  · rintro ⟨⟨digits, hsign, hne, hall, hvalue⟩, hle⟩
    exact ⟨digits, hsign, hne, hall, hvalue, hle⟩

example : readNatural 65535 "+000443".toList = .ok 443 := by decide

theorem isNumeral_iff_writes : IsNumeral bound s ↔ ∃ n, Writes s n ∧ n ≤ bound := by
  simp only [isNumeral_iff, readNatural_eq_ok_iff]

/-- A text writes one number only. -/
theorem Writes.unique (h : Writes s n) (h' : Writes s m) : n = m := by
  have hread := readNatural_eq_ok_iff.mpr ⟨h, Nat.le_max_left n m⟩
  have hread' := readNatural_eq_ok_iff.mpr ⟨h', Nat.le_max_right n m⟩
  rw [hread] at hread'
  exact Except.ok.inj hread'

theorem Writes.ne_nil (h : Writes s n) : s ≠ [] := by
  obtain ⟨digits, rfl | rfl, hne, -⟩ := h
  · exact hne
  · exact List.cons_ne_nil _ _

/-! ### Zeros in front -/

/-- The digit of a value below ten is the one that has this value. -/
theorem toDigits_of_isDigit {c : Char} (h : c.isDigit = true) :
    c.toNat - '0'.toNat < 10 ∧ Nat.toDigits 10 (c.toNat - '0'.toNat) = [c] := by
  have hrange : 48 ≤ c.toNat ∧ c.toNat ≤ 57 := by
    simpa [Char.isDigit, UInt32.le_iff_toNat_le] using h
  obtain ⟨hlow, hhigh⟩ := hrange
  have hc : c = Char.ofNat c.toNat := (Char.ofNat_toNat c).symm
  generalize c.toNat = value at hc hlow hhigh
  subst hc
  interval_cases value
  all_goals decide

theorem digitsValue_concat (digits : List Char) (c : Char) :
    digitsValue (digits ++ [c]) = 10 * digitsValue digits + (c.toNat - '0'.toNat) := by
  rw [digitsValue, List.foldl_append, List.foldl_cons, List.foldl_nil, ← digitsValue, appendDigit,
    Nat.mul_comm]

/-- Digits are zeros and then the digits that their value is written with. -/
theorem exists_zeros (hne : digits ≠ []) (hall : ∀ c ∈ digits, c.isDigit = true) :
    ∃ zeros, digits = List.replicate zeros '0' ++ Nat.toDigits 10 (digitsValue digits) := by
  induction digits using List.reverseRecOn with
  | nil => exact absurd rfl hne
  | append_singleton front c ih =>
    obtain ⟨hsmall, hlast⟩ := toDigits_of_isDigit (hall c (by simp))
    rw [digitsValue_concat]
    by_cases hfront : front = []
    · subst hfront
      exact ⟨0, by rw [digitsValue, List.foldl_nil, Nat.mul_zero, Nat.zero_add, hlast]; rfl⟩
    obtain ⟨zeros, hzeros⟩ := ih hfront fun d hd => hall d (by simp [hd])
    rcases Nat.eq_zero_or_pos (digitsValue front) with hzero | hpos
    -- All digits in front are zeros.
    · rw [hzero] at hzeros
      refine ⟨zeros + 1, ?_⟩
      rw [hzero, Nat.mul_zero, Nat.zero_add, hlast, hzeros, List.replicate_succ']
      rfl
    · refine ⟨zeros, ?_⟩
      rw [← Nat.toDigits_append_toDigits (by decide) hpos hsmall, hlast, ← List.append_assoc,
        ← hzeros]

theorem digitsValue_replicate_append (zeros : Nat) (digits : List Char) :
    digitsValue (List.replicate zeros '0' ++ digits) = digitsValue digits := by
  induction zeros with
  | zero => rfl
  | succ zeros ih => exact ih

/-- **The numerals of a number** are its digits behind any number of zeros, with a sign in front or
without one. -/
theorem writes_iff : Writes s n ↔ ∃ sign zeros, (sign = [] ∨ sign = ['+']) ∧
    s = sign ++ List.replicate zeros '0' ++ Nat.toDigits 10 n := by
  constructor
  · rintro ⟨digits, hsign, hne, hall, rfl⟩
    obtain ⟨zeros, hzeros⟩ := exists_zeros hne hall
    rcases hsign with rfl | rfl
    · exact ⟨[], zeros, .inl rfl, hzeros⟩
    · exact ⟨['+'], zeros, .inr rfl, congrArg ('+' :: ·) hzeros⟩
  · rintro ⟨sign, zeros, hsign, rfl⟩
    refine ⟨List.replicate zeros '0' ++ Nat.toDigits 10 n, ?_, ?_, fun c hc => ?_, ?_⟩
    · rcases hsign with rfl | rfl
      · exact .inl rfl
      · exact .inr rfl
    · exact List.append_ne_nil_of_right_ne_nil _ Nat.toDigits_ne_nil
    · rcases List.mem_append.mp hc with hc | hc
      · rw [List.eq_of_mem_replicate hc]
        rfl
      · exact Document.isDigit_of_mem_toDigits hc
    · rw [digitsValue_replicate_append]
      exact Document.digitsValue_toDigits n

/-- The digits of a number write it. -/
theorem writes_toDigits (n : Nat) : Writes (Nat.toDigits 10 n) n :=
  writes_iff.mpr ⟨[], 0, .inl rfl, rfl⟩

end RemoteGateway.Text
