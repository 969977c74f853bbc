import Mathlib.Data.List.Basic
import Mathlib.Data.List.TakeDrop
import RemoteGateway.Proofs.Document.Shape
import RemoteGateway.Proofs.Text.Numerals

/-!
# Integers of 64 bits

An integer is written with as few digits as possible and a minus in front of them if it is
negative. The reader takes digits as long as their number fits 64 bits, so it reads back every
integer that does, with or without a sign (`isLegible_of_isWord`). At the limits this rests on two
details: the digits of an integer never begin with a zero that they could do without, and the
smallest integer is one that the reader does not take for a double.
-/

namespace RemoteGateway.Document

/-- An integer of 64 bits, with a sign or without one. -/
def Number.IsWord : Number → Prop
  | integer value => -(Nat.pow 2 63 : Nat) ≤ value ∧ value ≤ maxUnsigned
  | double _ => False

/-! ### Digits -/

/-- Digits that were written from a number have its value. -/
theorem digitsValue_toDigits (n : Nat) : digitsValue (Nat.toDigits 10 n) = n := by
  refine Eq.trans ?_ (Nat.ofDigitChars_toDigits (b := 10) (by decide) (by decide))
  rw [digitsValue, Nat.ofDigitChars]
  refine List.foldl_ext _ _ _ fun value c _ => ?_
  rw [Nat.mul_comm]

theorem isDigit_of_mem_toDigits {n : Nat} {c : Char} (h : c ∈ Nat.toDigits 10 n) :
    c.isDigit = true :=
  Nat.isDigit_of_mem_toDigits (by decide) (by decide) h

/-- A number has more than one digit only if the first one is not zero. -/
theorem toDigits_ne_zero_cons (n : Nat) (next : Char) (rest : List Char) :
    Nat.toDigits 10 n ≠ '0' :: next :: rest := by
  induction n using Nat.strongRecOn generalizing next rest with
  | ind n ih =>
    intro h
    by_cases hsmall : n < 10
    · have hlength := congrArg List.length h
      rw [Nat.toDigits_of_lt_base hsmall] at hlength
      cases hlength
    -- The first digits are those of a smaller number, which is not zero.
    · have hlarge : 10 ≤ n := Nat.le_of_not_lt hsmall
      have hvalue := digitsValue_toDigits (n / 10)
      rw [Nat.toDigits_of_base_le (by decide) hlarge] at h
      match hdigits : Nat.toDigits 10 (n / 10) with
      | [] => exact Nat.toDigits_ne_nil hdigits
      | [c] =>
        rw [hdigits] at h hvalue
        obtain rfl : c = '0' := (List.cons.inj h).1
        change 0 = n / 10 at hvalue
        omega
      | c :: c' :: more =>
        rw [hdigits] at h
        obtain rfl : c = '0' := (List.cons.inj h).1
        exact ih (n / 10) (by omega) c' more hdigits

/-- Digits whose number fits 64 bits are taken as a whole. -/
theorem takeDigits_of_le {value : Nat} {s : List Char}
    (h : s.foldl Text.appendDigit value ≤ maxUnsigned) :
    takeDigits value s = (s.foldl Text.appendDigit value, []) := by
  induction s generalizing value with
  | nil => rfl
  | cons c rest ih =>
    have hnext : value * 10 + (c.toNat - '0'.toNat) ≤ maxUnsigned :=
      Nat.le_trans (Text.le_foldl_appendDigit _ rest) h
    rw [takeDigits]
    simp only [hnext, if_true]
    exact ih h

theorem takeDigits_toDigits {n : Nat} (h : n ≤ maxUnsigned) :
    takeDigits 0 (Nat.toDigits 10 n) = (n, []) := by
  have hvalue : (Nat.toDigits 10 n).foldl Text.appendDigit 0 = n := digitsValue_toDigits n
  rw [takeDigits_of_le (by rwa [hvalue]), hvalue]

/-! ### What follows a value -/

section

variable {rest : List Char}

theorem Ends.cases (h : Ends rest) :
    rest = [] ∨ (∃ more, rest = ',' :: more) ∨ ∃ more, rest = '\n' :: more := by
  cases rest with
  | nil => exact .inl rfl
  | cons c more =>
    rcases List.mem_cons.mp h with h | h
    · cases h
    · rcases List.mem_cons.mp h with h | h
      · exact .inr (.inl ⟨more, by rw [Option.some.inj h]⟩)
      · exact .inr (.inr ⟨more, by rw [Option.some.inj (List.mem_singleton.mp h)]⟩)

/-- What follows a value adds no digit to it. -/
theorem spanDigits_append {digits : List Char} (hall : ∀ c ∈ digits, c.isDigit = true)
    (h : Ends rest) : spanDigits (digits ++ rest) = (digits, rest) := by
  have hrest : rest.takeWhile Char.isDigit = [] ∧ rest.dropWhile Char.isDigit = rest := by
    rcases h.cases with rfl | ⟨more, rfl⟩ | ⟨more, rfl⟩
    · exact ⟨rfl, rfl⟩
    · exact ⟨rfl, rfl⟩
    · exact ⟨rfl, rfl⟩
  rw [spanDigits, List.span_eq_takeWhile_dropWhile, List.takeWhile_append_of_pos hall,
    List.dropWhile_append_of_pos hall, hrest.1, hrest.2, List.append_nil]

/-- What follows a value is no fraction. -/
theorem readFraction_of_ends (h : Ends rest) : readFraction rest = some (none, rest) := by
  rcases h.cases with rfl | ⟨more, rfl⟩ | ⟨more, rfl⟩
  · rfl
  · rfl
  · rfl

/-- What follows a value is no exponent. -/
theorem readExponent_of_ends (h : Ends rest) : readExponent rest = some (none, rest) := by
  rcases h.cases with rfl | ⟨more, rfl⟩ | ⟨more, rfl⟩
  · rfl
  · rfl
  · rfl

/-! ### Reading integers -/

/-- The digits of a number are read as its whole part. -/
theorem readUnsigned_toDigits (negative : Bool) (n : Nat) (h : Ends rest) :
    readUnsigned negative (Nat.toDigits 10 n ++ rest) =
      (Number.ofParts? negative (Nat.toDigits 10 n) none none).map fun number =>
        (number, rest) := by
  have hspan : spanDigits (Nat.toDigits 10 n ++ rest) = (Nat.toDigits 10 n, rest) :=
    spanDigits_append (fun c hc => isDigit_of_mem_toDigits hc) h
  rw [readUnsigned, hspan]
  split
  · next hnil =>
    exact absurd (congrArg Prod.fst hnil) Nat.toDigits_ne_nil
  · next hzero =>
    exact absurd (congrArg Prod.fst hzero) (toDigits_ne_zero_cons n _ _)
  · next hwhole =>
    cases hwhole
    simp only [readFraction_of_ends h, readExponent_of_ends h, Option.bind_eq_bind,
      Option.bind_some]
    rcases Number.ofParts? negative (Nat.toDigits 10 n) none none with _ | number <;> rfl

/-- Without a minus the digits stand for the number. -/
theorem ofParts?_toDigits {n : Nat} (h : n ≤ maxUnsigned) :
    Number.ofParts? false (Nat.toDigits 10 n) none none = some (.integer n) := by
  rw [Number.ofParts?, takeDigits_toDigits h]
  rfl

/-- Behind a minus the digits stand for an integer up to the smallest one. -/
theorem ofParts?_toDigits_of_pos {n : Nat} (hpos : 0 < n) (h : n ≤ Nat.pow 2 63) :
    Number.ofParts? true (Nat.toDigits 10 n) none none = some (.integer (-n)) := by
  have hmax : Nat.pow 2 63 ≤ maxUnsigned := by decide
  have hinteger : ¬ (n = 0 ∨ Nat.pow 2 63 < n) := by omega
  rw [Number.ofParts?, takeDigits_toDigits (Nat.le_trans h hmax)]
  simp only [Bool.not_true, Bool.false_eq_true, if_false, if_neg hinteger]

/-- A digit begins a number. -/
theorem next?_of_isDigit {c : Char} (h : c.isDigit = true) (text : List Char) :
    Token.next? c text =
      (readUnsigned false (c :: text)).map fun (number, rest) =>
        (.atom (.number number), rest) := by
  rw [Token.next?.eq_def]
  split
  case h_12 => rfl
  -- None of the characters that begin something else is a digit.
  all_goals exact absurd h (by decide)

end

/-- The digits of a number begin with one of them, which is no blank. -/
theorem exists_toDigits_eq_cons (n : Nat) :
    ∃ c more, Nat.toDigits 10 n = c :: more ∧ c.isDigit = true ∧ Token.isBlank c = false := by
  obtain ⟨c, more, hdigits⟩ := List.exists_cons_of_ne_nil (Nat.toDigits_ne_nil (b := 10) (n := n))
  have hdigit : c.isDigit = true := isDigit_of_mem_toDigits (hdigits ▸ List.mem_cons_self)
  refine ⟨c, more, hdigits, hdigit, Bool.eq_false_iff.mpr fun hblank => ?_⟩
  simp only [Token.isBlank, Bool.or_eq_true, beq_iff_eq] at hblank
  rcases hblank with ((rfl | rfl) | rfl) | rfl
  all_goals exact absurd hdigit (by decide)

/-- **Every integer of 64 bits is read back.** -/
theorem isLegible_of_isWord {number : Number} (h : number.IsWord) : number.IsLegible := by
  cases number with
  | double value => exact absurd h id
  | integer value =>
    obtain ⟨hlow, hhigh⟩ := h
    cases value with
    | ofNat n =>
      have hn : n ≤ maxUnsigned := Int.ofNat_le.mp hhigh
      obtain ⟨c, more, hdigits, hdigit, hblank⟩ := exists_toDigits_eq_cons n
      have htext : (Number.integer (.ofNat n)).text.toList = Nat.toDigits 10 n := Nat.toList_repr
      refine ⟨c, more, htext.trans hdigits, hblank, fun rest hrest => ?_⟩
      rw [next?_of_isDigit hdigit, ← List.cons_append, ← hdigits,
        readUnsigned_toDigits false n hrest, ofParts?_toDigits hn]
      rfl
    | negSucc n =>
      have hn : n + 1 ≤ Nat.pow 2 63 := by omega
      have htext : (Number.integer (.negSucc n)).text.toList =
          '-' :: Nat.toDigits 10 (n + 1) := by
        change ("-" ++ Nat.repr (n + 1)).toList = _
        rw [String.toList_append, Nat.toList_repr]
        rfl
      refine ⟨'-', _, htext, rfl, fun rest hrest => ?_⟩
      change (readUnsigned true (Nat.toDigits 10 (n + 1) ++ rest)).map _ = _
      rw [readUnsigned_toDigits true _ hrest, ofParts?_toDigits_of_pos (Nat.succ_pos n) hn]
      rfl

end RemoteGateway.Document
