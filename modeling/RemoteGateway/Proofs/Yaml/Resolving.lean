import Mathlib.Algebra.Order.Field.Basic
import Mathlib.Data.Rat.Defs
import Mathlib.Algebra.Order.Ring.Rat
import Mathlib.Tactic.NormNum
import Mathlib.Tactic.Ring
import Mathlib.Tactic.Positivity
import Mathlib.Tactic.SplitIfs
import RemoteGateway.Proofs.Document.Integers
import RemoteGateway.Yaml.Node

/-!
# What plain scalars mean

A reader takes a plain scalar for a null, a boolean, an integer of 64 bits, a floating-point
number or a text. `resolve` is such a reader. It is more eager than others to find a number: the
digits of a decimal integer may begin with zeros, and only what is too large for a double is left
a text. The writer puts all that it takes for something else into quotes
(`resolve_of_isTyped`).
-/

namespace RemoteGateway.Yaml

open Document (hexValue? digitsValue)

/-! ### Trees -/

/-- What is read from a file. A floating-point number is known by its spelling. -/
inductive Tree where
  | null
  | boolean (value : Bool)
  | integer (value : Int)
  | float (spelling : String)
  | text (value : String)
  | sequence (items : List Tree)
  | mapping (entries : List (String × Tree))

mutual

/-- What is meant by a tree that is to be written. -/
def Node.toTree : Node → Tree
  | .text value => .text value
  | .integer value => .integer value
  | .boolean value => .boolean value
  | .sequence items => .sequence (itemTrees items)
  | .mapping entries => .mapping (entryTrees entries)

/-- What is meant by items. -/
def itemTrees : List Node → List Tree
  | [] => []
  | item :: rest => item.toTree :: itemTrees rest

/-- What is meant by entries. -/
def entryTrees : List (String × Node) → List (String × Tree)
  | [] => []
  | (key, value) :: rest => (key, value.toTree) :: entryTrees rest

end

/-! ### Numbers -/

/-- The number that the digits of a base denote, of which there has to be one. -/
def numeral? (base : Nat) (s : List Char) : Option Nat :=
  if s.isEmpty then none
  else s.foldlM (fun n c => (digit? base c).map fun digit => n * base + digit) 0

/-- A natural number in the base that it announces. -/
def natural? : List Char → Option Nat
  | '0' :: 'x' :: digits => numeral? 16 digits
  | '0' :: 'o' :: digits => numeral? 8 digits
  | '0' :: 'b' :: digits => numeral? 2 digits
  | digits => numeral? 10 digits

/-- An integer of 64 bits, with a sign or without one. -/
def integer? : List Char → Option Int
  | '-' :: rest => ((natural? rest).filter fun n => n ≤ 2 ^ 63).map fun n : Nat => -(n : Int)
  | '+' :: rest => ((natural? rest).filter fun n => n < 2 ^ 64).map fun n : Nat => (n : Int)
  | s => ((natural? s).filter fun n => n < 2 ^ 64).map fun n : Nat => (n : Int)

/-- The exponent behind the digits of a decimal, which is zero when there is none. -/
def exponent? : List Char → Option Int
  | [] => some 0
  | mark :: rest =>
    if mark = 'e' ∨ mark = 'E' then
      match rest with
      | '-' :: digits => (numeral? 10 digits).map fun n : Nat => -(n : Int)
      | '+' :: digits => (numeral? 10 digits).map fun n : Nat => (n : Int)
      | digits => (numeral? 10 digits).map fun n : Nat => (n : Int)
    else none

/-- The value of a decimal without sign: digits with a point among or beside them, and an
exponent. -/
def decimal? (s : List Char) : Option ℚ :=
  let whole := s.takeWhile Char.isDigit
  let rest := s.dropWhile Char.isDigit
  let (fraction, rest) :=
    match rest with
    | '.' :: rest => (rest.takeWhile Char.isDigit, rest.dropWhile Char.isDigit)
    | rest => ([], rest)
  do
    let exponent ← exponent? rest
    let digits ← numeral? 10 (whole ++ fraction)
    return digits * 10 ^ (exponent - fraction.length)

/-! ### All plain scalars -/

/-- The words for null. -/
def nullWords : List String := ["", "~", "null", "Null", "NULL"]

/-- The words for true. -/
def trueWords : List String := ["true", "True", "TRUE"]

/-- The words for false. -/
def falseWords : List String := ["false", "False", "FALSE"]

/-- The words for floating-point numbers that are not finite, the infinities without a sign. -/
def infinityWords : List String := [".inf", ".Inf", ".INF"]

/-- The words for what is no number. -/
def nanWords : List String := [".nan", ".NaN", ".NAN"]

/-- Whether a plain scalar is a floating-point number: one that is not finite is spelled as a
word, and a decimal that rounds to none that is finite is none. -/
def isFloatingPoint (s : List Char) : Bool :=
  infinityWords.contains (String.ofList (dropSign s)) || nanWords.contains (String.ofList s) ||
    (decimal? (dropSign s)).any fun value : ℚ => value < (overflowBound : ℚ)

/-- What a plain scalar means. -/
def resolve (s : List Char) : Tree :=
  let word := String.ofList s
  if nullWords.contains word then .null
  else if trueWords.contains word then .boolean true
  else if falseWords.contains word then .boolean false
  else
    match integer? s with
    | some value => .integer value
    | none => if isFloatingPoint s then .float word else .text word

/-! ### Digits -/

section

variable {base n : Nat} {c : Char} {s : List Char}

/-- All characters are digits. -/
theorem foldlM_digit?_eq_some {start : Nat} :
    s.foldlM (fun n c => (digit? base c).map fun digit => n * base + digit) start = some n ↔
      (∀ c ∈ s, (digit? base c).isSome) ∧
        s.foldl (fun n c => n * base + (digit? base c).getD 0) start = n := by
  induction s generalizing start with
  | nil => simp
  | cons c s ih =>
    rw [List.foldlM_cons, List.foldl_cons, List.forall_mem_cons]
    cases digit? base c with
    | none => simp
    | some digit =>
      refine Iff.trans ih ?_
      simp

/-- A numeral that the writer looks for is one that is read. -/
theorem isNumeralUpTo_iff {bound : Nat} :
    isNumeralUpTo base bound s = true ↔ ∃ n ≤ bound, numeral? base s = some n := by
  rw [isNumeralUpTo, numeral?]
  cases hs : s.isEmpty with
  | true => simp
  | false =>
    simp only [Bool.not_false, Bool.true_and, Bool.and_eq_true, List.all_eq_true,
      decide_eq_true_eq, Bool.false_eq_true, if_false, foldlM_digit?_eq_some]
    constructor
    · rintro ⟨hall, hbound⟩
      exact ⟨_, hbound, hall, rfl⟩
    · rintro ⟨_, hbound, hall, rfl⟩
      exact ⟨hall, hbound⟩

theorem natural?_eq :
    natural? s =
      match announcedBase s with
      | some (base, digits) => numeral? base digits
      | none => numeral? 10 s := by
  fun_cases natural? s with
  | case1 => rfl
  | case2 => rfl
  | case3 => rfl
  | case4 _ hhex hoctal hbinary => rw [announcedBase.eq_4 s hhex hoctal hbinary]

theorem isUnsignedUpTo_iff {bound : Nat} :
    isUnsignedUpTo bound s = true ↔ ∃ n ≤ bound, natural? s = some n := by
  rw [isUnsignedUpTo, natural?_eq]
  cases announcedBase s with
  | none => exact isNumeralUpTo_iff
  | some announced => exact isNumeralUpTo_iff

/-- An integer of 64 bits is one of 128 bits. -/
theorem isInteger_of_integer? {value : Int} (h : integer? s = some value) :
    isInteger s = true := by
  revert h
  fun_cases integer? s with
  | case1 rest =>
    intro h
    obtain ⟨n, hn, -⟩ := Option.map_eq_some_iff.mp h
    obtain ⟨hread, hbound⟩ := Option.filter_eq_some_iff.mp hn
    have hbound := of_decide_eq_true hbound
    exact isUnsignedUpTo_iff.mpr ⟨n, hbound.trans (by decide), hread⟩
  | case2 rest =>
    intro h
    obtain ⟨n, hn, -⟩ := Option.map_eq_some_iff.mp h
    obtain ⟨hread, hbound⟩ := Option.filter_eq_some_iff.mp hn
    have hbound := of_decide_eq_true hbound
    exact isUnsignedUpTo_iff.mpr ⟨n, hbound.le.trans (by decide), hread⟩
  | case3 _ hminus hplus =>
    intro h
    obtain ⟨n, hn, -⟩ := Option.map_eq_some_iff.mp h
    obtain ⟨hread, hbound⟩ := Option.filter_eq_some_iff.mp hn
    have hbound := of_decide_eq_true hbound
    rw [isInteger.eq_3 s hminus hplus]
    exact isUnsignedUpTo_iff.mpr ⟨n, hbound.le.trans (by decide), hread⟩

/-- The digits of decimals have their usual values. -/
theorem digit?_ten : digit? 10 c = if c.isDigit then some (c.toNat - '0'.toNat) else none := by
  rw [digit?, hexValue?]
  split_ifs with hdigit hlower hupper
  · obtain ⟨-, hnine⟩ : 48 ≤ c.toNat ∧ c.toNat ≤ 57 := Char.isDigit_iff_toNat.mp hdigit
    have hzero : '0'.toNat = 48 := rfl
    rw [Option.filter_some, if_pos (by simp; omega)]
  · rw [Option.filter_some, if_neg (by simp)]
  · rw [Option.filter_some, if_neg (by simp)]
  · rfl

theorem numeral?_ten_eq_some :
    numeral? 10 s = some n ↔ s ≠ [] ∧ (∀ c ∈ s, c.isDigit = true) ∧ digitsValue s = n := by
  have hdigit : ∀ c, (digit? 10 c).isSome = c.isDigit := by
    intro c
    rw [digit?_ten]
    cases c.isDigit <;> rfl
  have hvalue : (∀ c ∈ s, c.isDigit = true) →
      s.foldl (fun n c => n * 10 + (digit? 10 c).getD 0) 0 = digitsValue s := by
    intro hall
    rw [digitsValue]
    refine List.foldl_ext _ _ _ fun value c hc => ?_
    rw [digit?_ten, if_pos (hall c hc)]
    rfl
  rw [numeral?]
  cases s with
  | nil => simp
  | cons c s =>
    rw [List.isEmpty_cons, if_neg Bool.false_ne_true, foldlM_digit?_eq_some]
    simp only [hdigit]
    constructor
    · rintro ⟨hall, rfl⟩
      exact ⟨List.cons_ne_nil _ _, hall, (hvalue hall).symm⟩
    · rintro ⟨-, hall, rfl⟩
      exact ⟨hall, hvalue hall⟩

/-! ### Floating-point numbers -/

/-- The exponent of a text whose digits are known. -/
theorem exponentOf?_eq {mark : Char} {digits rest : List Char} (hmark : mark = 'e' ∨ mark = 'E')
    (hdigits : dropSign rest = digits) (h : numeral? 10 digits = some n) :
    exponentOf? (mark :: rest) =
      some (if rest.head? = some '-' then -(n : Int) else (n : Int)) := by
  obtain ⟨hne, hall, rfl⟩ := numeral?_ten_eq_some.mp h
  have hwell : ¬ (digits.isEmpty || !digits.all Char.isDigit) = true := by
    simp [hne, List.all_eq_true.mpr hall]
  rw [exponentOf?.eq_def]
  dsimp only
  rw [if_pos hmark, hdigits, if_neg hwell]

/-- An exponent that is read is one that the writer looks for. -/
theorem exponentOf?_of_exponent? {value : Int} (h : exponent? s = some value) :
    exponentOf? s = some value := by
  rw [exponent?.eq_def] at h
  split at h
  · exact h
  · next mark rest =>
    split at h
    · next hmark =>
      split at h
      · obtain ⟨n, hread, rfl⟩ := Option.map_eq_some_iff.mp h
        exact exponentOf?_eq hmark rfl hread
      · obtain ⟨n, hread, rfl⟩ := Option.map_eq_some_iff.mp h
        exact exponentOf?_eq hmark rfl hread
      · next hminus hplus =>
        obtain ⟨n, hread, rfl⟩ := Option.map_eq_some_iff.mp h
        have hdigits : dropSign rest = rest := by
          rw [dropSign.eq_def]
          split
          · exact (hplus _ rfl).elim
          · exact (hminus _ rfl).elim
          · rfl
        have hhead : rest.head? ≠ some '-' := by
          rintro heq
          obtain ⟨digits, rfl⟩ := List.head?_eq_some_iff.mp heq
          exact hminus digits rfl
        rw [exponentOf?_eq hmark hdigits hread, if_neg hhead]
    · cases h

/-- The digits behind others count less. -/
theorem foldl_digits (start : Nat) :
    s.foldl (fun n c => n * 10 + (c.toNat - '0'.toNat)) start =
      start * 10 ^ s.length + digitsValue s := by
  rw [digitsValue]
  induction s generalizing start with
  | nil => simp
  | cons c s ih =>
    rw [List.foldl_cons, List.foldl_cons, ih, ih (0 * 10 + _), List.length_cons, pow_succ]
    ring

/-- A number is at least as large as its first digit says. -/
theorem pow_le_digitsValue (hdigit : c.isDigit = true) (hne : c ≠ '0') :
    10 ^ s.length ≤ digitsValue (c :: s) := by
  obtain ⟨hzero, -⟩ : 48 ≤ c.toNat ∧ c.toNat ≤ 57 := Char.isDigit_iff_toNat.mp hdigit
  have hcode : '0'.toNat = 48 := rfl
  have hpositive : 1 ≤ c.toNat - '0'.toNat := by
    have hother : c.toNat ≠ 48 := fun h => hne (Char.toNat_inj.mp h)
    omega
  rw [digitsValue, List.foldl_cons, foldl_digits]
  calc 10 ^ s.length ≤ (0 * 10 + (c.toNat - '0'.toNat)) * 10 ^ s.length :=
        Nat.le_mul_of_pos_left _ (by omega)
    _ ≤ _ := Nat.le_add_right _ _

/-- Leading zeros do not count. -/
theorem digitsValue_dropWhile : digitsValue (s.dropWhile (· == '0')) = digitsValue s := by
  induction s with
  | nil => rfl
  | cons c s ih =>
    rw [List.dropWhile_cons]
    split
    · next hzero =>
      rw [ih, beq_iff_eq.mp hzero]
      rfl
    · rfl

/-- Digits that do not begin with a zero are worth at least the power of ten in front of them. -/
theorem pow_le_of_head (hall : ∀ c ∈ s, c.isDigit = true) (hne : s ≠ [])
    (hhead : s.head? ≠ some '0') : 10 ^ (s.length - 1) ≤ digitsValue s := by
  cases s with
  | nil => exact absurd rfl hne
  | cons c s =>
    exact pow_le_digitsValue (hall c List.mem_cons_self) fun hzero => hhead (by rw [hzero]; rfl)

/-- A number of more than 310 places is too large for a double, whatever its digits are. -/
theorem overflowBound_le_of_places (hall : ∀ c ∈ s, c.isDigit = true) (hne : s ≠ [])
    (hhead : s.head? ≠ some '0') {exponent : Int} (hplaces : 310 < s.length + exponent) :
    (overflowBound : ℚ) ≤ (digitsValue s : ℚ) * 10 ^ exponent := by
  have hten : (10 : ℚ) ≠ 0 := by norm_num
  have hdigits : (10 : ℚ) ^ (s.length - 1) ≤ digitsValue s := by
    exact_mod_cast pow_le_of_head hall hne hhead
  have hlength : 0 < s.length := List.length_pos_iff.mpr hne
  calc (overflowBound : ℚ) ≤ 10 ^ (310 : Nat) := by
        exact_mod_cast (by decide +kernel : overflowBound ≤ 10 ^ 310)
    _ ≤ 10 ^ (((s.length - 1 : Nat) : Int) + exponent) := by
        rw [← zpow_natCast]
        exact zpow_le_zpow_right₀ (by norm_num) (by push_cast; omega)
    _ = 10 ^ (s.length - 1) * 10 ^ exponent := by
        rw [zpow_add₀ hten, zpow_natCast]
    _ ≤ digitsValue s * 10 ^ exponent :=
        mul_le_mul_of_nonneg_right hdigits (zpow_pos (by norm_num) exponent).le

/-- What is too large for a double is not below the bound. -/
theorem overflowBound_le (hall : ∀ c ∈ s, c.isDigit = true) {exponent : Int}
    (h : overflows s exponent = true) :
    (overflowBound : ℚ) ≤ (digitsValue s : ℚ) * 10 ^ exponent := by
  rw [← digitsValue_dropWhile]
  dsimp only [overflows] at h
  generalize hsignificant : s.dropWhile (· == '0') = significant at h ⊢
  split_ifs at h with hsmall hlarge hexponent
  · obtain ⟨hne, -⟩ : significant ≠ [] ∧ _ := by
      simpa only [Bool.or_eq_true, List.isEmpty_iff, not_or] using hsmall
    have hdigits : ∀ c ∈ significant, c.isDigit = true := fun c hc =>
      hall c ((List.dropWhile_suffix _).subset (hsignificant ▸ hc))
    have hhead : significant.head? ≠ some '0' := by
      intro hzero
      have hnot := List.head?_dropWhile_not (· == '0') s
      rw [hsignificant, hzero] at hnot
      exact Bool.noConfusion hnot
    exact overflowBound_le_of_places hdigits hne hhead hlarge
  · -- Where the places do not decide, the number itself was compared.
    have hbound := of_decide_eq_true h
    rw [← Int.toNat_of_nonneg hexponent, zpow_natCast]
    exact_mod_cast hbound
  · have hbound := of_decide_eq_true h
    obtain ⟨k, rfl⟩ : ∃ k : Nat, exponent = -(k : Int) := ⟨(-exponent).toNat, by omega⟩
    rw [neg_neg, Int.toNat_natCast] at hbound
    have hpower : (0 : ℚ) < 10 ^ k := pow_pos (by norm_num) k
    rw [zpow_neg, zpow_natCast, ← div_eq_mul_inv, le_div_iff₀ hpower]
    exact_mod_cast hbound

/-- The parts of a decimal below the bound are those that the writer looks for. -/
theorem fits_of_decimal {whole fraction rest : List Char} {value : ℚ}
    (h : (do
      let exponent ← exponent? rest
      let digits ← numeral? 10 (whole ++ fraction)
      return (digits : ℚ) * 10 ^ (exponent - fraction.length)) = some value)
    (hbound : value < overflowBound) :
    (match exponentOf? rest with
      | none => false
      | some exponent => !(whole ++ fraction).isEmpty &&
          !overflows (whole ++ fraction) (exponent - fraction.length)) = true := by
  obtain ⟨exponent, hexponent, h⟩ := Option.bind_eq_some_iff.mp h
  obtain ⟨digits, hdigits, h⟩ := Option.bind_eq_some_iff.mp h
  obtain ⟨hne, hall, rfl⟩ := numeral?_ten_eq_some.mp hdigits
  have hvalue := Option.some.inj h
  have hfits : overflows (whole ++ fraction) (exponent - fraction.length) = false := by
    by_contra hover
    exact absurd (overflowBound_le hall (Bool.eq_true_of_not_eq_false hover))
      (not_le.mpr (hvalue ▸ hbound))
  rw [exponentOf?_of_exponent? hexponent]
  simp [hne, hfits]

/-- A decimal below the bound is one that the writer looks for. -/
theorem isFiniteDecimal_of_decimal? {value : ℚ} (h : decimal? s = some value)
    (hbound : value < overflowBound) : isFiniteDecimal s = true := by
  rw [decimal?] at h
  rw [isFiniteDecimal]
  exact fits_of_decimal h hbound

/-! ### What the writer keeps apart -/

/-- A word is one of some words when its characters are those of one of them. -/
theorem contains_ofList {words : List String} :
    words.contains (String.ofList s) = (words.map String.toList).contains s := by
  rw [Bool.eq_iff_iff, List.contains_iff_mem, List.contains_iff_mem, List.mem_map]
  constructor
  · exact fun h => ⟨_, h, String.toList_ofList⟩
  · rintro ⟨word, hword, rfl⟩
    rwa [String.ofList_toList]

/-- A floating-point number that is read is one that the writer looks for. -/
theorem isFloat_of_isFloatingPoint (h : isFloatingPoint s = true) : isFloat s = true := by
  rw [isFloatingPoint, contains_ofList, contains_ofList, Bool.or_eq_true] at h
  rw [isFloat, Bool.or_eq_true]
  refine h.imp id fun hdecimal => ?_
  obtain ⟨value, hvalue, hbound⟩ := (Option.any_eq_true _ _).mp hdecimal
  exact isFiniteDecimal_of_decimal? hvalue (of_decide_eq_true hbound)

/-- **A plain scalar that the writer takes for nothing else is read as a text.** -/
theorem resolve_of_isTyped (h : isTyped s = false) : resolve s = .text (String.ofList s) := by
  simp only [isTyped, Bool.or_eq_false_iff] at h
  obtain ⟨⟨⟨hconstant, hinteger⟩, hfloat⟩, -⟩ := h
  have hword : (nullWords ++ trueWords ++ falseWords).contains (String.ofList s) = false := by
    rw [contains_ofList]
    exact hconstant
  simp only [List.contains_append, Bool.or_eq_false_iff] at hword
  obtain ⟨⟨hnull, htrue⟩, hfalse⟩ := hword
  have hnumber : integer? s = none := by
    by_contra hread
    obtain ⟨value, hvalue⟩ := Option.ne_none_iff_exists'.mp hread
    exact absurd (isInteger_of_integer? hvalue) (by rw [hinteger]; exact Bool.false_ne_true)
  have hdecimal : isFloatingPoint s = false := by
    by_contra hread
    have := isFloat_of_isFloatingPoint (Bool.eq_true_of_not_eq_false hread)
    exact absurd this (by rw [hfloat]; exact Bool.false_ne_true)
  simp only [resolve, hnull, htrue, hfalse, hnumber, hdecimal, Bool.false_eq_true, if_false]

/-- Digits announce no base. -/
theorem natural?_of_isDigit (hall : ∀ c ∈ s, c.isDigit = true) : natural? s = numeral? 10 s := by
  have hmark : ∀ first mark digits, s = first :: mark :: digits → mark.isDigit = true := by
    rintro first mark digits rfl
    exact hall mark (by simp)
  rw [natural?.eq_def]
  split
  · exact absurd (hmark _ _ _ rfl) (by decide)
  · exact absurd (hmark _ _ _ rfl) (by decide)
  · exact absurd (hmark _ _ _ rfl) (by decide)
  · rfl

/-- Digits have no sign. -/
theorem integer?_of_isDigit (hne : s ≠ []) (hall : ∀ c ∈ s, c.isDigit = true)
    (hbound : digitsValue s < 2 ^ 64) : integer? s = some (digitsValue s : Int) := by
  have hread : natural? s = some (digitsValue s) := by
    rw [natural?_of_isDigit hall]
    exact numeral?_ten_eq_some.mpr ⟨hne, hall, rfl⟩
  rw [integer?.eq_def]
  split
  · exact absurd (hall '-' List.mem_cons_self) (by decide)
  · exact absurd (hall '+' List.mem_cons_self) (by decide)
  · rw [hread, Option.filter_some, if_pos (decide_eq_true hbound)]
    rfl

/-- Digits are no word for something else. -/
theorem resolve_of_isDigit (hne : s ≠ []) (hall : ∀ c ∈ s, c.isDigit = true)
    (hbound : digitsValue s < 2 ^ 64) : resolve s = .integer (digitsValue s) := by
  have hwords : ∀ word ∈ (nullWords ++ trueWords ++ falseWords).map String.toList,
      word = [] ∨ word.all Char.isDigit = false := by decide
  have hword : (nullWords ++ trueWords ++ falseWords).contains (String.ofList s) = false := by
    by_contra hcontains
    rw [contains_ofList, Bool.not_eq_false, List.contains_iff_mem] at hcontains
    rcases hwords s hcontains with hempty | hdigits
    · exact hne hempty
    · rw [List.all_eq_true.mpr hall] at hdigits
      exact Bool.noConfusion hdigits
  simp only [List.contains_append, Bool.or_eq_false_iff] at hword
  obtain ⟨⟨hnull, htrue⟩, hfalse⟩ := hword
  simp only [resolve, hnull, htrue, hfalse, integer?_of_isDigit hne hall hbound,
    Bool.false_eq_true, if_false]

/-- A numeral of the writer is read as its number. -/
theorem resolve_toDigits (h : n < 2 ^ 64) : resolve (Nat.toDigits 10 n) = .integer n := by
  have hvalue := Document.digitsValue_toDigits n
  have hdigits : ∀ c ∈ Nat.toDigits 10 n, c.isDigit = true :=
    fun c => Document.isDigit_of_mem_toDigits
  rw [resolve_of_isDigit Nat.toDigits_ne_nil hdigits (by rwa [hvalue]), hvalue]

/-- A boolean of the writer is read as itself. -/
theorem resolve_toString (value : Bool) : resolve (toString value).toList = .boolean value := by
  cases value <;> rfl

end

end RemoteGateway.Yaml
