import RemoteGateway.Text.Blank

/-!
# What trimming leaves

A text is **bare** for a test when neither its first nor its last character satisfies it.
Trimming leaves a bare text (`isBare_trimWhere`), and a bare text is left as it is, with or
without characters around it that satisfy the test (`trimWhere_append`). So what trimming leaves is
the only bare text that the text consists of but for such characters around it (`trims_iff`).
-/

namespace RemoteGateway.Text

variable {p : Char → Bool} {s : List Char}

/-- Neither the first nor the last character of a text satisfies a test. -/
structure IsBare (p : Char → Bool) (s : List Char) : Prop where
  head : ∀ c, s.head? = some c → p c = false
  last : ∀ c, s.getLast? = some c → p c = false

theorem dropWhile_eq_self (h : ∀ c, s.head? = some c → p c = false) : s.dropWhile p = s := by
  cases s with
  | nil => rfl
  | cons c s => exact List.dropWhile_cons_of_neg (by rw [h c rfl]; exact Bool.false_ne_true)

theorem dropEndWhile_eq_self (h : ∀ c, s.getLast? = some c → p c = false) :
    dropEndWhile p s = s := by
  rw [dropEndWhile, dropWhile_eq_self, List.reverse_reverse]
  intro c hc
  exact h c (by rw [← hc, List.head?_reverse])

theorem dropEndWhile_append (after : List Char) (h : ∀ c ∈ after, p c = true) :
    dropEndWhile p (s ++ after) = dropEndWhile p s := by
  rw [dropEndWhile, List.reverse_append, List.dropWhile_append_of_pos, dropEndWhile]
  exact fun c hc => h c (List.mem_reverse.mp hc)

/-- What is dropped from the end of a text satisfies the test. -/
theorem exists_dropped (p : Char → Bool) (s : List Char) :
    ∃ dropped, s = dropEndWhile p s ++ dropped ∧ ∀ c ∈ dropped, p c = true := by
  refine ⟨(s.reverse.takeWhile p).reverse, ?_, fun c hc => ?_⟩
  · rw [dropEndWhile, ← List.reverse_append, List.takeWhile_append_dropWhile, List.reverse_reverse]
  · exact List.all_eq_true.mp List.all_takeWhile c (List.mem_reverse.mp hc)

/-- The end is dropped behind a character that the test rejects, whatever stands before it. -/
theorem dropEndWhile_append_cons (front : List Char) {c : Char} (rest : List Char)
    (hc : p c = false) :
    dropEndWhile p (front ++ c :: rest) = front ++ c :: dropEndWhile p rest := by
  have hstop : (c :: front.reverse).dropWhile p = c :: front.reverse :=
    List.dropWhile_cons_of_neg (by rw [hc]; exact Bool.false_ne_true)
  rw [dropEndWhile, List.reverse_append, List.reverse_cons, List.append_assoc,
    List.singleton_append, List.dropWhile_append, hstop, dropEndWhile]
  split
  · next hnil =>
    rw [List.isEmpty_iff.mp hnil, List.reverse_cons, List.reverse_reverse, List.reverse_nil]
  · rw [List.reverse_append, List.reverse_cons, List.reverse_reverse, List.append_assoc,
      List.singleton_append]

/-- A text that starts off bare stays so when its end is dropped. -/
theorem head?_dropEndWhile (h : ∀ c, s.head? = some c → p c = false) :
    ∀ c, (dropEndWhile p s).head? = some c → p c = false := by
  intro c hc
  obtain ⟨dropped, hdropped⟩ : dropEndWhile p s <+: s := by
    rw [← List.reverse_suffix, dropEndWhile, List.reverse_reverse]
    exact List.dropWhile_suffix p
  refine h c ?_
  rw [← hdropped, List.head?_append, hc]
  rfl

/-- **Trimming leaves a bare text.** -/
theorem isBare_trimWhere (p : Char → Bool) (s : List Char) : IsBare p (trimWhere p s) := by
  refine ⟨head?_dropEndWhile fun c hc => ?_, fun c hc => getLast_dropEndWhile hc⟩
  have hnot := List.head?_dropWhile_not p s
  rw [hc] at hnot
  exact hnot

theorem length_trimWhere_le (p : Char → Bool) (s : List Char) :
    (trimWhere p s).length ≤ s.length := by
  obtain ⟨dropped, hdropped, -⟩ := exists_dropped p (s.dropWhile p)
  have hend : (trimWhere p s).length ≤ (s.dropWhile p).length := by
    rw [hdropped, List.length_append]
    exact Nat.le_add_right _ _
  exact Nat.le_trans hend (List.dropWhile_suffix p).length_le

/-- A bare text is all that is left of it and of what surrounds it. -/
theorem trimWhere_append (h : IsBare p s) {before after : List Char} (hs : s ≠ [])
    (hbefore : ∀ c ∈ before, p c = true) (hafter : ∀ c ∈ after, p c = true) :
    trimWhere p (before ++ s ++ after) = s := by
  have hhead : ∀ c, (s ++ after).head? = some c → p c = false := by
    intro c hc
    cases s with
    | nil => exact absurd rfl hs
    | cons first rest => exact h.head c hc
  rw [trimWhere, List.append_assoc, List.dropWhile_append_of_pos hbefore,
    dropWhile_eq_self hhead, dropEndWhile_append after hafter, dropEndWhile_eq_self h.last]

/-- A bare text is left as it is. -/
theorem trimWhere_eq_self (h : IsBare p s) : trimWhere p s = s := by
  rw [trimWhere, dropWhile_eq_self h.head, dropEndWhile_eq_self h.last]

/-- A text is another one between characters that satisfy a test, none of which the other one
begins or ends with. -/
structure Trims (p : Char → Bool) (s rest : List Char) : Prop where
  bare : IsBare p rest
  around : ∃ before after, s = before ++ rest ++ after ∧
    (∀ c ∈ before, p c = true) ∧ ∀ c ∈ after, p c = true

/-- **Trimming leaves the only text** that stands between what was taken off. -/
theorem trims_iff {rest : List Char} : Trims p s rest ↔ trimWhere p s = rest := by
  constructor
  · rintro ⟨hbare, before, after, rfl, hbefore, hafter⟩
    by_cases hnil : rest = []
    · subst hnil
      have hall : ∀ c ∈ before ++ [] ++ after, p c = true := by
        intro c hc
        rw [List.append_nil] at hc
        exact (List.mem_append.mp hc).elim (hbefore c) (hafter c)
      rw [← List.append_nil (before ++ [] ++ after), trimWhere, List.dropWhile_append_of_pos hall]
      rfl
    · exact trimWhere_append hbare hnil hbefore hafter
  · rintro rfl
    obtain ⟨after, hafter, hall⟩ := exists_dropped p (s.dropWhile p)
    refine ⟨isBare_trimWhere p s, s.takeWhile p, after, ?_, ?_, hall⟩
    · rw [List.append_assoc, trimWhere, ← hafter, List.takeWhile_append_dropWhile]
    · exact fun c hc => List.all_eq_true.mp List.all_takeWhile c hc

/-- Characters around a text that satisfy the test are of no account. -/
theorem trimWhere_surrounded (s : List Char) {before after : List Char}
    (hbefore : ∀ c ∈ before, p c = true) (hafter : ∀ c ∈ after, p c = true) :
    trimWhere p (before ++ s ++ after) = trimWhere p s := by
  obtain ⟨hbare, front, back, hs, hfront, hback⟩ := trims_iff.mpr (rfl : trimWhere p s = _)
  refine trims_iff.mp ⟨hbare, before ++ front, back ++ after, ?_, fun c hc => ?_, fun c hc => ?_⟩
  · calc before ++ s ++ after
        = before ++ (front ++ trimWhere p s ++ back) ++ after :=
          congrArg (before ++ · ++ after) hs
      _ = before ++ front ++ trimWhere p s ++ (back ++ after) := by simp only [List.append_assoc]
  · exact (List.mem_append.mp hc).elim (hbefore c) (hfront c)
  · exact (List.mem_append.mp hc).elim (hback c) (hafter c)

end RemoteGateway.Text
