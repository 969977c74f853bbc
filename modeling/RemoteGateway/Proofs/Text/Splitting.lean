import Mathlib.Tactic.SplitIfs

/-!
# What a text is split into

Splitting a text at a character leaves parts that hold the other characters of the text, and no
others (`mem_of_mem_splitOn`). That none of them holds the character itself is what the text of a
path is cut by, and what the labels of a host name are found by.
-/

namespace RemoteGateway.Text

/-- **A part holds characters of the text**, but not the one that the text was split at. -/
theorem mem_of_mem_splitOn {α : Type} [BEq α] [LawfulBEq α] {separator : α} {text part : List α}
    (h : part ∈ text.splitOn separator) : ∀ c ∈ part, c ∈ text ∧ c ≠ separator := by
  induction text generalizing part with
  | nil =>
    rw [List.splitOn_nil, List.mem_singleton] at h
    rw [h]
    exact fun c hc => absurd hc List.not_mem_nil
  | cons first text ih =>
    have hrest : ∀ part ∈ text.splitOn separator, ∀ c ∈ part, c ∈ first :: text ∧ c ≠ separator :=
      fun part hpart c hc => ⟨List.mem_cons_of_mem _ (ih hpart c hc).1, (ih hpart c hc).2⟩
    rw [List.splitOn_cons_eq_if_modifyHead] at h
    split_ifs at h with hfirst
    · rcases List.mem_cons.mp h with rfl | h
      · exact fun c hc => absurd hc List.not_mem_nil
      · exact hrest part h
    · -- The first character goes to the first part of the rest.
      obtain ⟨head, parts, hsplit⟩ :=
        List.exists_cons_of_ne_nil (List.splitOn_ne_nil separator text)
      rw [hsplit] at h hrest
      rcases List.mem_cons.mp h with rfl | h
      · intro c hc
        rcases List.mem_cons.mp hc with rfl | hc
        · exact ⟨List.mem_cons_self, fun hsame => hfirst (beq_iff_eq.mpr hsame)⟩
        · exact hrest head List.mem_cons_self c hc
      · exact hrest part (List.mem_cons_of_mem _ h)

end RemoteGateway.Text
