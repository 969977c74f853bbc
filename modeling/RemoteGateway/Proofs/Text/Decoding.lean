import Mathlib.Tactic.SplitIfs
import RemoteGateway.Text.Utf8

/-!
# Well-formed text in arbitrary bytes

The lossy reader takes the bytes of each character apart as they were put together, so well-formed
text is read as it is, whatever bytes follow it (`decodeLossy_toUTF8_append`). The proof goes by the
number of bytes of a character: its first byte says how many follow and which values the second one
may have, and those are the values that the second byte of a character can have.
-/

namespace RemoteGateway.Text

namespace Utf8State

variable {low high bits missing v : Nat} {rest : List UInt8}

/-! ### Single bytes -/

theorem toNat_ofNat (h : v < 256) : (UInt8.ofNat v).toNat = v := by
  rw [UInt8.toNat_ofNat', Nat.mod_eq_of_lt h]

/-- A byte that begins a character of more than one byte. -/
theorem run_boundary {state : Utf8State} (hv : v < 256) (h : lead v = ([], state)) :
    run .boundary (UInt8.ofNat v :: rest) = run state rest := by
  change (lead (UInt8.ofNat v).toNat).1 ++ run (lead (UInt8.ofNat v).toNat).2 rest = _
  rw [toNat_ofNat hv, h]
  rfl

/-- A byte inside a character. -/
theorem run_inside_succ (hv : v < 256) (h : low ≤ v ∧ v ≤ high) :
    run (.inside bits low high (missing + 1)) (UInt8.ofNat v :: rest) =
      run (.inside (bits * 64 + (v - 0x80)) 0x80 0xBF missing) rest := by
  rw [run, step, toNat_ofNat hv, if_pos h]
  rfl

/-- The last byte of a character. -/
theorem run_inside_zero (c : Char) (hv : v < 256) (h : low ≤ v ∧ v ≤ high)
    (hc : bits * 64 + (v - 0x80) = c.toNat) :
    run (.inside bits low high 0) (UInt8.ofNat v :: rest) = c :: run .boundary rest := by
  rw [run, step, toNat_ofNat hv, if_pos h]
  simp only [hc, Char.ofNat_toNat]
  rfl

/-! ### First bytes -/

theorem lead_of_two (hlow : 0xC2 ≤ v) (hhigh : v < 0xE0) :
    lead v = ([], .inside (v - 0xC0) 0x80 0xBF 0) := by
  rw [lead, if_neg (by omega), if_neg (by omega), if_pos hhigh]

/-- Behind the first of three bytes come those that make neither a smaller character nor half of a
pair. -/
theorem lead_of_three (hlow : 0xE0 ≤ v) (hhigh : v < 0xF0) :
    ∃ low high, lead v = ([], .inside (v - 0xE0) low high 1) ∧
      ∀ next, 0x80 ≤ next → next ≤ 0xBF → (v = 0xE0 → 0xA0 ≤ next) → (v = 0xED → next ≤ 0x9F) →
        low ≤ next ∧ next ≤ high := by
  rw [lead, if_neg (by omega), if_neg (by omega), if_neg (by omega)]
  split_ifs with hfirst hpair
  · exact ⟨0xA0, 0xBF, by rw [hfirst], fun next _ hnext hsmall _ => ⟨hsmall hfirst, hnext⟩⟩
  · exact ⟨0x80, 0x9F, by rw [hpair], fun next hnext _ _ hhalf => ⟨hnext, hhalf hpair⟩⟩
  · exact ⟨0x80, 0xBF, rfl, fun next hnext hmax _ _ => ⟨hnext, hmax⟩⟩

/-- Behind the first of four bytes come those that make neither a smaller character nor one beyond
the last. -/
theorem lead_of_four (hlow : 0xF0 ≤ v) (hhigh : v < 0xF5) :
    ∃ low high, lead v = ([], .inside (v - 0xF0) low high 2) ∧
      ∀ next, 0x80 ≤ next → next ≤ 0xBF → (v = 0xF0 → 0x90 ≤ next) → (v = 0xF4 → next ≤ 0x8F) →
        low ≤ next ∧ next ≤ high := by
  rw [lead, if_neg (by omega), if_neg (by omega), if_neg (by omega), if_neg (by omega),
    if_neg (by omega), if_neg (by omega)]
  split_ifs with hfirst hmiddle hlast
  · exact ⟨0x90, 0xBF, by rw [hfirst], fun next _ hnext hsmall _ => ⟨hsmall hfirst, hnext⟩⟩
  · exact ⟨0x80, 0xBF, rfl, fun next hnext hmax _ _ => ⟨hnext, hmax⟩⟩
  · exact ⟨0x80, 0x8F, by rw [hlast], fun next hnext _ _ hbeyond => ⟨hnext, hbeyond hlast⟩⟩
  · omega

/-! ### Characters -/

/-- **A character is read from its bytes**, whatever follows them. -/
theorem run_utf8EncodeChar (c : Char) (rest : List UInt8) :
    run .boundary (String.utf8EncodeChar c ++ rest) = c :: run .boundary rest := by
  have hvalid : c.toNat < 0xD800 ∨ 0xDFFF < c.toNat ∧ c.toNat < 0x110000 := c.valid
  have hval : c.val.toNat = c.toNat := rfl
  simp only [String.utf8EncodeChar, hval]
  split_ifs with hone htwo hthree
  · change (lead (UInt8.ofNat c.toNat).toNat).1 ++ run (lead (UInt8.ofNat c.toNat).toNat).2 rest = _
    rw [toNat_ofNat (by omega), lead, if_pos (by omega), Char.ofNat_toNat]
    rfl
  · rw [List.cons_append, run_boundary (by omega) (lead_of_two (by omega) (by omega)),
      List.cons_append, run_inside_zero c (by omega) (by omega) (by omega)]
    rfl
  · obtain ⟨low, high, hlead, hnext⟩ := lead_of_three (v := c.toNat / 4096 % 16 + 224) (by omega)
      (by omega)
    rw [List.cons_append, run_boundary (by omega) hlead, List.cons_append,
      run_inside_succ (by omega) (hnext _ (by omega) (by omega) (by omega) (by omega)),
      List.cons_append, run_inside_zero c (by omega) (by omega) (by omega)]
    rfl
  · obtain ⟨low, high, hlead, hnext⟩ := lead_of_four (v := c.toNat / 262144 % 8 + 240) (by omega)
      (by omega)
    rw [List.cons_append, run_boundary (by omega) hlead, List.cons_append,
      run_inside_succ (by omega) (hnext _ (by omega) (by omega) (by omega) (by omega)),
      List.cons_append, run_inside_succ (by omega) (by omega), List.cons_append,
      run_inside_zero c (by omega) (by omega) (by omega)]
    rfl

theorem run_flatMap_utf8EncodeChar (s : List Char) (rest : List UInt8) :
    run .boundary (s.flatMap String.utf8EncodeChar ++ rest) = s ++ run .boundary rest := by
  induction s with
  | nil => rfl
  | cons c s ih =>
    rw [List.flatMap_cons, List.append_assoc, run_utf8EncodeChar, ih, List.cons_append]

end Utf8State

/-- **Well-formed text is read as it is**, whatever bytes follow it. -/
theorem decodeLossy_toUTF8_append (s : String) (rest : ByteArray) :
    decodeLossy (s.toUTF8 ++ rest) = s ++ decodeLossy rest := by
  have hbytes : (s.toUTF8 ++ rest).data.toList =
      s.toList.flatMap String.utf8EncodeChar ++ rest.data.toList := by
    rw [String.toUTF8, ← String.utf8Encode_toList, List.utf8Encode, ByteArray.data_append,
      Array.toList_append, List.data_toByteArray]
  rw [decodeLossy, hbytes, Utf8State.run_flatMap_utf8EncodeChar, String.ofList_append,
    String.ofList_toList, decodeLossy]

end RemoteGateway.Text
