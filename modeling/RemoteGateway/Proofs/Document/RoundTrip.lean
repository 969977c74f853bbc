import Mathlib.Tactic.SplitIfs
import RemoteGateway.Proofs.Document.Reading

/-!
# Reading back what was written

The words of a legible value drive the reader to the value itself, unless the value is higher
than the reader allows: then the reader stops (`run?_tokens`). So a legible document is read
back from its text exactly when it is not too high (`ofText?_toText_eq`). The writer has no such
limit, which is the one way in which reading back can fail.
-/

namespace RemoteGateway.Document

namespace Reader

variable {depth : Nat}

/-- Reading words one part after the other. -/
theorem run?_append (reader : Reader) (words more : List Token) :
    reader.run? depth (words ++ more) =
      (reader.run? depth words).bind fun next => next.run? depth more := by
  induction words generalizing reader with
  | nil => rfl
  | cons word words ih =>
    rw [List.cons_append, run?, run?]
    rcases reader.step? depth word with _ | next
    · rfl
    · exact ih next

/-- No value begins with the end of a list. -/
theorem tokens_eq_cons (value : Value) :
    ∃ first more, value.tokens = first :: more ∧ first ≠ .closeBracket := by
  match value with
  | .null | .bool _ | .number _ | .text _ | .list [] | .object [] =>
    exact ⟨_, _, rfl, nofun⟩
  | .list (_ :: _) => exact ⟨_, _, rfl, nofun⟩
  | .object ((_, _) :: _) => exact ⟨_, _, rfl, nofun⟩

/-- The first item of a list is read like any other. -/
theorem run?_atFirstItem (stack : List Frame) (value : Value) (words : List Token) :
    (atFirstItem stack).run? depth (value.tokens ++ words) =
      (atValue (.items [] :: stack)).run? depth (value.tokens ++ words) := by
  obtain ⟨first, more, htokens, hfirst⟩ := tokens_eq_cons value
  have hstep : (atFirstItem stack).step? depth first =
      (atValue (.items [] :: stack)).step? depth first := by
    cases first with
    | closeBracket => exact absurd rfl hfirst
    | _ => rfl
  rw [htokens, List.cons_append, run?, run?, hstep]

/-- A list is opened when one more container may be. -/
theorem run?_openBracket (stack : List Frame) (words : List Token) :
    (atValue stack).run? depth (.openBracket :: words) =
      if stack.length < depth then (atFirstItem stack).run? depth words else none := by
  rw [run?]
  change (if stack.length < depth then some (atFirstItem stack) else none).bind _ = _
  split <;> rfl

/-- An object is opened when one more container may be. -/
theorem run?_openBrace (stack : List Frame) (words : List Token) :
    (atValue stack).run? depth (.openBrace :: words) =
      if stack.length < depth then (atFirstKey stack).run? depth words else none := by
  rw [run?]
  change (if stack.length < depth then some (atFirstKey stack) else none).bind _ = _
  split <;> rfl

mutual

/-- **The words of a legible value drive the reader to the value**, unless it is too high. -/
theorem run?_tokens (stack : List Frame) (value : Value) (h : value.IsLegible)
    (hstack : stack.length ≤ depth) :
    (atValue stack).run? depth value.tokens =
      if stack.length + value.height ≤ depth then some (complete value stack) else none := by
  match value with
  | .null | .bool _ | .number _ | .text _ => exact (if_pos hstack).symm
  | .list [] =>
    rw [Value.tokens, run?_openBracket]
    rfl
  | .list (item :: rest) =>
    rw [Value.IsLegible] at h
    rw [Value.tokens, run?_openBracket, Value.height]
    -- By whether the list may be opened, and whether all of it then fits.
    split_ifs with hopen hall hall
    · have hitems := run?_itemTokens stack [] (item :: rest) h hopen
      rw [List.append_assoc, run?_atFirstItem, ← List.append_assoc, run?_append]
      change ((afterItem stack []).run? depth (Value.itemTokens (item :: rest))).bind _ = _
      rw [hitems, if_pos (by omega), List.append_nil, Option.bind_some]
      change some (complete (.list (item :: rest).reverse.reverse) stack) = _
      rw [List.reverse_reverse]
    · have hitems := run?_itemTokens stack [] (item :: rest) h hopen
      rw [List.append_assoc, run?_atFirstItem, ← List.append_assoc, run?_append]
      change ((afterItem stack []).run? depth (Value.itemTokens (item :: rest))).bind _ = _
      rw [hitems, if_neg (by omega)]
      rfl
    · omega
    · rfl
  | .object [] =>
    rw [Value.tokens, run?_openBrace]
    rfl
  | .object ((key, value) :: rest) =>
    rw [Value.IsLegible] at h
    rw [Value.tokens, run?_openBrace, Value.height]
    -- The first member is read like one behind a comma.
    have hbefore : (atFirstKey stack).run? depth
        ([.text key] ++ [.colon] ++ value.tokens ++ Value.memberTokens rest ++ [.closeBrace]) =
        ((afterMember stack []).run? depth (Value.memberTokens ((key, value) :: rest))).bind
          fun next => next.run? depth [.closeBrace] := by
      rw [← run?_append]
      rfl
    split_ifs with hopen hall hall
    · have hmembers := run?_memberTokens stack [] ((key, value) :: rest) h.2 h.1 hopen
      rw [hbefore, hmembers, if_pos (by omega)]
      rfl
    · have hmembers := run?_memberTokens stack [] ((key, value) :: rest) h.2 h.1 hopen
      rw [hbefore, hmembers, if_neg (by omega)]
      rfl
    · omega
    · rfl

/-- Further items are read onto those that were read before. -/
theorem run?_itemTokens (stack : List Frame) (before items : List Value)
    (h : Value.AreLegible items) (hstack : stack.length + 1 ≤ depth) :
    (afterItem stack before).run? depth (Value.itemTokens items) =
      if stack.length + 1 + Value.heightOfItems items ≤ depth then
        some (afterItem stack (items.reverse ++ before))
      else none := by
  match items with
  | [] => exact (if_pos hstack).symm
  | item :: rest =>
    rw [Value.AreLegible] at h
    have hitem := run?_tokens (.items before :: stack) item h.1 hstack
    have hrest := run?_itemTokens stack (item :: before) rest h.2 hstack
    have hcomma : (afterItem stack before).run? depth (Value.itemTokens (item :: rest)) =
        (atValue (.items before :: stack)).run? depth (item.tokens ++ Value.itemTokens rest) := rfl
    rw [hcomma, run?_append, hitem, Value.heightOfItems]
    rw [List.length_cons]
    split_ifs with hfirst hall hall
    · change (afterItem stack (item :: before)).run? depth (Value.itemTokens rest) = _
      rw [hrest, if_pos (by omega), List.reverse_cons, List.append_assoc]
      rfl
    · change (afterItem stack (item :: before)).run? depth (Value.itemTokens rest) = _
      rw [hrest, if_neg (by omega)]
    · omega
    · rfl

/-- Further members are read onto those that were read before. -/
theorem run?_memberTokens (stack : List Frame) (before members : Members)
    (h : Value.AreLegibleMembers members) (hordered : Members.IsOrdered (before ++ members))
    (hstack : stack.length + 1 ≤ depth) :
    (afterMember stack before).run? depth (Value.memberTokens members) =
      if stack.length + 1 + Value.heightOfMembers members ≤ depth then
        some (afterMember stack (before ++ members))
      else none := by
  match members with
  | [] =>
    rw [List.append_nil]
    exact (if_pos hstack).symm
  | (key, value) :: rest =>
    rw [Value.AreLegibleMembers] at h
    have hvalue := run?_tokens (.members before key :: stack) value h.1 hstack
    -- The keys come in order, so putting a member where it belongs puts it at the end.
    have hlast : ∀ m ∈ before, m.1 < key := by
      intro m hm
      exact (List.pairwise_append.mp hordered).2.2 m hm _ List.mem_cons_self
    have hput : before.put key value = before ++ [(key, value)] :=
      Members.put_eq_append hlast value
    have hassoc : before ++ (key, value) :: rest = before ++ [(key, value)] ++ rest :=
      (List.append_assoc before [(key, value)] rest).symm
    have hrest := run?_memberTokens stack (before ++ [(key, value)]) rest h.2
      (hassoc ▸ hordered) hstack
    have hmember : (afterMember stack before).run? depth
        (Value.memberTokens ((key, value) :: rest)) =
        (atValue (.members before key :: stack)).run? depth
          (value.tokens ++ Value.memberTokens rest) := rfl
    have hcomplete : complete value (.members before key :: stack) =
        afterMember stack (before ++ [(key, value)]) := congrArg (afterMember stack) hput
    rw [hmember, run?_append, hvalue, Value.heightOfMembers, List.length_cons, hcomplete]
    split_ifs with hfirst hall hall
    · rw [Option.bind_some, hrest, if_pos (by omega), hassoc]
    · rw [Option.bind_some, hrest, if_neg (by omega)]
    · omega
    · rfl

end

end Reader

namespace Value

/-- The words of a legible value stand for the value, unless it is too high. -/
theorem ofTokens?_tokens {value : Value} (h : value.IsLegible) (depth : Nat) :
    ofTokens? depth value.tokens = if value.height ≤ depth then some value else none := by
  rw [ofTokens?, Reader.run?_tokens [] value h (Nat.zero_le _), List.length_nil, Nat.zero_add]
  by_cases hheight : value.height ≤ depth
  · rw [if_pos hheight, if_pos hheight]
    rfl
  · rw [if_neg hheight, if_neg hheight]

/-- **A legible document is read back** from its text, exactly when it is not too high. -/
theorem ofText?_toText_eq {value : Value} (h : value.IsLegible) (depth : Nat) :
    ofText? depth (value.toText ++ "\n") = if value.height ≤ depth then some value else none := by
  rw [ofText?, Document.ofText?_toText h, Option.bind_some, ofTokens?_tokens h]

end Value

end RemoteGateway.Document
