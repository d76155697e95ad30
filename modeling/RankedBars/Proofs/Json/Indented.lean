import RankedBars.Json.Value
import RankedBars.Proofs.Json.Printed
import RankedBars.Proofs.Json.Reads

/-!
# Indented text as tokens

The indented text of a value consists of the value's tokens (`scan_indented`):
line ends and indentation are blanks, every text is spelled by its escapes,
and every number is followed by something that cannot go on with it. That last
point is what the induction has to carry along: whatever stands behind a value
must not look like the rest of a number.
-/

namespace RankedBars.Json

mutual

def tokens : Json → List Token
  | .null => [.null]
  | .bool value => [.bool value]
  | .integer value => [.number (Numeral.ofInt value).literal]
  | .float value => if value.isFinite then [.number (Numeral.printed value).literal] else [.null]
  | .text value => [.text (some value)]
  | .list items => listTokens (itemTokens items)
  | .object fields => objectTokens (fieldTokens fields)

def itemTokens : List Json → List (List Token)
  | [] => []
  | item :: rest => tokens item :: itemTokens rest

def fieldTokens : List (String × Json) → List (String × List Token)
  | [] => []
  | (name, value) :: rest => (name, tokens value) :: fieldTokens rest

end

theorem itemTokens_eq (items : List Json) : itemTokens items = items.map tokens := by
  induction items with
  | nil => rfl
  | cons item rest ih => rw [itemTokens, ih, List.map_cons]

theorem fieldTokens_eq (fields : List (String × Json)) :
    fieldTokens fields = fields.map fun field => (field.1, tokens field.2) := by
  induction fields with
  | nil => rfl
  | cons field rest ih => rw [fieldTokens, ih, List.map_cons]

/-- The text consists of the tokens, whatever stands behind it that is not the
rest of a number. -/
def IsWritten (text : String) (own : List Token) : Prop :=
  ∀ cs ts, NoNumber cs → Written cs ts → Written (text.toList ++ cs) (own ++ ts)

variable {cs : List Char} {ts : List Token}

/-! ## Between values -/

theorem written_newLine (level : Nat) (h : Written cs ts) :
    Written ((newLine level).toList ++ cs) ts := by
  have hblanks (k : Nat) : Written (List.replicate k ' ' ++ cs) ts := by
    induction k with
    | zero => exact h
    | succ k ih => exact .space (by decide) ih
  have hlist : (newLine level).toList = '\n' :: List.replicate (2 * level) ' ' := by
    rw [newLine, String.toList_append, String.toList_ofList, String.toList_ofList]
    rfl
  rw [hlist]
  exact .space (by decide) (hblanks (2 * level))

theorem noNumber_newLine (level : Nat) (cs : List Char) :
    NoNumber ((newLine level).toList ++ cs) := by
  rw [newLine, String.toList_append]
  exact fun c hc => Option.mem_some.mp hc ▸ by decide

theorem noNumber_cons {c : Char} (hc : c.isDigit = false ∧ c ≠ '.' ∧ c ≠ 'e' ∧ c ≠ 'E')
    (cs : List Char) : NoNumber (c :: cs) := fun _ hd => Option.mem_some.mp hd ▸ hc

/-! ## Single values -/

theorem isWritten_textLiteral (s : String) : IsWritten (textLiteral s) [.text (some s)] := by
  intro cs ts _ h
  have hwritten := Written.text (spells_flatMap_escapeChar s.toList) h
  rw [String.ofList_toList] at hwritten
  rw [textLiteral, String.toList_ofList, List.cons_append, List.cons_append, List.append_assoc]
  exact hwritten

theorem isWritten_word {w : String} {t : Token} (hw : word? t = some w.toList) :
    IsWritten w [t] := fun _ _ _ h => .word hw h

theorem isWritten_float (x : Binary64) : IsWritten (floatText x)
    (if x.isFinite then [.number (Numeral.printed x).literal] else [.null]) := by
  intro cs ts hcs h
  by_cases hfinite : x.isFinite
  · rw [if_pos hfinite, ← Numeral.text_printed hfinite]
    exact .number _ hcs h
  · have hnot : (!x.isFinite) = true := by rw [Bool.eq_false_of_not_eq_true hfinite]; rfl
    rw [if_neg hfinite, floatText, if_pos hnot]
    exact .word rfl h

/-! ## Lists and objects -/

theorem toList_indentedItems_cons (level : Nat) (item : Json) {rest : List Json} (hne : rest ≠ [])
    (cs : List Char) : (indentedItems level (item :: rest)).toList ++ cs
      = (newLine level).toList ++ ((item.indented level).toList ++
        ',' :: ((indentedItems level rest).toList ++ cs)) := by
  rw [indentedItems]
  · simp only [String.toList_append, List.append_assoc]
    rfl
  · exact hne

theorem isWritten_items {level : Nat} {items : List Json} (hne : items ≠ [])
    (h : ∀ item ∈ items, IsWritten (item.indented level) (tokens item)) :
    IsWritten (indentedItems level items) (separated (items.map tokens)) := by
  intro cs ts hcs hwritten
  induction items with
  | nil => exact absurd rfl hne
  | cons item rest ih =>
      have hitem := h item List.mem_cons_self
      cases rest with
      | nil =>
          rw [indentedItems, String.toList_append, List.append_assoc]
          exact written_newLine level (hitem cs ts hcs hwritten)
      | cons next rest =>
          have hrest := ih (List.cons_ne_nil next rest) fun j hj =>
            h j (List.mem_cons_of_mem item hj)
          -- The comma is what keeps a number from going on into the next line.
          have hcomma := hitem _ _ (noNumber_cons (by decide) _) (.mark (c := ',') rfl hrest)
          rw [toList_indentedItems_cons level item (List.cons_ne_nil next rest), List.map_cons,
            separated_cons _ (by simp), List.append_assoc, List.cons_append]
          exact written_newLine level hcomma

theorem isWritten_list {level : Nat} {items : List Json}
    (h : ∀ item ∈ items, IsWritten (item.indented (level + 1)) (tokens item)) :
    IsWritten (indented level (.list items)) (tokens (.list items)) := by
  intro cs ts _ hwritten
  by_cases hne : items = []
  · rw [hne, indented, tokens]
    exact .mark rfl (.mark rfl hwritten)
  · have htext : (indented level (.list items)).toList ++ cs
        = '[' :: ((indentedItems (level + 1) items).toList ++
          ((newLine level).toList ++ ']' :: cs)) := by
      rw [indented]
      · simp only [String.toList_append, List.append_assoc]
        rfl
      · exact hne
    rw [htext, tokens, itemTokens_eq, listTokens, List.cons_append, List.append_assoc]
    exact .mark rfl (isWritten_items hne h _ _ (noNumber_newLine level _)
      (written_newLine level (.mark (c := ']') rfl hwritten)))

theorem toList_indentedFields_singleton (level : Nat) (field : String × Json) (cs : List Char) :
    (indentedFields level [field]).toList ++ cs
      = (newLine level).toList ++ ((textLiteral field.1).toList ++
        ':' :: ' ' :: ((field.2.indented level).toList ++ cs)) := by
  rw [indentedFields]
  simp only [String.toList_append, List.append_assoc]
  rfl

theorem toList_indentedFields_cons (level : Nat) (field : String × Json)
    {rest : List (String × Json)} (hne : rest ≠ []) (cs : List Char) :
    (indentedFields level (field :: rest)).toList ++ cs
      = (newLine level).toList ++ ((textLiteral field.1).toList ++
        ':' :: ' ' :: ((field.2.indented level).toList ++
          ',' :: ((indentedFields level rest).toList ++ cs))) := by
  rw [indentedFields]
  · simp only [String.toList_append, List.append_assoc]
    rfl
  · exact hne

theorem written_field {level : Nat} {field : String × Json}
    (hfield : IsWritten (field.2.indented level) (tokens field.2)) (hcs : NoNumber cs)
    (h : Written cs ts) :
    Written ((newLine level).toList ++ ((textLiteral field.1).toList ++
      ':' :: ' ' :: ((field.2.indented level).toList ++ cs)))
      (memberTokens field.1 (tokens field.2) ++ ts) := by
  have hcolon := Written.mark (c := ':') rfl (.space (c := ' ') (by decide) (hfield cs ts hcs h))
  exact written_newLine level
    (isWritten_textLiteral field.1 _ _ (noNumber_cons (by decide) _) hcolon)

theorem isWritten_fields {level : Nat} {fields : List (String × Json)} (hne : fields ≠ [])
    (h : ∀ field ∈ fields, IsWritten (field.2.indented level) (tokens field.2)) :
    IsWritten (indentedFields level fields)
      (separated (fields.map fun field => memberTokens field.1 (tokens field.2))) := by
  intro cs ts hcs hwritten
  induction fields with
  | nil => exact absurd rfl hne
  | cons field rest ih =>
      have hfield := h field List.mem_cons_self
      cases rest with
      | nil =>
          rw [toList_indentedFields_singleton]
          exact written_field hfield hcs hwritten
      | cons next rest =>
          have hrest := ih (List.cons_ne_nil next rest) fun j hj =>
            h j (List.mem_cons_of_mem field hj)
          rw [toList_indentedFields_cons level field (List.cons_ne_nil next rest), List.map_cons,
            separated_cons _ (by simp), List.append_assoc, List.cons_append]
          exact written_field hfield (noNumber_cons (by decide) _) (.mark rfl hrest)

theorem isWritten_object {level : Nat} {fields : List (String × Json)}
    (h : ∀ field ∈ fields, IsWritten (field.2.indented (level + 1)) (tokens field.2)) :
    IsWritten (indented level (.object fields)) (tokens (.object fields)) := by
  intro cs ts _ hwritten
  by_cases hne : fields = []
  · rw [hne, indented, tokens]
    exact .mark rfl (.mark rfl hwritten)
  · have htext : (indented level (.object fields)).toList ++ cs
        = '\x7b' :: ((indentedFields (level + 1) fields).toList ++
          ((newLine level).toList ++ '\x7d' :: cs)) := by
      rw [indented]
      · simp only [String.toList_append, List.append_assoc]
        rfl
      · exact hne
    rw [htext, tokens, fieldTokens_eq, objectTokens, membersTokens, List.map_map,
      List.cons_append, List.append_assoc]
    exact .mark rfl (isWritten_fields hne h _ _ (noNumber_newLine level _)
      (written_newLine level (.mark (c := '\x7d') rfl hwritten)))

/-! ## Values of any kind -/

theorem isWritten_indented (level : Nat) (j : Json) : IsWritten (j.indented level) (tokens j) := by
  match j with
  | .null =>
      rw [indented, tokens]
      exact isWritten_word rfl
  | .bool value =>
      rw [indented, tokens]
      cases value <;> exact isWritten_word rfl
  | .integer value =>
      intro cs ts hcs h
      rw [indented, tokens, ← Numeral.text_ofInt]
      exact .number _ hcs h
  | .float value =>
      rw [indented, tokens]
      exact isWritten_float value
  | .text value =>
      rw [indented, tokens]
      exact isWritten_textLiteral value
  | .list items => exact isWritten_list fun item _ => isWritten_indented (level + 1) item
  | .object fields => exact isWritten_object fun field _ => isWritten_indented (level + 1) field.2
termination_by j
decreasing_by
  · have hlt := List.sizeOf_lt_of_mem (by assumption : item ∈ _)
    rw [list.sizeOf_spec]
    omega
  · have hlt := List.sizeOf_lt_of_mem (by assumption : field ∈ _)
    obtain ⟨name, value⟩ := field
    rw [object.sizeOf_spec]
    rw [Prod.mk.sizeOf_spec] at hlt
    dsimp only
    omega

/-- The indented text of a value consists of its tokens. -/
theorem written_indented (j : Json) : Written (j.indented 0).toList (tokens j) := by
  have h := isWritten_indented 0 j [] [] noNumber_nil .nil
  rwa [List.append_nil, List.append_nil] at h

theorem scan_indented (j : Json) : scan (j.indented 0) = tokens j := scan_eq (written_indented j)

/-! ## Reading them -/

theorem opens_tokens (j : Json) : Opens (tokens j) := by
  cases j with
  | float value =>
      rw [tokens]
      split <;> exact ⟨_, _, rfl, Token.noConfusion⟩
  | _ =>
      rw [tokens]
      exact ⟨_, _, rfl, Token.noConfusion⟩

theorem gives_tokens_list {α β : Type} {r : Reader α} {items : List β} {toJson : β → Json}
    {val : β → Option α} (h : ∀ b ∈ items, Gives r (tokens (toJson b)) (val b)) :
    Gives (Reader.list r) (tokens (.list (items.map toJson))) (items.mapM val) := by
  rw [tokens, itemTokens_eq, List.map_map]
  exact .list h fun b _ => opens_tokens (toJson b)

theorem gives_text (s : String) : Gives Reader.text (tokens (.text s)) (some s) := by
  rw [tokens]
  exact .text s

theorem gives_bool (b : Bool) : Gives Reader.bool (tokens (.bool b)) (some b) := by
  rw [tokens]
  exact .bool b

end RankedBars.Json
