import RankedBars.Proofs.Json.Numeral

/-!
# The tokens of a text

`Written` says by a grammar which tokens a text consists of: between any two
of them there may be blanks, a text may be spelled with any escapes, and a
number must not be followed by what would go on with it. `scan_eq` is that the
scanner finds these tokens. It runs on fuel, one unit a character or token, so
a text has enough of it for itself, and the induction is on the derivation
with the fuel left open.
-/

namespace RankedBars.Json

/-! ## Texts -/

/-- What stands between the quotes of a text, and the characters it stands for.
-/
inductive Spells : List Char → List Char → Prop
  | nil : Spells [] []
  | char {c : Char} {cs s : List Char} (hc : 0x20 ≤ c.toNat) (hquote : c ≠ '"')
      (hslash : c ≠ '\\') (h : Spells cs s) : Spells (c :: cs) (c :: s)
  | letter {l c : Char} {cs s : List Char} (hl : unescape? l = some c) (h : Spells cs s) :
      Spells ('\\' :: l :: cs) (c :: s)
  | code {a b c d x : Char} {cs s : List Char} (hx : unitOfHex? a b c d = some (.char x))
      (h : Spells cs s) : Spells ('\\' :: 'u' :: a :: b :: c :: d :: cs) (x :: s)
  | halves {a b c d a' b' c' d' : Char} {high low : Nat} {cs s : List Char}
      (hhigh : unitOfHex? a b c d = some (.half high))
      (hlow : unitOfHex? a' b' c' d' = some (.half low))
      (hpair : high < 0xDC00 ∧ 0xDC00 ≤ low) (h : Spells cs s) :
      Spells ('\\' :: 'u' :: a :: b :: c :: d :: '\\' :: 'u' :: a' :: b' :: c' :: d' :: cs)
        (Char.ofNat (0x10000 + (high - 0xD800) * 0x400 + (low - 0xDC00)) :: s)

theorem scanUnits_char {c : Char} (hc : 0x20 ≤ c.toNat) (hquote : c ≠ '"') (hslash : c ≠ '\\')
    (rest : List Char) :
    scanUnits (c :: rest) = (scanUnits rest).map fun (units, rest) => (.char c :: units, rest) := by
  rw [scanUnits]
  · rw [if_neg (by omega)]
    cases scanUnits rest <;> rfl
  · exact fun h => absurd h hquote
  · intro _ _ _ _ _ h
    exact absurd h hslash
  · intro _ _ h
    exact absurd h hslash

theorem scanUnits_letter {l c : Char} (hl : unescape? l = some c) (rest : List Char) :
    scanUnits ('\\' :: l :: rest)
      = (scanUnits rest).map fun (units, rest) => (.char c :: units, rest) := by
  rw [scanUnits]
  · rw [hl]
    cases scanUnits rest <;> rfl
  · intro _ _ _ _ _ h _
    rw [h, show unescape? 'u' = none by decide] at hl
    exact absurd hl (Option.some_ne_none c).symm

theorem scanUnits_code {a b c d : Char} {unit : TextUnit}
    (hunit : unitOfHex? a b c d = some unit) (rest : List Char) :
    scanUnits ('\\' :: 'u' :: a :: b :: c :: d :: rest)
      = (scanUnits rest).map fun (units, rest) => (unit :: units, rest) := by
  rw [scanUnits, hunit]
  cases scanUnits rest <;> rfl

theorem scanUnits_of_spells {cs s : List Char} (h : Spells cs s) (rest : List Char) :
    ∃ units, scanUnits (cs ++ '"' :: rest) = some (units, rest) ∧ joinUnits units = some s := by
  induction h with
  | nil => exact ⟨[], by rw [List.nil_append, scanUnits], rfl⟩
  | char hc hquote hslash _ ih =>
      obtain ⟨units, hscan, hjoin⟩ := ih
      refine ⟨_, by rw [List.cons_append, scanUnits_char hc hquote hslash, hscan]; rfl, ?_⟩
      rw [joinUnits, hjoin]
      rfl
  | letter hl _ ih =>
      obtain ⟨units, hscan, hjoin⟩ := ih
      refine ⟨_, by rw [List.cons_append, List.cons_append, scanUnits_letter hl, hscan]; rfl, ?_⟩
      rw [joinUnits, hjoin]
      rfl
  | code hx _ ih =>
      obtain ⟨units, hscan, hjoin⟩ := ih
      simp only [List.cons_append]
      refine ⟨_, by rw [scanUnits_code hx, hscan]; rfl, ?_⟩
      rw [joinUnits, hjoin]
      rfl
  | halves hhigh hlow hpair _ ih =>
      obtain ⟨units, hscan, hjoin⟩ := ih
      simp only [List.cons_append]
      refine ⟨_, by rw [scanUnits_code hhigh, scanUnits_code hlow, hscan]; rfl, ?_⟩
      rw [joinUnits, if_pos hpair, hjoin]
      rfl

theorem unitOfHex?_of_lt {c : Char} (hc : c.toNat < 0x20) :
    unitOfHex? '0' '0' (Text.hexDigit (c.toNat / 16)) (Text.hexDigit (c.toNat % 16))
      = some (.char c) := by
  have hcode : ((0 * 16 + 0) * 16 + c.toNat / 16) * 16 + c.toNat % 16 = c.toNat := by omega
  rw [unitOfHex?, Text.hexValue?_hexDigit _ (by omega), Text.hexValue?_hexDigit _ (by omega),
    show Text.hexValue? '0' = some 0 by decide]
  simp only [Option.bind_eq_bind, Option.bind_some, hcode]
  rw [if_neg (by omega), Char.ofNat_toNat]
  rfl

/-- The escaping of one character spells it. -/
theorem spells_escapeChar (c : Char) {cs s : List Char} (h : Spells cs s) :
    Spells (escapeChar c ++ cs) (c :: s) := by
  rw [escapeChar.eq_def]
  split
  case h_8 hquote hslash _ _ _ _ _ =>
    split
    · next hc => exact .code (unitOfHex?_of_lt hc) h
    · next hc => exact .char (by omega) hquote hslash h
  all_goals exact .letter (by decide) h

theorem spells_flatMap_escapeChar (s : List Char) : Spells (s.flatMap escapeChar) s := by
  induction s with
  | nil => exact .nil
  | cons c s ih =>
      rw [List.flatMap_cons]
      exact spells_escapeChar c ih

/-! ## Tokens -/

def mark? : Char → Option Token
  | '\x7b' => some .openBrace
  | '\x7d' => some .closeBrace
  | '[' => some .openBracket
  | ']' => some .closeBracket
  | ',' => some .comma
  | ':' => some .colon
  | _ => none

def word? : Token → Option (List Char)
  | .null => some ['n', 'u', 'l', 'l']
  | .bool true => some ['t', 'r', 'u', 'e']
  | .bool false => some ['f', 'a', 'l', 's', 'e']
  | _ => none

/-- A text and the tokens it consists of. -/
inductive Written : List Char → List Token → Prop
  | nil : Written [] []
  | space {c : Char} {cs : List Char} {ts : List Token} (hc : isSpace c) (h : Written cs ts) :
      Written (c :: cs) ts
  | mark {c : Char} {t : Token} {cs : List Char} {ts : List Token} (hc : mark? c = some t)
      (h : Written cs ts) : Written (c :: cs) (t :: ts)
  | word {w : List Char} {t : Token} {cs : List Char} {ts : List Token} (hw : word? t = some w)
      (h : Written cs ts) : Written (w ++ cs) (t :: ts)
  | text {between s cs : List Char} {ts : List Token} (hs : Spells between s)
      (h : Written cs ts) :
      Written ('"' :: (between ++ '"' :: cs)) (.text (some (String.ofList s)) :: ts)
  | number (n : Numeral) {cs : List Char} {ts : List Token} (hn : NoNumber cs)
      (h : Written cs ts) : Written (n.text ++ cs) (.number n.literal :: ts)

theorem nextToken?_of_mark? {c : Char} {t : Token} (h : mark? c = some t) (rest : List Char) :
    isSpace c = false ∧ nextToken? c rest = some (t, rest) := by
  rw [mark?.eq_def] at h
  split at h
  case h_7 => exact absurd h (Option.some_ne_none t).symm
  all_goals exact ⟨by decide, Option.some.inj h ▸ rfl⟩

theorem nextToken?_of_word? {w : List Char} {t : Token} (h : word? t = some w)
    (rest : List Char) : 0 < w.length ∧ ∃ c tail, w ++ rest = c :: tail ∧ isSpace c = false ∧
      nextToken? c tail = some (t, rest) := by
  rw [word?.eq_def] at h
  split at h
  case h_4 => exact absurd h (Option.some_ne_none w).symm
  all_goals
    obtain rfl := Option.some.inj h
    exact ⟨by decide, _, _, rfl, by decide, rfl⟩

theorem nextToken?_of_spells {between s : List Char} (h : Spells between s) (rest : List Char) :
    nextToken? '"' (between ++ '"' :: rest)
      = some (.text (some (String.ofList s)), rest) := by
  obtain ⟨units, hscan, hjoin⟩ := scanUnits_of_spells h rest
  rw [nextToken?, hscan, Option.map_some]
  dsimp only
  rw [hjoin, Option.map_some]

theorem scanWithin_space {c : Char} (hc : isSpace c) {fuel : Nat} (hfuel : 0 < fuel)
    (rest : List Char) : scanWithin fuel (c :: rest) = scanWithin (fuel - 1) rest := by
  obtain ⟨fuel, rfl⟩ := Nat.exists_eq_succ_of_ne_zero hfuel.ne'
  rw [scanWithin, if_pos hc]
  rfl

theorem scanWithin_token {cs rest : List Char} {t : Token} {fuel : Nat} (hfuel : 0 < fuel)
    (h : ∃ c tail, cs = c :: tail ∧ isSpace c = false ∧ nextToken? c tail = some (t, rest)) :
    scanWithin fuel cs = t :: scanWithin (fuel - 1) rest := by
  obtain ⟨fuel, rfl⟩ := Nat.exists_eq_succ_of_ne_zero hfuel.ne'
  obtain ⟨c, tail, rfl, hspace, hnext⟩ := h
  rw [scanWithin, if_neg (ne_true_of_eq_false hspace), hnext]
  rfl

theorem scanWithin_of_written {cs : List Char} {ts : List Token} (h : Written cs ts) {fuel : Nat}
    (hfuel : cs.length < fuel) : scanWithin fuel cs = ts := by
  induction h generalizing fuel with
  | nil =>
      obtain ⟨fuel, rfl⟩ := Nat.exists_eq_succ_of_ne_zero (Nat.ne_of_gt hfuel)
      rw [scanWithin]
  | space hc _ ih =>
      rw [List.length_cons] at hfuel
      rw [scanWithin_space hc (by omega), ih (by omega)]
  | mark hc _ ih =>
      rw [List.length_cons] at hfuel
      rw [scanWithin_token (by omega) ⟨_, _, rfl, nextToken?_of_mark? hc _⟩, ih (by omega)]
  | word hw _ ih =>
      obtain ⟨hlength, hnext⟩ := nextToken?_of_word? hw _
      rw [List.length_append] at hfuel
      rw [scanWithin_token (by omega) hnext, ih (by omega)]
  | text hs _ ih =>
      rw [List.length_cons, List.length_append, List.length_cons] at hfuel
      rw [scanWithin_token (by omega) ⟨'"', _, rfl, by decide, nextToken?_of_spells hs _⟩,
        ih (by omega)]
  | number n hn _ ih =>
      have hlength := List.length_pos_iff.mpr n.text_ne_nil
      rw [List.length_append] at hfuel
      rw [scanWithin_token (by omega) (n.nextToken?_text hn), ih (by omega)]

/-- The scanner finds the tokens that a text consists of. -/
theorem scan_eq {text : String} {ts : List Token} (h : Written text.toList ts) : scan text = ts :=
  scanWithin_of_written h (Nat.lt_succ_of_le (Nat.le_of_eq String.length_toList))

/-! ## Every token can be written -/

/-- Some text for the token, in front of whatever follows. -/
def Writable (t : Token) : Prop := ∀ cs ts, Written cs ts → ∃ cs', Written cs' (t :: ts)

theorem writable_mark {c : Char} {t : Token} (h : mark? c = some t) : Writable t :=
  fun _ _ hcs => ⟨_, .mark h hcs⟩

theorem writable_text (s : String) : Writable (.text (some s)) := by
  intro cs ts hcs
  have hwritten := Written.text (spells_flatMap_escapeChar s.toList) hcs
  rw [String.ofList_toList] at hwritten
  exact ⟨_, hwritten⟩

/-- A blank keeps a number from going on. -/
theorem writable_number (n : Numeral) : Writable (.number n.literal) := by
  intro cs ts hcs
  have hblank : NoNumber (' ' :: cs) := fun c hc => Option.mem_some.mp hc ▸ by decide
  exact ⟨_, .number n hblank (.space (by decide) hcs)⟩

theorem exists_written {ts : List Token} (h : ∀ t ∈ ts, Writable t) : ∃ cs, Written cs ts := by
  induction ts with
  | nil => exact ⟨[], .nil⟩
  | cons t ts ih =>
      obtain ⟨cs, hcs⟩ := ih fun t' ht' => h t' (List.mem_cons_of_mem t ht')
      exact h t List.mem_cons_self cs ts hcs

end RankedBars.Json
