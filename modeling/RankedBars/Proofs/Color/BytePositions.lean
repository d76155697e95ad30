import RankedBars.Proofs.Color.Spelling

/-!
# Byte positions

The pairs of a color are cut out of its text by byte positions. A text cannot be
cut inside of a character or past its end, and an attempt to do so ends
everything. It never comes to that: the cuts are only made in a text of ASCII
that is long enough (`ofBytes_eq`). So every text is either read or refused, and
the ones that are read are known (`accepted_spellings`).
-/

namespace RankedBars

namespace Text

variable {cs : List Char} {n : Nat}

def byteCount : List Char → Nat
  | [] => 0
  | c :: cs => c.utf8Size + byteCount cs

/-- Cuts a text behind its first `n` bytes. A place inside of a character or
past the end is none to cut at. -/
def cutAtByte? : (n : Nat) → List Char → Option (List Char × List Char)
  | 0, cs => some ([], cs)
  | _ + 1, [] => none
  | n + 1, c :: cs =>
      if c.utf8Size ≤ n + 1 then
        (cutAtByte? (n + 1 - c.utf8Size) cs).map fun (front, back) => (c :: front, back)
      else none

/-- The characters of the `count` bytes behind the first `start` ones. -/
def bytesAt? (start count : Nat) (cs : List Char) : Option (List Char) := do
  let (_, behind) ← cutAtByte? start cs
  let (front, _) ← cutAtByte? count behind
  return front

theorem utf8Size_of_lt {c : Char} (hc : c.toNat < 128) : c.utf8Size = 1 := by
  rw [Char.utf8Size_eq_one_iff, UInt32.le_iff_toNat_le]
  exact Nat.le_of_lt_succ hc

theorem byteCount_of_ascii (h : ∀ c ∈ cs, c.toNat < 128) : byteCount cs = cs.length := by
  induction cs with
  | nil => rfl
  | cons c rest ih =>
      obtain ⟨hc, hrest⟩ := List.forall_mem_cons.mp h
      rw [byteCount, utf8Size_of_lt hc, ih hrest, List.length_cons, Nat.add_comm]

/-- Characters of ASCII are cut apart wherever they are. -/
theorem cutAtByte?_of_ascii (h : ∀ c ∈ cs, c.toNat < 128) (hn : n ≤ cs.length) :
    cutAtByte? n cs = some (cs.take n, cs.drop n) := by
  induction cs generalizing n with
  | nil =>
      obtain rfl := Nat.le_zero.mp hn
      rfl
  | cons c rest ih =>
      cases n with
      | zero => rfl
      | succ n =>
          obtain ⟨hc, hrest⟩ := List.forall_mem_cons.mp h
          rw [List.length_cons] at hn
          rw [cutAtByte?, utf8Size_of_lt hc, if_pos (by omega), Nat.add_sub_cancel,
            ih hrest (by omega)]
          rfl

theorem bytesAt?_of_ascii (h : ∀ c ∈ cs, c.toNat < 128) {start count : Nat}
    (hend : start + count ≤ cs.length) :
    bytesAt? start count cs = some ((cs.drop start).take count) := by
  have hdrop : ∀ c ∈ cs.drop start, c.toNat < 128 := fun c hc => h c (List.mem_of_mem_drop hc)
  have hcount : count ≤ (cs.drop start).length := by
    rw [List.length_drop]
    omega
  rw [bytesAt?, cutAtByte?_of_ascii h (by omega)]
  change (cutAtByte? count (cs.drop start)).bind _ = _
  rw [cutAtByte?_of_ascii hdrop hcount]
  rfl

end Text

namespace Color

variable {high low : Char} {cs : List Char} {c : Color} {s : String}

/-! ## Reading by byte positions -/

/-- What becomes of a pair of the digits of `s`. -/
def byteOf (s : String) (high low : Char) : ExceptT ShapeError Option UInt8 :=
  match pair? high low with
  | some b => pure b
  | none => throw (.badColor s)

/-- The byte that is written at a byte position of the digits of `s`. -/
def byteAt (s : String) (digits : List Char) (start : Nat) : ExceptT ShapeError Option UInt8 :=
  match Text.bytesAt? start 2 digits with
  | none => ExceptT.lift none
  | some [high, low] => byteOf s high low
  | some _ => throw (.badColor s)

/-- Reads a color by the byte positions of its text. A cut that cannot be made
is no refusal of the text: it leaves no result of either kind. -/
def ofBytes (s : String) : ExceptT ShapeError Option Color := do
  let digits := (Text.trimChars s.toList).dropWhile (· = '#')
  let size := Text.byteCount digits
  if ¬ ((size = 6 ∨ size = 8) ∧ digits.all (·.toNat < 128)) then throw (.badColor s)
  let alpha ← if size = 8 then byteAt s digits 6 else pure 255
  return ⟨← byteAt s digits 0, ← byteAt s digits 2, ← byteAt s digits 4, alpha⟩

theorem byteAt_of_ascii (s : String) (front : List Char) {back : List Char}
    (h : ∀ c ∈ front ++ high :: low :: back, c.toNat < 128) :
    byteAt s (front ++ high :: low :: back) front.length = byteOf s high low := by
  have hend : front.length + 2 ≤ (front ++ high :: low :: back).length := by
    simp only [List.length_append, List.length_cons]
    omega
  rw [byteAt, Text.bytesAt?_of_ascii h hend, List.drop_left]
  rfl

/-- A color is written with six or eight characters of ASCII. -/
theorem ascii_of_ofPairs? (h : ofPairs? cs = some c) :
    (cs.length = 6 ∨ cs.length = 8) ∧ ∀ c ∈ cs, c.toNat < 128 := by
  obtain ⟨pairs, rfl, hlength, hpairs⟩ := exists_ofPairs?_iff.mp ⟨c, h⟩
  refine ⟨by rw [length_joined]; omega, fun c hc => ?_⟩
  obtain ⟨p, hp, rfl | rfl⟩ := mem_joined.mp hc
  · obtain hplus | hdigit := (hpairs p hp).1
    · rw [hplus]
      decide
    · exact Text.toNat_lt_of_isHexDigit hdigit
  · exact Text.toNat_lt_of_isHexDigit (hpairs p hp).2

theorem all_ascii_iff : cs.all (·.toNat < 128) = true ↔ ∀ c ∈ cs, c.toNat < 128 := by
  simp only [List.all_eq_true, decide_eq_true_eq]

/-- No cut fails, and the bytes are those of the pairs. -/
theorem ofBytes_eq (s : String) : (ofBytes s).run = some (ofText s) := by
  rw [ofBytes, ofText, ofText?]
  generalize (Text.trimChars s.toList).dropWhile (· = '#') = digits
  by_cases hguard : (Text.byteCount digits = 6 ∨ Text.byteCount digits = 8) ∧
      digits.all (·.toNat < 128) = true
  · obtain ⟨hlength, hall⟩ := hguard
    have hascii := all_ascii_iff.mp hall
    -- the sizes are counted in bytes, and in ASCII these are the characters
    have hsize := Text.byteCount_of_ascii hascii
    rw [hsize] at hlength
    obtain ⟨r1, r2, g1, g2, b1, b2, rfl⟩ | ⟨r1, r2, g1, g2, b1, b2, a1, a2, rfl⟩ :=
      six_or_eight hlength
    · have hred : byteAt s [r1, r2, g1, g2, b1, b2] 0 = _ := byteAt_of_ascii s [] hascii
      have hgreen : byteAt s [r1, r2, g1, g2, b1, b2] 2 = _ := byteAt_of_ascii s [r1, r2] hascii
      have hblue : byteAt s [r1, r2, g1, g2, b1, b2] 4 = _ :=
        byteAt_of_ascii s [r1, r2, g1, g2] hascii
      dsimp only
      rw [hsize, hred, hgreen, hblue, if_neg (not_not_intro ⟨.inl rfl, hall⟩), ofPairs?, byteOf,
        byteOf, byteOf]
      cases pair? r1 r2 <;> cases pair? g1 g2 <;> cases pair? b1 b2 <;> rfl
    · have hred : byteAt s [r1, r2, g1, g2, b1, b2, a1, a2] 0 = _ := byteAt_of_ascii s [] hascii
      have hgreen : byteAt s [r1, r2, g1, g2, b1, b2, a1, a2] 2 = _ :=
        byteAt_of_ascii s [r1, r2] hascii
      have hblue : byteAt s [r1, r2, g1, g2, b1, b2, a1, a2] 4 = _ :=
        byteAt_of_ascii s [r1, r2, g1, g2] hascii
      have halpha : byteAt s [r1, r2, g1, g2, b1, b2, a1, a2] 6 = _ :=
        byteAt_of_ascii s [r1, r2, g1, g2, b1, b2] hascii
      dsimp only
      rw [hsize, hred, hgreen, hblue, halpha, if_neg (not_not_intro ⟨.inr rfl, hall⟩), ofPairs?,
        byteOf, byteOf, byteOf, byteOf]
      cases pair? r1 r2 <;> cases pair? g1 g2 <;> cases pair? b1 b2 <;> cases pair? a1 a2 <;> rfl
  · have hnone : ofPairs? digits = none := by
      cases hsome : ofPairs? digits with
      | none => rfl
      | some c =>
          obtain ⟨hlength, hascii⟩ := ascii_of_ofPairs? hsome
          rw [← Text.byteCount_of_ascii hascii] at hlength
          exact absurd ⟨hlength, all_ascii_iff.mpr hascii⟩ hguard
    dsimp only
    rw [if_pos hguard, hnone]
    rfl

/-! ## What is read and what is refused -/

theorem ofText_eq_ok_iff : ofText s = .ok c ↔ ofText? s = some c := by
  rw [ofText]
  cases ofText? s <;> simp

theorem ofText_eq_error_iff : ofText s = .error (.badColor s) ↔ ofText? s = none := by
  rw [ofText]
  cases ofText? s <;> simp

/-- A text is read as a color if it is one of the accepted spellings, and in
every other case it is refused as it was given; the cuts by byte positions never
fail. Of the accepted spellings those are documented that hold no plus and do
not start with two number signs. -/
theorem accepted_spellings (s : String) :
    ((∃ c, ofText s = .ok c) ↔ Accepted s) ∧
    (ofText s = .error (.badColor s) ↔ ¬ Accepted s) ∧
    (ofBytes s).run = some (ofText s) ∧
    (WellFormed s ↔ Accepted s ∧
      '+' ∉ Text.trimChars s.toList ∧ ¬ ['#', '#'] <+: Text.trimChars s.toList) := by
  simp only [ofText_eq_ok_iff]
  refine ⟨exists_ofText?_iff, ?_, ofBytes_eq s, wellFormed_iff⟩
  rw [ofText_eq_error_iff, ← exists_ofText?_iff, not_exists, Option.eq_none_iff_forall_ne_some]

/-- Signed digits are read as a color, and so are digits behind two number
signs. -/
theorem undocumented_spellings_are_read :
    (ofText "#+f+f+f" = .ok (.solid 0x0F 0x0F 0x0F) ∧ ¬ WellFormed "#+f+f+f") ∧
      ofText "##ff0000" = .ok (.solid 0xFF 0 0) ∧ ¬ WellFormed "##ff0000" := by
  refine ⟨⟨ofText_eq_ok_iff.mpr (by decide), ?_⟩, ofText_eq_ok_iff.mpr (by decide), ?_⟩
  · rw [wellFormed_iff]
    exact fun h => h.2.1 (by decide)
  · rw [wellFormed_iff]
    exact fun h => h.2.2 (by decide)

end Color

end RankedBars
