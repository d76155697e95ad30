import Mathlib.Data.List.Basic
import RankedBars.Csv.Record

/-!
# What quotes keep

The records are cut from bytes, and a text is written in characters. The two
meet because a byte below `0x80` is always a character by itself: no comma,
quote or line end is found inside another character.

So a field between quotes comes out as it was, whatever is in it
(`recordsFrom_quoted`), and a file of two columns as its rows
(`records_eq`). The induction for a file starts at the end of a record, where
the last field is still open: it is the line end in front of the next record
that closes it.
-/

namespace RankedBars.Csv

/-! ## Characters and bytes -/

def bytes (cs : List Char) : List UInt8 := cs.flatMap String.utf8EncodeChar

theorem bytes_cons (c : Char) (cs : List Char) :
    bytes (c :: cs) = String.utf8EncodeChar c ++ bytes cs := rfl

theorem bytes_append (cs cs' : List Char) : bytes (cs ++ cs') = bytes cs ++ bytes cs' :=
  List.flatMap_append

theorem toList_toByteArray (s : String) : s.toByteArray.data.toList = bytes s.toList := by
  rw [← String.ofList_toList (s := s), String.toByteArray_ofList, List.utf8Encode,
    List.data_toByteArray, String.toList_ofList]
  rfl

theorem fieldText?_bytes (cs : List Char) : fieldText? (bytes cs) = some (String.ofList cs) := by
  have hbytes : (bytes cs).toByteArray = (String.ofList cs).toByteArray := rfl
  rw [fieldText?, hbytes, String.fromUTF8?, dif_pos (String.ofList cs).isValidUTF8]
  rfl

theorem utf8EncodeChar_of_lt {c : Char} (hc : c.toNat < 0x80) :
    String.utf8EncodeChar c = [UInt8.ofNat c.toNat] :=
  if_pos (Nat.le_of_lt_succ hc)

theorem le_of_mem_utf8EncodeChar {c : Char} (hc : 0x80 ≤ c.toNat) {b : UInt8}
    (hb : b ∈ String.utf8EncodeChar c) : 0x80 ≤ b.toNat := by
  have hhigh : ¬ c.val.toNat ≤ 127 := Nat.not_le_of_lt hc
  rw [String.utf8EncodeChar] at hb
  rw [if_neg hhigh] at hb
  split at hb
  · simp only [List.mem_cons, List.not_mem_nil, or_false] at hb
    rcases hb with rfl | rfl <;> rw [UInt8.toNat_ofNat'] <;> omega
  · split at hb
    · simp only [List.mem_cons, List.not_mem_nil, or_false] at hb
      rcases hb with rfl | rfl | rfl <;> rw [UInt8.toNat_ofNat'] <;> omega
    · simp only [List.mem_cons, List.not_mem_nil, or_false] at hb
      rcases hb with rfl | rfl | rfl | rfl <;> rw [UInt8.toNat_ofNat'] <;> omega

/-- A byte that is an ASCII character comes from that character. -/
theorem mem_utf8EncodeChar {a c : Char} (ha : a.toNat < 0x80)
    (h : UInt8.ofNat a.toNat ∈ String.utf8EncodeChar c) : c = a := by
  have hvalue : (UInt8.ofNat a.toNat).toNat = a.toNat := by
    rw [UInt8.toNat_ofNat']
    omega
  by_cases hc : c.toNat < 0x80
  · rw [utf8EncodeChar_of_lt hc, List.mem_singleton, ← UInt8.toNat_inj, hvalue,
      UInt8.toNat_ofNat'] at h
    exact Char.toNat_inj.mp (by omega)
  · have := le_of_mem_utf8EncodeChar (Nat.le_of_not_lt hc) h
    omega

/-! ## Fields -/

/-- The pass keeps what it keeps without moving. -/
theorem recordsFrom_keep {place : Place} {bs : List UInt8} (h : ∀ b ∈ bs, act place b = .keep place)
    (field : Field) (fields : Record) (rest : List UInt8) :
    recordsFrom place field fields (bs ++ rest)
      = recordsFrom place (bs.reverse ++ field) fields rest := by
  induction bs generalizing field with
  | nil => rfl
  | cons b bs ih =>
      rw [List.cons_append, recordsFrom, h b List.mem_cons_self]
      dsimp only
      rw [ih fun b' hb' => h b' (List.mem_cons_of_mem b hb'), List.reverse_cons, List.append_assoc]
      rfl

def doubled (c : Char) : List Char := if c = '"' then ['"', '"'] else [c]

/-- A field in quotes. -/
def quoted (cs : List Char) : List Char := '"' :: (cs.flatMap doubled ++ ['"'])

/-- Inside quotes every character counts as itself, and two quotes as one. -/
theorem recordsFrom_doubled (cs : List Char) (field : Field) (fields : Record)
    (rest : List UInt8) : recordsFrom .quoted field fields (bytes (cs.flatMap doubled) ++ rest)
      = recordsFrom .quoted ((bytes cs).reverse ++ field) fields rest := by
  induction cs generalizing field with
  | nil => rfl
  | cons c cs ih =>
      rw [List.flatMap_cons, bytes_append, List.append_assoc, bytes_cons, List.reverse_append,
        List.append_assoc, ← ih]
      by_cases hc : c = '"'
      · subst hc
        rfl
      · have hkeep : ∀ b ∈ String.utf8EncodeChar c, act .quoted b = .keep .quoted := by
          intro b hb
          have hne : b ≠ quotationMark := fun h =>
            hc (mem_utf8EncodeChar (by decide) (h ▸ hb : quotationMark ∈ String.utf8EncodeChar c))
          rw [act, if_neg hne]
        have hone : bytes (doubled c) = String.utf8EncodeChar c := by
          rw [doubled, if_neg hc, bytes_cons]
          exact List.append_nil _
        rw [hone]
        exact recordsFrom_keep hkeep field fields _

theorem recordsFrom_quoted (cs : List Char) (fields : Record) (rest : List UInt8) :
    recordsFrom .recordStart [] fields (bytes (quoted cs) ++ comma :: rest)
      = recordsFrom .fieldStart [] (bytes cs :: fields) rest := by
  have hopen : bytes (quoted cs)
      = quotationMark :: (bytes (cs.flatMap doubled) ++ [quotationMark]) := by
    rw [quoted, bytes_cons, bytes_append]
    rfl
  have hact : act .recordStart quotationMark = .drop .quoted := rfl
  rw [hopen, List.cons_append, recordsFrom, hact, List.append_assoc]
  dsimp only
  rw [recordsFrom_doubled, List.append_nil]
  change recordsFrom .fieldStart [] ((bytes cs).reverse.reverse :: fields) rest = _
  rw [List.reverse_reverse]

def EndsLine (c : Char) : Prop := c = '\n' ∨ c = '\r'

/-- A character that means nothing but itself where a field has no quotes. -/
def IsPlain (c : Char) : Prop := c ≠ ',' ∧ c ≠ '"' ∧ ¬ EndsLine c

theorem ne_of_isPlain {c : Char} (hc : IsPlain c) {b : UInt8} (hb : b ∈ String.utf8EncodeChar c) :
    b ≠ comma ∧ b ≠ quotationMark ∧ isLineEnd b = false := by
  obtain ⟨hcomma, hquote, hend⟩ := hc
  have hne {a : Char} (ha : a.toNat < 0x80) (hca : c ≠ a) : b ≠ UInt8.ofNat a.toNat :=
    fun h => hca (mem_utf8EncodeChar ha (h ▸ hb))
  have hnewline : b ≠ 0x0A := hne (a := '\n') (by decide) fun h => hend (.inl h)
  have hreturn : b ≠ 0x0D := hne (a := '\r') (by decide) fun h => hend (.inr h)
  refine ⟨hne (a := ',') (by decide) hcomma, hne (a := '"') (by decide) hquote, ?_⟩
  rw [isLineEnd, decide_eq_false hnewline, decide_eq_false hreturn]
  rfl

theorem recordsFrom_plain {cs : List Char} (hne : cs ≠ []) (hplain : ∀ c ∈ cs, IsPlain c)
    (fields : Record) (rest : List UInt8) :
    recordsFrom .fieldStart [] fields (bytes cs ++ rest)
      = recordsFrom .plain (bytes cs).reverse fields rest := by
  have hbytes : ∀ b ∈ bytes cs, b ≠ quotationMark ∧ act .plain b = .keep .plain := by
    intro b hb
    obtain ⟨c, hc, hb⟩ := List.mem_flatMap.mp hb
    obtain ⟨hcomma, hquote, hend⟩ := ne_of_isPlain (hplain c hc) hb
    rw [act, actPlain, if_neg hcomma, if_neg (ne_true_of_eq_false hend)]
    exact ⟨hquote, rfl⟩
  have hsome : bytes cs ≠ [] := by
    obtain ⟨c, rest, rfl⟩ := List.exists_cons_of_ne_nil hne
    rw [bytes_cons]
    exact List.append_ne_nil_of_left_ne_nil String.utf8EncodeChar_ne_nil _
  obtain ⟨b, bs, hcons⟩ := List.exists_cons_of_ne_nil hsome
  rw [hcons] at hbytes ⊢
  obtain ⟨hquote, hact⟩ := hbytes b List.mem_cons_self
  have hstart : act .fieldStart b = .keep .plain := by
    rw [act, if_neg hquote]
    exact hact
  rw [List.cons_append, recordsFrom, hstart]
  dsimp only
  rw [recordsFrom_keep fun b' hb' => (hbytes b' (List.mem_cons_of_mem b hb')).2, List.reverse_cons]

/-! ## Files -/

theorem recordsFrom_drop {ends : List Char} (h : ∀ c ∈ ends, EndsLine c) (rest : List UInt8) :
    recordsFrom .recordStart [] [] (bytes ends ++ rest) = recordsFrom .recordStart [] [] rest := by
  induction ends with
  | nil => rfl
  | cons c ends ih =>
      rw [← ih fun c' hc' => h c' (List.mem_cons_of_mem c hc')]
      rcases h c List.mem_cons_self with rfl | rfl <;> rfl

/-- Line ends close the record and are no records themselves. -/
theorem recordsFrom_endRecord {ends : List Char} (hne : ends ≠ []) (h : ∀ c ∈ ends, EndsLine c)
    (field : Field) (fields : Record) (rest : List UInt8) :
    recordsFrom .plain field fields (bytes ends ++ rest)
      = (field.reverse :: fields).reverse :: recordsFrom .recordStart [] [] rest := by
  obtain ⟨c, ends, rfl⟩ := List.exists_cons_of_ne_nil hne
  rw [← recordsFrom_drop (fun c' hc' => h c' (List.mem_cons_of_mem c hc')) rest]
  rcases h c List.mem_cons_self with rfl | rfl <;> rfl

/-- What follows the first line of a file, and its rows: each is a field in
quotes and one without, on a line of its own. -/
inductive Lines : List Char → List (List Char × List Char) → Prop
  | stop {ends : List Char} (hends : ∀ c ∈ ends, EndsLine c) : Lines ends []
  | row {ends : List Char} (hne : ends ≠ []) (hends : ∀ c ∈ ends, EndsLine c)
      (first second : List Char) {cs : List Char} {rows : List (List Char × List Char)}
      (h : Lines cs rows) :
      Lines (ends ++ (quoted first ++ ',' :: second) ++ cs) ((first, second) :: rows)

theorem recordsFrom_lines {cs : List Char} {rows : List (List Char × List Char)}
    (h : Lines cs rows) (hplain : ∀ row ∈ rows, row.2 ≠ [] ∧ ∀ c ∈ row.2, IsPlain c)
    (field : Field) (fields : Record) :
    recordsFrom .plain field fields (bytes cs) = (field.reverse :: fields).reverse ::
      rows.map fun row => [bytes row.1, bytes row.2] := by
  induction h generalizing field fields with
  | @stop ends hends =>
      by_cases hnil : ends = []
      · subst hnil
        rfl
      · rw [← List.append_nil (bytes ends), recordsFrom_endRecord hnil hends]
        rfl
  | @row ends hne hends first second cs rows _ ih =>
      -- The line end closes the record before; the second field of this one
      -- stays open.
      obtain ⟨hsecond, hrows⟩ := List.forall_mem_cons.mp hplain
      have hcomma : bytes (',' :: second) = comma :: bytes second := rfl
      rw [bytes_append, bytes_append, List.append_assoc, recordsFrom_endRecord hne hends,
        bytes_append, hcomma, List.append_assoc, List.cons_append, recordsFrom_quoted,
        recordsFrom_plain hsecond.1 hsecond.2, ih hrows, List.reverse_reverse]
      rfl

theorem records_eq {text : String} {cs : List Char} {rows : List (List Char × List Char)}
    (htext : text.toList = "label,value".toList ++ cs) (h : Lines cs rows)
    (hplain : ∀ row ∈ rows, row.2 ≠ [] ∧ ∀ c ∈ row.2, IsPlain c) :
    records text.toByteArray = [bytes "label".toList, bytes "value".toList] ::
      rows.map fun row => [bytes row.1, bytes row.2] := by
  have hlines := recordsFrom_lines h hplain (bytes "value".toList).reverse [bytes "label".toList]
  rw [List.reverse_reverse] at hlines
  rw [records, toList_toByteArray, htext, bytes_append]
  exact hlines

end RankedBars.Csv
