/-!
# Blanks

What counts as white space, and text without the white space around it.
-/

namespace RankedBars.Text

/-- White space of every script, line ends included. -/
def isBlank (c : Char) : Bool :=
  let n := c.toNat
  9 ≤ n && n ≤ 13 || n == 0x20 || n == 0x85 || n == 0xA0 || n == 0x1680 || 0x2000 ≤ n && n ≤ 0x200A
    || n == 0x2028 || n == 0x2029 || n == 0x202F || n == 0x205F || n == 0x3000

/-- The characters between the first and the last one that is not blank. -/
def trimChars (cs : List Char) : List Char :=
  ((cs.dropWhile isBlank).reverse.dropWhile isBlank).reverse

theorem dropWhile_isBlank_of_head {cs : List Char} (h : ∀ c ∈ cs.head?, isBlank c = false) :
    cs.dropWhile isBlank = cs := by
  cases cs with
  | nil => rfl
  | cons c rest => rw [List.dropWhile_cons, h c rfl, if_neg Bool.false_ne_true]

/-- Text that neither starts nor ends with a blank is what is left of it between
blanks. -/
theorem trimChars_between {left cs right : List Char} (hleft : ∀ c ∈ left, isBlank c)
    (hright : ∀ c ∈ right, isBlank c) (hne : cs ≠ []) (hhead : ∀ c ∈ cs.head?, isBlank c = false)
    (hlast : ∀ c ∈ cs.getLast?, isBlank c = false) : trimChars (left ++ cs ++ right) = cs := by
  have hfront : ∀ c ∈ (cs ++ right).head?, isBlank c = false := by
    obtain ⟨first, rest, rfl⟩ := List.exists_cons_of_ne_nil hne
    exact hhead
  have hback : ∀ c ∈ cs.reverse.head?, isBlank c = false := by
    rw [List.head?_reverse]
    exact hlast
  rw [trimChars, List.append_assoc, List.dropWhile_append_of_pos hleft,
    dropWhile_isBlank_of_head hfront, List.reverse_append,
    List.dropWhile_append_of_pos fun c hc => hright c (List.mem_reverse.mp hc),
    dropWhile_isBlank_of_head hback, List.reverse_reverse]

/-- Text that neither starts nor ends with a blank is left as it is. -/
theorem trimChars_of_ends {cs : List Char} (hhead : ∀ c ∈ cs.head?, isBlank c = false)
    (hlast : ∀ c ∈ cs.getLast?, isBlank c = false) : trimChars cs = cs := by
  by_cases hne : cs = []
  · rw [hne]
    rfl
  · have hnone : ∀ c ∈ ([] : List Char), isBlank c := fun _ hc => absurd hc List.not_mem_nil
    have htrim := trimChars_between hnone hnone hne hhead hlast
    rwa [List.nil_append, List.append_nil] at htrim

/-- Text without the white space at its ends. -/
def trim (s : String) : String := String.ofList (trimChars s.toList)

end RankedBars.Text
