import Mathlib.Data.List.Basic
import RankedBars.FileTree

/-!
# Paths of files in a directory

A path is cut where a slash stands, so a name without slashes is one part of
whatever path it is put at the end of. It follows that joining a directory
and a file name means what it looks like, also for a directory that is given
with a slash at its end, or as nothing at all: the joined path starts where
that of the directory starts, and the names that it leads through are those
of the directory and then the file name.
-/

namespace RankedBars.FileTree

section

variable {separator : Char}

theorem splitAtChar_ne_nil (separator : Char) (text : List Char) :
    splitAtChar separator text ≠ [] := by
  induction text with
  | nil => simp [splitAtChar]
  | cons c rest ih =>
      rw [splitAtChar]
      split
      · exact List.cons_ne_nil _ _
      · simpa using ih

theorem splitAtChar_append (before after : List Char) :
    splitAtChar separator (before ++ separator :: after)
      = splitAtChar separator before ++ splitAtChar separator after := by
  induction before with
  | nil => simp [splitAtChar]
  | cons c rest ih =>
      rw [List.cons_append, splitAtChar, splitAtChar, ih]
      split
      · rfl
      · obtain ⟨first, more, hfirst⟩ :=
          List.exists_cons_of_ne_nil (splitAtChar_ne_nil separator rest)
        rw [hfirst]
        rfl

theorem splitAtChar_of_not_mem {text : List Char} (h : separator ∉ text) :
    splitAtChar separator text = [text] := by
  induction text with
  | nil => rfl
  | cons c rest ih =>
      rw [List.mem_cons, not_or] at h
      rw [splitAtChar, if_neg (Ne.symm h.1), ih h.2]
      rfl

end

/-- A name that a file can have in any directory. -/
structure IsFileName (name : String) : Prop where
  slash : '/' ∉ name.toList
  ne_empty : name ≠ ""
  ne_here : name ≠ "."
  ne_up : name ≠ ".."

variable {directory name : String}

theorem parts_of_isFileName (h : IsFileName name) : parts '/' name = [name] := by
  rw [parts, splitAtChar_of_not_mem h.slash, List.map_singleton, String.ofList_toList]

/-- A joined path ends in the name, and what stands before it is the
directory. -/
theorem parts_join (directory : String) (h : IsFileName name) : ∃ front,
    parts '/' (join directory name) = front ++ [name] ∧
      front.filter (fun part => part ≠ "" && part ≠ ".") = names directory := by
  have hlast := parts_of_isFileName h
  rw [parts] at hlast
  by_cases hempty : directory = ""
  · refine ⟨[], ?_, ?_⟩
    · rw [join, if_pos (.inl hempty), hempty, String.empty_append]
      exact hlast
    · rw [hempty]
      rfl
  · cases hends : directory.endsWith "/" with
    | true =>
        have hsuffix : ['/'] <:+ directory.toList := by
          rw [String.endsWith_eq_endsWith_toSlice] at hends
          simpa using String.Slice.endsWith_string_iff.mp hends
        obtain ⟨stem, hstem⟩ := hsuffix
        refine ⟨(splitAtChar '/' stem).map String.ofList, ?_, ?_⟩
        · rw [join, if_pos (.inr hends), parts, String.toList_append, ← hstem, List.append_assoc]
          show (splitAtChar '/' (stem ++ '/' :: name.toList)).map String.ofList = _
          rw [splitAtChar_append, List.map_append, hlast]
        · rw [names, parts, ← hstem, splitAtChar_append, List.map_append, List.filter_append]
          simp [splitAtChar]
    | false =>
        refine ⟨parts '/' directory, ?_, rfl⟩
        rw [join, if_neg (by simp [hempty, hends]), parts, String.toList_append,
          String.toList_append, List.append_assoc]
        show (splitAtChar '/' (directory.toList ++ '/' :: name.toList)).map String.ofList = _
        rw [splitAtChar_append, List.map_append, hlast, parts]

theorem names_join (h : IsFileName name) :
    names (join directory name) = names directory ++ [name] := by
  obtain ⟨front, hparts, hfront⟩ := parts_join directory h
  rw [names, hparts, List.filter_append, hfront]
  simp [h.ne_empty, h.ne_here]

theorem namesDirectory_join (h : IsFileName name) :
    namesDirectory (join directory name) = false := by
  obtain ⟨front, hparts, -⟩ := parts_join directory h
  rw [namesDirectory, hparts, List.getLast?_concat]
  simp [h.ne_empty, h.ne_here, h.ne_up]

theorem join_ne_empty (h : IsFileName name) : join directory name ≠ "" := by
  rw [join]
  split
  · simp [String.append_eq_empty_iff, h.ne_empty]
  · simp [String.append_eq_empty_iff]

theorem origin_join (tree : FileTree) (h : IsFileName name) :
    tree.origin (join directory name) = tree.origin directory := by
  have hstarts : (join directory name).startsWith "/" = directory.startsWith "/" := by
    rw [Bool.eq_iff_iff, String.startsWith_string_iff, String.startsWith_string_iff, join]
    by_cases hempty : directory = ""
    · subst hempty
      rw [if_pos (.inl rfl), String.empty_append]
      refine iff_of_false (fun hprefix => h.slash ?_) (by simp)
      exact hprefix.subset (List.mem_singleton_self _)
    · obtain ⟨c, more, hcons⟩ := List.exists_cons_of_ne_nil
        (fun hnil => hempty (String.toList_eq_nil_iff.mp hnil))
      split <;> simp [hcons]
  rw [origin, origin, hstarts]

end RankedBars.FileTree
