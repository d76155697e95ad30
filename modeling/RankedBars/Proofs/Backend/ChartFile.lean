import RankedBars.Backend.Svg
import RankedBars.Proofs.Files.Directory

/-!
# The file of a chart

A container that may name a file is a name for a file in any directory, so
the file of a chart lies directly in the directory of its backend, and the
files of two containers are two. With that, generating and destroying are a
file written and a file removed at one place of the tree. Which of the two
goes through depends on the place alone: `HasRoom` says that the directory is
there, that the name fits and that no directory is in the way, and neither a
chart that comes nor one that goes can change that.
-/

namespace RankedBars.Svg

open FileTree (IsFileName longestName)

/-- A name of ASCII letters and digits, hyphens and underscores. -/
def IsPlainName (container : String) : Prop :=
  container ≠ "" ∧ ∀ c ∈ container.toList, c.isAlphanum = true ∨ c = '-' ∨ c = '_'

theorem mayName_iff (c : Char) : mayName c = true ↔ c.isAlphanum = true ∨ c = '-' ∨ c = '_' := by
  have hrange (low high : Char) : (decide (c.val ≥ low.val) && decide (c.val ≤ high.val)) = true ↔
      low ≤ c ∧ c ≤ high :=
    Bool.and_eq_true_iff.trans (and_congr decide_eq_true_iff decide_eq_true_iff)
  have hupper : c.isUpper = true ↔ 'A' ≤ c ∧ c ≤ 'Z' := decide_eq_true_iff
  have hlower : c.isLower = true ↔ 'a' ≤ c ∧ c ≤ 'z' := hrange 'a' 'z'
  have hdigit : c.isDigit = true ↔ '0' ≤ c ∧ c ≤ '9' := hrange '0' '9'
  have halphanum : c.isAlphanum = true ↔ (c.isUpper = true ∨ c.isLower = true) ∨ c.isDigit = true :=
    Bool.or_eq_true_iff.trans (or_congr_left Bool.or_eq_true_iff)
  rw [halphanum, hupper, hlower, hdigit]
  simp only [mayName, Bool.or_eq_true, Bool.and_eq_true, decide_eq_true_eq, or_assoc]
  exact or_left_comm

theorem isValidContainer_iff {container : String} :
    isValidContainer container = true ↔ IsPlainName container := by
  simp only [isValidContainer, IsPlainName, Bool.and_eq_true, decide_eq_true_eq, List.all_eq_true,
    mayName_iff]

/-- The name of the file of a container. -/
def fileName (container : String) : String := container ++ ".svg"

theorem fileName_inj {container other : String} :
    fileName container = fileName other ↔ container = other := String.append_left_inj _

theorem isFileName_of_valid {container : String} (h : isValidContainer container = true) :
    IsFileName (fileName container) := by
  have hlength : 4 ≤ (fileName container).toList.length := by
    rw [fileName, String.toList_append, List.length_append]
    exact Nat.le_add_left ..
  have hlonger {short : String} (hshort : short.toList.length < 4) :
      fileName container ≠ short := by
    intro heq
    rw [heq] at hlength
    omega
  refine ⟨?_, hlonger (by decide), hlonger (by decide), hlonger (by decide)⟩
  rw [fileName, String.toList_append, List.mem_append, not_or]
  refine ⟨fun hslash => ?_, by decide⟩
  rcases (isValidContainer_iff.mp h).2 '/' hslash with hc | hc | hc
  · exact absurd hc (by decide)
  · exact absurd hc (by decide)
  · exact absurd hc (by decide)

/-- Where the file of a container lies. -/
def Settings.placeFor (settings : Settings) (tree : FileTree) (container : String) : Location :=
  tree.placeOf settings.directory ++ [fileName container]

/-- What the file of a chart holds. -/
def Settings.drawing (settings : Settings) (config : ChartConfig) : String :=
  (Chart.draw config (.ofTag settings.localeTag)).svg

variable {settings : Settings} {tree made : FileTree} {container : String} {config : ChartConfig}
  {s s' : Store}

theorem placeFor_ne_nil : settings.placeFor tree container ≠ [] :=
  List.append_ne_nil_of_right_ne_nil _ (List.cons_ne_nil _ _)

/-- The path of a container leads to its file, which lies directly in the
directory. -/
theorem placeOf_pathFor (h : isValidContainer container = true) :
    tree.placeOf (settings.pathFor container) = settings.placeFor tree container :=
  FileTree.placeOf_join (isFileName_of_valid h)

/-- Nothing is in the way of the file of a container, and the directory is
there. -/
structure HasRoom (settings : Settings) (tree : FileTree) (container : String) : Prop where
  directory : tree.HasDirectory settings.directory
  fits : (fileName container).utf8ByteSize ≤ longestName
  free : tree.node? (settings.placeFor tree container) ≠ some .directory

theorem HasRoom.put (h : HasRoom settings tree container) (content : ByteArray) :
    HasRoom settings (tree.put (settings.placeFor tree container) (.file content)) container := by
  refine ⟨h.directory.put_file h.free content, h.fits, ?_⟩
  show FileTree.node? _ (settings.placeFor tree container) ≠ _
  rw [FileTree.node?_put_self _ _ placeFor_ne_nil]
  exact nofun

theorem HasRoom.erase (h : HasRoom settings tree container) :
    HasRoom settings (tree.erase (settings.placeFor tree container)) container := by
  refine ⟨h.directory.erase h.free, h.fits, ?_⟩
  show FileTree.node? _ (settings.placeFor tree container) ≠ _
  rw [FileTree.node?_erase_self _ placeFor_ne_nil]
  exact nofun

/-- There is room for a chart exactly where its file can be written. -/
theorem hasRoom_iff (hvalid : isValidContainer container = true)
    (hdirectory : tree.HasDirectory settings.directory) :
    HasRoom settings tree container ↔ tree.CanWrite (settings.pathFor container) := by
  have hname := isFileName_of_valid hvalid
  have hlocate := FileTree.locate_join hdirectory hname
  have hplace : tree.placeOf (settings.pathFor container) = settings.placeFor tree container :=
    placeOf_pathFor hvalid
  constructor
  · intro h
    rw [if_neg (Nat.not_lt.mpr h.fits)] at hlocate
    refine ⟨?_, FileTree.namesDirectory_join hname, ?_⟩
    · rw [hplace]
      exact hlocate
    · rw [hplace]
      exact h.free
  · intro h
    refine ⟨hdirectory, ?_, ?_⟩
    · by_contra hlong
      rw [if_pos (Nat.not_le.mp hlong)] at hlocate
      cases hlocate.symm.trans h.located
    · rw [← hplace]
      exact h.free

namespace Store

/-- In a free container a chart is generated by creating the directory and
writing the file. -/
theorem generate_of_idle (hvalid : isValidContainer config.container = true)
    (hidle : s.isLive config.container = false)
    (hmade : s.files.createDirectories settings.directory = (.ok (), made)) :
    generate settings config s
      = match made.writeText (settings.pathFor config.container) (settings.drawing config) with
        | .error e => (.error (.drawing e.message), { s with files := made })
        | .ok files => (.ok ⟨config.container, settings.pathFor config.container⟩,
          ⟨config.container :: s.live, files⟩) := by
  simp only [generate, hvalid, hidle, hmade, Bool.not_true, Bool.false_eq_true, if_false]
  rfl

theorem generate_of_hasRoom (hvalid : isValidContainer config.container = true)
    (hidle : s.isLive config.container = false)
    (hmade : s.files.createDirectories settings.directory = (.ok (), made))
    (hroom : HasRoom settings made config.container) :
    generate settings config s = (.ok ⟨config.container, settings.pathFor config.container⟩,
      ⟨config.container :: s.live, made.put (settings.placeFor made config.container)
        (.file (settings.drawing config).toByteArray)⟩) := by
  have hwrite := (hasRoom_iff hvalid hroom.directory).mp hroom
  rw [generate_of_idle hvalid hidle hmade, FileTree.writeText, hwrite.write_eq,
    placeOf_pathFor hvalid]

/-- Only where there was room is a chart generated. -/
theorem generate_ok {handle : Handle} (h : generate settings config s = (.ok handle, s')) :
    isValidContainer config.container = true ∧ s.isLive config.container = false ∧
    ∃ made, s.files.createDirectories settings.directory = (.ok (), made) ∧
      HasRoom settings made config.container := by
  cases hvalid : isValidContainer config.container with
  | false => simp [generate, hvalid] at h
  | true =>
      cases hidle : s.isLive config.container with
      | true =>
          rw [generate] at h
          simp [hvalid, hidle] at h
      | false =>
          refine ⟨rfl, rfl, ?_⟩
          rcases hmade : s.files.createDirectories settings.directory with ⟨e | _, made⟩
          · simp [generate, hvalid, hidle, hmade] at h
          · have hdirectory := FileTree.hasDirectory_of_createDirectories hmade
            rw [generate_of_idle hvalid hidle hmade] at h
            cases hwrite : made.writeText (settings.pathFor config.container)
                (settings.drawing config) with
            | error e =>
                rw [hwrite] at h
                cases h
            | ok files =>
                exact ⟨made, rfl, (hasRoom_iff hvalid hdirectory).mpr (.of_write hwrite)⟩

/-- Destroying a chart removes the file of its container, if there is one. -/
theorem destroy_eq (hvalid : isValidContainer container = true)
    (hdirectory : s.files.HasDirectory settings.directory)
    (hfits : (fileName container).utf8ByteSize ≤ longestName) :
    destroy ⟨container, settings.pathFor container⟩ s
      = match s.files.node? (settings.placeFor s.files container) with
        | none => (.ok (), { s with live := s.live.filter (· ≠ container) })
        | some .directory =>
            (.error (.io .isADirectory), { s with live := s.live.filter (· ≠ container) })
        | some (.file _) => (.ok (), ⟨s.live.filter (· ≠ container),
            s.files.erase (settings.placeFor s.files container)⟩) := by
  have hremove := FileTree.removeFile_join hdirectory (isFileName_of_valid hvalid) hfits
  rw [destroy]
  simp only [Settings.pathFor]
  rw [fileName] at hremove
  rw [hremove]
  simp only [Settings.placeFor, fileName]
  cases s.files.node? (s.files.placeOf settings.directory ++ [container ++ ".svg"]) with
  | none => rfl
  | some node => cases node <;> rfl

theorem destroy_of_drawn (hvalid : isValidContainer container = true)
    (hroom : HasRoom settings made container) (live : List String) (content : ByteArray) :
    destroy ⟨container, settings.pathFor container⟩
        ⟨live, made.put (settings.placeFor made container) (.file content)⟩
      = (.ok (), ⟨live.filter (· ≠ container),
          made.erase (settings.placeFor made container)⟩) := by
  have hplace : settings.placeFor (made.put (settings.placeFor made container) (.file content))
      container = settings.placeFor made container := rfl
  have hcall := destroy_eq (s := ⟨live, made.put (settings.placeFor made container)
    (.file content)⟩) hvalid (hroom.put content).directory hroom.fits
  dsimp only at hcall
  rw [hplace, FileTree.node?_put_self _ _ placeFor_ne_nil, FileTree.erase_put] at hcall
  exact hcall

end Store

end RankedBars.Svg
