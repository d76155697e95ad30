import RankedBars.Proofs.Files.Path

/-!
# A directory and the files in it

A path names a place in the tree, `placeOf`, by being followed as if nothing
were in the way. Whether it can really be followed depends only on which
directories there are, and they are never taken away here: creating a
directory adds directories and nothing else (`createFrom_extends`), and files
come and go without touching them. So once a directory has been created it is
there for good, and what is done with a file in it is done at the place of the
file (`CanWrite.write_eq`, `removeFile_join`).

What the directory holds is seen through `filesBelow`, the files at any depth
under a location with the names that lead to them. Writing a file puts one
entry there in place of the one it had, removing takes that one away, and
nothing else changes it.
-/

namespace RankedBars.FileTree

/-- Where names lead, if nothing is in their way. -/
def walk (start : Location) (names : List String) : Location := names.foldl descend start

/-- Where a path leads, whether anything is there or not. -/
def placeOf (tree : FileTree) (path : String) : Location := walk (tree.origin path) (names path)

/-- Names lead from a location through directories only, to the last one. -/
def LeadsThrough (tree : FileTree) (start : Location) : List String → Prop
  | [] => True
  | name :: rest =>
      name.utf8ByteSize ≤ longestName ∧ tree.node? (descend start name) = some .directory ∧
        tree.LeadsThrough (descend start name) rest

/-- The directory that a path names is there, with all that is on the way. -/
def HasDirectory (tree : FileTree) (path : String) : Prop :=
  tree.LeadsThrough (tree.origin path) (names path)

variable {tree made : FileTree} {start location : Location} {name directory path : String}
  {content : ByteArray} {node : Node}

/-! ## Nodes that come and go -/

@[simp] theorem workingDirectory_put : (tree.put location node).workingDirectory
    = tree.workingDirectory := rfl

theorem placeOf_congr (h : made.workingDirectory = tree.workingDirectory) (path : String) :
    made.placeOf path = tree.placeOf path := by
  rw [placeOf, placeOf, origin, origin, h]

theorem erase_put : (tree.put location node).erase location = tree.erase location := by
  simp [put, erase]

theorem put_erase : (tree.erase location).put location node = tree.put location node := by
  simp [put, erase]

/-- What is put where nothing was is one node more. -/
theorem nodes_put_of_node?_eq_none (h : tree.node? location = none) :
    (tree.put location node).nodes = tree.nodes ++ [(location, node)] := by
  rw [node?] at h
  split at h
  · cases h
  · rw [Option.map_eq_none_iff, List.find?_eq_none] at h
    rw [put, List.filter_eq_self.mpr]
    intro entry hmem
    simpa using h entry hmem

theorem LeadsThrough.mono {names : List String} (h : tree.LeadsThrough start names)
    (hkept : ∀ place, tree.node? place = some .directory → made.node? place = some .directory) :
    made.LeadsThrough start names := by
  induction names generalizing start with
  | nil => trivial
  | cons name rest ih => exact ⟨h.1, hkept _ h.2.1, ih h.2.2⟩

namespace HasDirectory

theorem put_file (h : tree.HasDirectory path) (hfree : tree.node? location ≠ some .directory)
    (content : ByteArray) : (tree.put location (.file content)).HasDirectory path := by
  refine LeadsThrough.mono h fun place hplace => ?_
  rw [node?_put_of_ne _ _ (by rintro rfl; exact hfree hplace), hplace]

theorem erase (h : tree.HasDirectory path) (hfree : tree.node? location ≠ some .directory) :
    (tree.erase location).HasDirectory path := by
  refine LeadsThrough.mono h fun place hplace => ?_
  rw [node?_erase_of_ne _ (by rintro rfl; exact hfree hplace), hplace]

end HasDirectory

/-! ## Creating directories -/

/-- The same tree with some directories more. -/
structure Extends (tree made : FileTree) : Prop where
  workingDirectory : made.workingDirectory = tree.workingDirectory
  nodes : ∃ new : List Location,
    made.nodes = tree.nodes ++ new.map fun place => (place, .directory)

namespace Extends

theorem refl : Extends tree tree := ⟨rfl, [], by simp⟩

theorem trans {last : FileTree} (h : Extends tree made) (h' : Extends made last) :
    Extends tree last := by
  obtain ⟨new, hnew⟩ := h.nodes
  obtain ⟨more, hmore⟩ := h'.nodes
  refine ⟨h'.workingDirectory.trans h.workingDirectory, new ++ more, ?_⟩
  rw [hmore, hnew, List.map_append, List.append_assoc]

theorem put (h : tree.node? location = none) : Extends tree (tree.put location .directory) :=
  ⟨rfl, [location], nodes_put_of_node?_eq_none h⟩

theorem node? (h : Extends tree made) (hnode : tree.node? location = some node) :
    made.node? location = some node := by
  obtain ⟨new, hnew⟩ := h.nodes
  rw [FileTree.node?] at hnode ⊢
  split at hnode
  · next hroot => rw [if_pos hroot, hnode]
  · next hroot =>
      rw [if_neg hroot, hnew, List.find?_append]
      obtain ⟨entry, hentry, rfl⟩ := Option.map_eq_some_iff.mp hnode
      rw [hentry]
      rfl

end Extends

/-- Creating directories adds directories, also when it fails on the way. -/
theorem createFrom_extends (tree : FileTree) (start : Location) (names : List String) :
    Extends tree (tree.createFrom start names).2 := by
  induction names generalizing tree start with
  | nil => exact .refl
  | cons name rest ih =>
      rw [createFrom]
      split
      · exact .refl
      · dsimp only
        cases hnode : tree.node? (descend start name) with
        | none => exact (Extends.put hnode).trans (ih ..)
        | some node =>
            cases node with
            | directory => exact ih ..
            | file _ => exact .refl

theorem leadsThrough_of_createFrom {names : List String}
    (h : tree.createFrom start names = (.ok (), made)) : made.LeadsThrough start names := by
  induction names generalizing tree start with
  | nil => trivial
  | cons name rest ih =>
      rw [createFrom] at h
      split at h
      · cases h
      · next hlength =>
          dsimp only at h
          have step {t : FileTree} (hthere : t.node? (descend start name) = some .directory)
              (hrest : t.createFrom (descend start name) rest = (.ok (), made)) :
              made.LeadsThrough start (name :: rest) := by
            have hkept := (createFrom_extends t (descend start name) rest).node? hthere
            rw [hrest] at hkept
            exact ⟨Nat.not_lt.mp hlength, hkept, ih hrest⟩
          cases hnode : tree.node? (descend start name) with
          | none =>
              rw [hnode] at h
              refine step (node?_put_self tree .directory ?_) h
              intro hroot
              rw [hroot, node?, if_pos rfl] at hnode
              cases hnode
          | some node =>
              rw [hnode] at h
              cases node with
              | directory => exact step hnode h
              | file _ => cases h

theorem createFrom_of_leadsThrough {names : List String} (h : tree.LeadsThrough start names) :
    tree.createFrom start names = (.ok (), tree) := by
  induction names generalizing start with
  | nil => rfl
  | cons name rest ih =>
      rw [createFrom, if_neg (Nat.not_lt.mpr h.1)]
      simp only [h.2.1]
      exact ih h.2.2

theorem createDirectories_extends (tree : FileTree) (path : String) :
    Extends tree (tree.createDirectories path).2 := createFrom_extends ..

theorem hasDirectory_of_createDirectories (h : tree.createDirectories path = (.ok (), made)) :
    made.HasDirectory path := by
  have hextends := createDirectories_extends tree path
  rw [h] at hextends
  rw [HasDirectory, origin, hextends.workingDirectory, ← origin]
  exact leadsThrough_of_createFrom h

theorem createDirectories_of_hasDirectory (h : tree.HasDirectory path) :
    tree.createDirectories path = (.ok (), tree) := createFrom_of_leadsThrough h

/-! ## Following a path into a directory -/

/-- All but the last name have to lead to directories. -/
theorem follow_cons {rest : List String} (h : rest ≠ []) :
    tree.follow start (name :: rest)
      = if longestName < name.utf8ByteSize then .error .nameTooLong
        else match tree.node? (descend start name) with
          | some .directory => tree.follow (descend start name) rest
          | some (.file _) => .error .notADirectory
          | none => .error .notFound := by
  cases rest with
  | nil => exact absurd rfl h
  | cons next more => rfl

theorem follow_ok {names : List String} (h : tree.follow start names = .ok location) :
    location = walk start names := by
  induction names generalizing start with
  | nil =>
      cases h
      rfl
  | cons name rest ih =>
      cases rest with
      | nil =>
          rw [follow] at h
          split at h
          · cases h
          · cases h
            rfl
      | cons next more =>
          rw [follow_cons (List.cons_ne_nil _ _)] at h
          split at h
          · cases h
          · split at h
            · exact ih h
            · cases h
            · cases h

theorem follow_concat {names : List String} (h : tree.LeadsThrough start names) :
    tree.follow start (names ++ [name]) = if longestName < name.utf8ByteSize
      then .error .nameTooLong else .ok (descend (walk start names) name) := by
  induction names generalizing start with
  | nil => rfl
  | cons first rest ih =>
      have hrest : rest ++ [name] ≠ [] :=
        List.append_ne_nil_of_right_ne_nil _ (List.cons_ne_nil _ _)
      rw [List.cons_append, follow_cons hrest, if_neg (Nat.not_lt.mpr h.1), h.2.1]
      exact ih h.2.2

theorem follow_of_leadsThrough {names : List String} (h : tree.LeadsThrough start names) :
    tree.follow start names = .ok (walk start names) := by
  induction names generalizing start with
  | nil => rfl
  | cons name rest ih =>
      cases rest with
      | nil =>
          rw [follow, if_neg (Nat.not_lt.mpr h.1)]
          rfl
      | cons next more =>
          rw [follow_cons (List.cons_ne_nil _ _), if_neg (Nat.not_lt.mpr h.1), h.2.1]
          exact ih h.2.2

theorem placeOf_join (h : IsFileName name) :
    tree.placeOf (join directory name) = tree.placeOf directory ++ [name] := by
  rw [placeOf, placeOf, names_join h, origin_join tree h, walk, List.foldl_append]
  show descend _ name = _
  rw [descend, if_neg h.ne_up]
  rfl

theorem locate_join (h : tree.HasDirectory directory) (hname : IsFileName name) :
    tree.locate (join directory name) = if longestName < name.utf8ByteSize
      then .error .nameTooLong else .ok (tree.placeOf directory ++ [name]) := by
  rw [locate, if_neg (join_ne_empty hname), origin_join tree hname, names_join hname,
    follow_concat h, descend, if_neg hname.ne_up]
  rfl

theorem removeFile_join (h : tree.HasDirectory directory) (hname : IsFileName name)
    (hfits : name.utf8ByteSize ≤ longestName) :
    tree.removeFile (join directory name)
      = match tree.node? (tree.placeOf directory ++ [name]) with
        | none => .error .notFound
        | some .directory => .error .isADirectory
        | some (.file _) => .ok (tree.erase (tree.placeOf directory ++ [name])) := by
  have hlocate := locate_join h hname
  rw [if_neg (Nat.not_lt.mpr hfits)] at hlocate
  cases hnode : tree.node? (tree.placeOf directory ++ [name]) with
  | none => simp only [removeFile, hlocate, hnode]
  | some node =>
      cases node with
      | directory => simp only [removeFile, hlocate, hnode]
      | file content =>
          simp only [removeFile, hlocate, hnode, namesDirectory_join hname, Bool.false_eq_true,
            if_false]

/-! ## Writing and reading back -/

theorem follow_mono {names : List String} (h : tree.follow start names = .ok location)
    (hkept : ∀ place, tree.node? place = some .directory → made.node? place = some .directory) :
    made.follow start names = .ok location := by
  induction names generalizing start with
  | nil => exact h
  | cons name rest ih =>
      cases rest with
      | nil => exact h
      | cons next more =>
          rw [follow_cons (List.cons_ne_nil _ _)] at h ⊢
          split at h
          · cases h
          · next hfits =>
              rw [if_neg hfits]
              split at h
              · next hnode =>
                  rw [hkept _ hnode]
                  exact ih h
              · cases h
              · cases h

theorem locate_mono (hwd : made.workingDirectory = tree.workingDirectory)
    (hkept : ∀ place, tree.node? place = some .directory → made.node? place = some .directory)
    (h : tree.locate path = .ok location) : made.locate path = .ok location := by
  rw [locate] at h ⊢
  split
  · next hempty =>
      rw [if_pos hempty] at h
      cases h
  · next hempty =>
      rw [if_neg hempty] at h
      rw [origin, hwd, ← origin]
      exact follow_mono h hkept

/-- Nothing is in the way of a file, if one is written where the path leads. -/
structure CanWrite (tree : FileTree) (path : String) : Prop where
  located : tree.locate path = .ok (tree.placeOf path)
  names : namesDirectory path = false
  free : tree.node? (tree.placeOf path) ≠ some .directory

namespace CanWrite

theorem of_nothing (hlocated : tree.locate path = .ok (tree.placeOf path))
    (hnames : namesDirectory path = false)
    (hnothing : (tree.node? (tree.placeOf path)).isNone = true) : tree.CanWrite path := by
  refine ⟨hlocated, hnames, ?_⟩
  rw [Option.isNone_iff_eq_none.mp hnothing]
  exact nofun

theorem placeOf_ne_nil (h : tree.CanWrite path) : tree.placeOf path ≠ [] := by
  intro hnil
  exact h.free (by rw [hnil]; rfl)

theorem write_eq (h : tree.CanWrite path) (content : ByteArray) :
    tree.write path content = .ok (tree.put (tree.placeOf path) (.file content)) := by
  rw [write, h.located]
  dsimp only
  rw [h.names, if_neg Bool.false_ne_true]
  split
  · next hnode => exact absurd hnode h.free
  · rfl

theorem of_write {path : String} (h : tree.write path content = .ok made) :
    tree.CanWrite path := by
  rw [write] at h
  split at h
  · cases h
  · next location hlocate =>
      have hplace : location = tree.placeOf path := by
        rw [locate] at hlocate
        split at hlocate
        · cases hlocate
        · exact follow_ok hlocate
      subst hplace
      split at h
      · cases h
      · next hnames =>
          refine ⟨hlocate, Bool.not_eq_true _ ▸ hnames, fun hnode => ?_⟩
          rw [hnode] at h
          cases h

/-- A file, wherever it is put, neither opens nor blocks the way to another
one. -/
theorem put_iff (hfree : tree.node? location ≠ some .directory) :
    (tree.put location (.file content)).CanWrite path ↔ tree.CanWrite path := by
  have hkept (place : Location) : (tree.put location (.file content)).node? place
      = some .directory ↔ tree.node? place = some .directory := by
    by_cases hroot : place = []
    · subst hroot
      exact iff_of_true rfl rfl
    · by_cases hsame : place = location
      · rw [hsame, node?_put_self _ _ (hsame ▸ hroot)]
        exact iff_of_false nofun hfree
      · rw [node?_put_of_ne _ _ hsame]
  constructor
  · intro h
    have hlocated := locate_mono workingDirectory_put.symm (fun place => (hkept place).mp) h.located
    exact ⟨hlocated, h.names, fun hnode => h.free ((hkept _).mpr hnode)⟩
  · intro h
    have hlocated := locate_mono workingDirectory_put (fun place => (hkept place).mpr) h.located
    exact ⟨hlocated, h.names, fun hnode => h.free ((hkept _).mp hnode)⟩

theorem read_eq (h : tree.CanWrite path)
    (hnode : tree.node? (tree.placeOf path) = some (.file content)) :
    tree.read path = .ok content := by
  rw [read, h.located]
  dsimp only
  rw [hnode]
  dsimp only
  rw [h.names, if_neg Bool.false_ne_true]

theorem read_put (h : tree.CanWrite path) (content : ByteArray) :
    (tree.put (tree.placeOf path) (.file content)).read path = .ok content :=
  ((put_iff h.free).mpr h).read_eq (node?_put_self _ _ h.placeOf_ne_nil)

theorem read_put_of_ne (h : tree.CanWrite path) (hfree : tree.node? location ≠ some .directory)
    (hne : tree.placeOf path ≠ location) {other : ByteArray}
    (hnode : tree.node? (tree.placeOf path) = some (.file content)) :
    (tree.put location (.file other)).read path = .ok content := by
  refine ((put_iff hfree).mpr h).read_eq ?_
  show node? _ (tree.placeOf path) = _
  rw [node?_put_of_ne _ _ hne, hnode]

end CanWrite

/-! ## The files below a location -/

/-- A file, if that is what an entry is, by its place and what it holds. -/
def asFile? : Location × Node → Option (Location × ByteArray)
  | (place, .file content) => some (place, content)
  | (_, .directory) => none

/-- The files below a location, by the names that lead to them from there. -/
def filesBelow (tree : FileTree) (location : Location) : List (Location × ByteArray) :=
  (tree.below location).filterMap asFile?

/-- The files below the directory that a path names. -/
def filesIn (tree : FileTree) (path : String) : List (Location × ByteArray) :=
  (tree.listing path).filterMap asFile?

/-- The file that an entry is, if it is one and lies below a location. -/
def fileBelow? (location : Location) (entry : Location × Node) : Option (Location × ByteArray) :=
  (if location.isPrefixOf entry.1 ∧ entry.1 ≠ location
    then some (entry.1.drop location.length, entry.2) else none).bind asFile?

theorem filesBelow_eq : tree.filesBelow location = tree.nodes.filterMap (fileBelow? location) :=
  List.filterMap_filterMap

theorem fileBelow?_eq_some_iff {place rest : Location} :
    fileBelow? location (place, node) = some (rest, content) ↔
      rest ≠ [] ∧ place = location ++ rest ∧ node = .file content := by
  rw [fileBelow?, Option.bind_eq_some_iff]
  constructor
  · rintro ⟨entry, hentry, hfile⟩
    split at hentry
    · next hbelow =>
        cases hentry
        obtain ⟨more, rfl⟩ := List.isPrefixOf_iff_prefix.mp hbelow.1
        cases node with
        | directory => cases hfile
        | file held =>
            cases hfile
            simpa using hbelow.2
    · cases hentry
  · rintro ⟨hrest, rfl, rfl⟩
    refine ⟨(rest, .file content), ?_, rfl⟩
    rw [if_pos ⟨List.isPrefixOf_iff_prefix.mpr ⟨rest, rfl⟩, by simpa using hrest⟩,
      List.drop_left]

theorem filesBelow_erase (tree : FileTree) (location rest : Location) :
    (tree.erase (location ++ rest)).filesBelow location
      = (tree.filesBelow location).filter fun file => file.1 ≠ rest := by
  rw [filesBelow_eq, filesBelow_eq, erase, List.filterMap_filter, List.filter_filterMap]
  refine List.filterMap_congr fun entry _ => ?_
  obtain ⟨place, node⟩ := entry
  cases hfile : fileBelow? location (place, node) with
  | none => simp
  | some file =>
      obtain ⟨-, rfl, -⟩ := fileBelow?_eq_some_iff.mp hfile
      simp [Option.filter]

theorem filesBelow_put {rest : Location} (hrest : rest ≠ []) :
    (tree.put (location ++ rest) (.file content)).filesBelow location
      = ((tree.filesBelow location).filter fun file => file.1 ≠ rest) ++ [(rest, content)] := by
  have hnew : fileBelow? location (location ++ rest, .file content) = some (rest, content) :=
    fileBelow?_eq_some_iff.mpr ⟨hrest, rfl, rfl⟩
  rw [← filesBelow_erase, filesBelow_eq, filesBelow_eq, put, List.filterMap_append,
    List.filterMap_cons_some hnew]
  rfl

theorem Extends.filesBelow (h : Extends tree made) :
    made.filesBelow location = tree.filesBelow location := by
  obtain ⟨new, hnew⟩ := h.nodes
  have hnone : (new.map fun place => (place, Node.directory)).filterMap (fileBelow? location)
      = [] := by
    rw [List.filterMap_eq_nil_iff]
    intro entry hentry
    obtain ⟨place, -, rfl⟩ := List.mem_map.mp hentry
    cases hfile : fileBelow? location (place, .directory) with
    | none => rfl
    | some file =>
        obtain ⟨-, -, hnode⟩ := fileBelow?_eq_some_iff.mp hfile
        cases hnode
  rw [filesBelow_eq, filesBelow_eq, hnew, List.filterMap_append, hnone, List.append_nil]

/-- Where there is nothing, there is no file either. -/
theorem ne_of_mem_filesBelow {rest : Location} (h : tree.node? (location ++ rest) = none)
    {file : Location × ByteArray} (hmem : file ∈ tree.filesBelow location) : file.1 ≠ rest := by
  rintro rfl
  rw [filesBelow_eq, List.mem_filterMap] at hmem
  obtain ⟨⟨place, node⟩, hentry, hfile⟩ := hmem
  obtain ⟨hrest, rfl, -⟩ := fileBelow?_eq_some_iff.mp hfile
  rw [node?, if_neg (by simp [hrest]), Option.map_eq_none_iff, List.find?_eq_none] at h
  exact h _ hentry (decide_eq_true rfl)

theorem filesIn_of_hasDirectory (h : tree.HasDirectory path) :
    tree.filesIn path = tree.filesBelow (tree.placeOf path) := by
  rw [filesIn, listing, follow_of_leadsThrough h]
  rfl

/-- A directory shows files only if they lie below its place. -/
theorem filesIn_eq_nil (h : tree.filesBelow (tree.placeOf path) = []) : tree.filesIn path = [] := by
  rw [filesIn, listing]
  split
  · next location hfollow =>
      rw [follow_ok hfollow]
      exact h
  · rfl

end RankedBars.FileTree
