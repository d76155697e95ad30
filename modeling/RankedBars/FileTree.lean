/-!
# Files and directories

A tree of files and directories with a working directory, and the operations on
it that the rest of the library needs. A path is a text; it names a location by
being followed from the root or from the working directory, which fails when
something on the way is missing or is no directory. An operation that fails
leaves the tree as it was, except that the creation of a directory with its
parents keeps the parents it made.
-/

namespace RankedBars

/-- Why an operation on files failed. -/
inductive IoError
  | notFound
  | fileExists
  | notADirectory
  | isADirectory
  | nameTooLong
  | notEmpty
  | notText
  | other (reason : String)
deriving DecidableEq

def IoError.message : IoError → String
  | .notFound => "No such file or directory (os error 2)"
  | .fileExists => "File exists (os error 17)"
  | .notADirectory => "Not a directory (os error 20)"
  | .isADirectory => "Is a directory (os error 21)"
  | .nameTooLong => "File name too long (os error 36)"
  | .notEmpty => "Directory not empty (os error 39)"
  | .notText => "stream did not contain valid UTF-8"
  | .other reason => reason

/-- The names that lead from the root to a file or directory. -/
abbrev Location := List String

inductive Node
  | file (content : ByteArray)
  | directory

/-- Which files and directories there are, apart from the root. -/
structure FileTree where
  nodes : List (Location × Node)
  workingDirectory : Location

namespace FileTree

/-- A tree with an empty working directory. -/
def empty : FileTree where
  nodes := [(["home"], .directory), (["home", "work"], .directory)]
  workingDirectory := ["home", "work"]

def node? (tree : FileTree) (location : Location) : Option Node :=
  if location = [] then some .directory
  else (tree.nodes.find? fun entry => entry.1 = location).map (·.2)

def put (tree : FileTree) (location : Location) (node : Node) : FileTree :=
  { tree with nodes := tree.nodes.filter (fun entry => entry.1 ≠ location) ++ [(location, node)] }

def erase (tree : FileTree) (location : Location) : FileTree :=
  { tree with nodes := tree.nodes.filter fun entry => entry.1 ≠ location }

theorem node?_put_self (tree : FileTree) {location : Location} (node : Node) (h : location ≠ []) :
    (tree.put location node).node? location = some node := by
  have hnone : (tree.nodes.filter fun entry => entry.1 ≠ location).find?
      (fun entry => entry.1 = location) = none := by
    rw [List.find?_eq_none]
    intro entry hmem
    have hne := (List.mem_filter.mp hmem).2
    rw [decide_eq_true_eq] at hne ⊢
    exact hne
  rw [node?, if_neg h, put, List.find?_append, hnone, Option.none_or, List.find?_cons_of_pos]
  · rfl
  · exact decide_eq_true rfl

theorem node?_put_of_ne (tree : FileTree) {location other : Location} (node : Node)
    (h : other ≠ location) : (tree.put location node).node? other = tree.node? other := by
  rw [node?, node?]
  split
  · rfl
  · rw [put, List.find?_append, List.find?_cons_of_neg, List.find?_nil, Option.or_none,
      List.find?_filter]
    · refine congrArg (fun p => (tree.nodes.find? p).map (·.2))
        (funext fun entry => Bool.eq_iff_iff.mpr ?_)
      rw [decide_eq_true_iff, decide_eq_true_iff, decide_eq_true_iff]
      exact ⟨And.right, fun he => ⟨fun hl => h (he.symm.trans hl), he⟩⟩
    · rw [decide_eq_true_iff]
      exact fun he => h he.symm

theorem node?_erase_self (tree : FileTree) {location : Location} (h : location ≠ []) :
    (tree.erase location).node? location = none := by
  rw [node?, if_neg h, erase, Option.map_eq_none_iff, List.find?_eq_none]
  intro entry hmem
  have hne := of_decide_eq_true (List.mem_filter.mp hmem).2
  rw [decide_eq_true_iff]
  exact hne

theorem node?_erase_of_ne (tree : FileTree) {location other : Location} (h : other ≠ location) :
    (tree.erase location).node? other = tree.node? other := by
  rw [node?, node?]
  split
  · rfl
  · rw [erase, List.find?_filter]
    refine congrArg (fun p => (tree.nodes.find? p).map (·.2))
      (funext fun entry => Bool.eq_iff_iff.mpr ?_)
    rw [decide_eq_true_iff, decide_eq_true_iff, decide_eq_true_iff]
    exact ⟨And.right, fun he => ⟨fun hl => h (he.symm.trans hl), he⟩⟩

/-! ## Paths -/

/-- The parts of a text between the places where a character stands. -/
def splitAtChar (separator : Char) : List Char → List (List Char)
  | [] => [[]]
  | c :: rest =>
      if c = separator then [] :: splitAtChar separator rest
      else (splitAtChar separator rest).modifyHead (c :: ·)

def parts (separator : Char) (text : String) : List String :=
  (splitAtChar separator text.toList).map String.ofList

/-- The names in a path, without those that lead nowhere. -/
def names (path : String) : List String :=
  (parts '/' path).filter fun name => name ≠ "" && name ≠ "."

/-- Whether a path can only name a directory, by the way it ends. -/
def namesDirectory (path : String) : Bool :=
  match (parts '/' path).getLast? with
  | some last => last = "" || last = "." || last = ".."
  | none => true

/-- The location that a name leads to from a directory. -/
def descend (directory : Location) (name : String) : Location :=
  if name = ".." then directory.dropLast else directory ++ [name]

/-- The longest name that a directory can hold, in bytes. -/
def longestName : Nat := 255

/-- Follows names from a location. All but the last have to lead to directories.
-/
def follow (tree : FileTree) (start : Location) : List String → Except IoError Location
  | [] => .ok start
  | [name] =>
      if longestName < name.utf8ByteSize then .error .nameTooLong else .ok (descend start name)
  | name :: rest =>
      if longestName < name.utf8ByteSize then .error .nameTooLong
      else
        let next := descend start name
        match tree.node? next with
        | some .directory => follow tree next rest
        | some (.file _) => .error .notADirectory
        | none => .error .notFound

/-- Where the names of a path start from. -/
def origin (tree : FileTree) (path : String) : Location :=
  if path.startsWith "/" then [] else tree.workingDirectory

/-- The location that a path names. -/
def locate (tree : FileTree) (path : String) : Except IoError Location :=
  if path = "" then .error .notFound else tree.follow (tree.origin path) (names path)

/-- A path below a directory. -/
def join (directory name : String) : String :=
  if directory = "" ∨ directory.endsWith "/" then directory ++ name else directory ++ "/" ++ name

/-- The ending of the last name in a path, behind its last point. A name that
only starts with a point has none. -/
def extension? (path : String) : Option String :=
  match (names path).getLast? with
  | none => none
  | some name =>
      if name = ".." then none
      else
        match (parts '.' name).reverse with
        | ending :: stem :: more => if stem = "" ∧ more = [] then none else some ending
        | _ => none

/-! ## Operations -/

/-- The content of a file. -/
def read (tree : FileTree) (path : String) : Except IoError ByteArray :=
  match tree.locate path with
  | .error e => .error e
  | .ok location =>
      match tree.node? location with
      | none => .error .notFound
      | some .directory => .error .isADirectory
      | some (.file content) => if namesDirectory path then .error .notADirectory else .ok content

/-- The content of a file that is text. -/
def readText (tree : FileTree) (path : String) : Except IoError String :=
  match tree.read path with
  | .error e => .error e
  | .ok content =>
      match String.fromUTF8? content with
      | some text => .ok text
      | none => .error .notText

/-- Writes a file, replacing the one that was there. -/
def write (tree : FileTree) (path : String) (content : ByteArray) : Except IoError FileTree :=
  match tree.locate path with
  | .error e => .error e
  | .ok location =>
      if namesDirectory path then .error .isADirectory
      else
        match tree.node? location with
        | some .directory => .error .isADirectory
        | _ => .ok (tree.put location (.file content))

def writeText (tree : FileTree) (path text : String) : Except IoError FileTree :=
  tree.write path text.toByteArray

def removeFile (tree : FileTree) (path : String) : Except IoError FileTree :=
  match tree.locate path with
  | .error e => .error e
  | .ok location =>
      match tree.node? location with
      | none => .error .notFound
      | some .directory => .error .isADirectory
      | some (.file _) =>
          if namesDirectory path then .error .notADirectory else .ok (tree.erase location)

/-- Whether nothing lies below a location. -/
def isEmptyAt (tree : FileTree) (location : Location) : Bool :=
  tree.nodes.all fun entry => entry.1 = location || !location.isPrefixOf entry.1

def removeDirectory (tree : FileTree) (path : String) : Except IoError FileTree :=
  match tree.locate path with
  | .error e => .error e
  | .ok location =>
      match tree.node? location with
      | none => .error .notFound
      | some (.file _) => .error .notADirectory
      | some .directory =>
          if tree.isEmptyAt location then .ok (tree.erase location) else .error .notEmpty

/-- Creates the directories that names lead to from a location, as far as they
are missing. -/
def createFrom (tree : FileTree) (start : Location) : List String → Except IoError Unit × FileTree
  | [] => (.ok (), tree)
  | name :: rest =>
      if longestName < name.utf8ByteSize then (.error .nameTooLong, tree)
      else
        let next := descend start name
        match tree.node? next with
        | some .directory => createFrom tree next rest
        | some (.file _) => (.error (if rest = [] then .fileExists else .notADirectory), tree)
        | none => createFrom (tree.put next .directory) next rest

/-- Creates a directory and its parents, as far as they are missing. -/
def createDirectories (tree : FileTree) (path : String) : Except IoError Unit × FileTree :=
  tree.createFrom (tree.origin path) (names path)

/-- What lies below a location, by the names that lead there from it. -/
def below (tree : FileTree) (location : Location) : List (Location × Node) :=
  tree.nodes.filterMap fun (place, node) =>
    if location.isPrefixOf place ∧ place ≠ location then some (place.drop location.length, node)
    else none

/-- What lies below the directory that a path names, nothing when there is no
such directory. -/
def listing (tree : FileTree) (path : String) : List (Location × Node) :=
  match tree.follow (tree.origin path) (names path) with
  | .ok location => tree.below location
  | .error _ => []

/-- A location as a path. -/
def pathTo (location : Location) : String := "/".intercalate location

end FileTree

end RankedBars
