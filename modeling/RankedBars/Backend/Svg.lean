import RankedBars.Backend
import RankedBars.Chart.Drawing

/-!
# Charts written to files

This backend writes the drawing of a chart to a file in its output directory,
named after the container, and removes the file when the chart is destroyed.
Containers become file names, so only letters, digits, hyphens and underscores
may occur in them.

Two things say that a chart is live, the set of live containers and the file.
Destroying a chart takes its container out of the set first; if the file then
cannot be removed, the container is free although the file is still there. A
file that is gone already is as good as removed.
-/

namespace RankedBars.Svg

structure Store where
  live : List String := []
  files : FileTree := .empty

structure Handle where
  container : String
  path : String
deriving DecidableEq

/-- Where and how charts are written. -/
structure Settings where
  directory : String := "charts"
  localeTag : String := "en"

def mayName (c : Char) : Bool :=
  'a' ≤ c && c ≤ 'z' || 'A' ≤ c && c ≤ 'Z' || '0' ≤ c && c ≤ '9' || c = '-' || c = '_'

/-- Whether a container can be part of a file name. -/
def isValidContainer (container : String) : Bool :=
  container ≠ "" && container.toList.all mayName

/-- The file of a container. -/
def Settings.pathFor (settings : Settings) (container : String) : String :=
  FileTree.join settings.directory (container ++ ".svg")

namespace Store

def isLive (s : Store) (container : String) : Bool := s.live.contains container

def liveCount (s : Store) : Nat := s.live.length

def generate (settings : Settings) (config : ChartConfig) (s : Store) :
    Except RenderError Handle × Store :=
  let container := config.container
  if !isValidContainer container then (.error (.invalidContainer container), s)
  else if s.isLive container then (.error (.containerBusy container), s)
  else
    match s.files.createDirectories settings.directory with
    | (.error e, files) => (.error (.io e), { s with files })
    | (.ok (), files) =>
        let path := settings.pathFor container
        let svg := (Chart.draw config (.ofTag settings.localeTag)).svg
        match files.writeText path svg with
        | .error e => (.error (.drawing e.message), { s with files })
        | .ok files => (.ok ⟨container, path⟩, ⟨container :: s.live, files⟩)

def destroy (handle : Handle) (s : Store) : Except RenderError Unit × Store :=
  let live := s.live.filter (· ≠ handle.container)
  match s.files.removeFile handle.path with
  | .ok files => (.ok (), ⟨live, files⟩)
  | .error .notFound => (.ok (), ⟨live, s.files⟩)
  | .error e => (.error (.io e), ⟨live, s.files⟩)

end Store

def backend (settings : Settings) : Backend Store Handle where
  generate := Store.generate settings
  destroy := Store.destroy
  container := Handle.container
  notices config handle := [.wrote config.barCount handle.path]

end RankedBars.Svg
