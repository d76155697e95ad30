import RankedBars.Proofs.Dataset.Loaded
import RankedBars.Proofs.Viewer.LastOpened

/-!
# What goes wrong at the start

A window has one line for what went wrong, and nothing is kept of what it said
before. A configuration that cannot be loaded is reported there first. But a
dataset that the window is started with is opened right after that, and
opening always writes the line anew: what went wrong with the dataset, or
nothing at all. So the report is there to be read exactly as long as nothing
was opened.

`errorAfter` tells from the deeds and the files alone what the line says. The
one step with something to show is the toggle. It can report too, and does not,
because in a window it never fails.
-/

namespace RankedBars

theorem LoadError.message_ne_empty (e : LoadError) : e.message ≠ "" := by
  obtain ⟨context, hne, hcontexts⟩ : ∃ context, context ≠ "" ∧ e.contexts = [context] := by
    cases e <;> exact ⟨_, by simp, rfl⟩
  rw [message, hcontexts]
  cases e.cause? with
  | none => simpa using hne
  | some cause => simp [hne]

namespace Viewer

namespace Window

/-- The lines on the screen that say what went wrong. -/
def errorLines (w : Window) : List String :=
  (w.texts.filter fun shown => shown.role = .error).map (·.text)

/-- Whether one can read on the screen that something could not be loaded. -/
def Tells (w : Window) (e : LoadError) : Prop :=
  ∃ line ∈ w.errorLines, e.message.toList <:+: line.toList

/-- What the line for errors is when there is this to say. -/
def linesOf (report : String) : List String := if report = "" then [] else [report]

theorem errorLines_eq (w : Window) : w.errorLines = linesOf w.error := by
  have hother (texts : List String) {role : TextRole} (h : role ≠ .error) :
      (texts.map fun text => (⟨text, role⟩ : ShownText)).filter (·.role = .error) = [] := by
    simp [List.filter_eq_nil_iff, h]
  have hplain : TextRole.plain ≠ .error := by decide
  have hlink : TextRole.toggleLink ≠ .error := by decide
  simp only [errorLines, linesOf, texts, List.filter_append, hother _ hplain, hother _ hlink,
    lineOf]
  split <;> split <;> simp

theorem tells_iff {w : Window} {e : LoadError} :
    w.Tells e ↔ e.message.toList <:+: w.error.toList := by
  rw [Tells, errorLines_eq, linesOf]
  split
  · next hempty =>
      rw [hempty]
      simp [e.message_ne_empty]
  · simp

end Window

/-- What the error line says of an attempt to open a dataset. -/
def loadReport (files : FileTree) (path : String) : String :=
  match Dataset.load files path with
  | .ok _ => ""
  | .error e => e.message

/-- What the error line says when the deeds are done, if it says this when they
begin. -/
def errorAfter (files : FileTree) (line : String) : List Deed → String
  | [] => line
  | .openDataset path :: rest => errorAfter files (loadReport files path) rest
  | .toggle :: rest => errorAfter files line rest
  | .changeFiles files :: rest => errorAfter files line rest
  | .resize _ :: rest => errorAfter files line rest

variable {d : Dashboard} {w : Window} {last : Option Opened}

namespace Current

theorem error_openDataset (h : Current d w last) (path : String) :
    (w.openDataset path).error = loadReport w.files path := by
  rw [loadReport]
  cases hload : Dataset.load w.files path with
  | error e =>
      rw [openDataset_of_error hload]
      rfl
  | ok loaded => exact (h.openDataset hload).2.2

/-- A toggle has nothing to report. -/
theorem error_toggle (h : Current d w last) : w.toggle.error = w.error := by
  cases last with
  | none => rw [Window.toggle, h.2.2.1]
  | some o =>
      obtain ⟨-, -, c, hchart, hsettled⟩ := h
      rw [Window.toggle, hchart]
      by_cases hmore : (d.mounting o.data container).Expandable
      · obtain ⟨c', event, store, notices, hactivate, -⟩ :=
          hsettled.activate (Retained.stage_sound container) hmore
        simp only [hactivate]
      · simp only [hsettled.activate_of_not_expandable hmore]

theorem files_openDataset (h : Current d w last) (path : String) :
    (w.openDataset path).files = w.files := by
  cases hload : Dataset.load w.files path with
  | error e =>
      rw [openDataset_of_error hload]
      rfl
  | ok loaded => exact (h.openDataset hload).2.1

theorem error_performAll (h : Current d w last) (deeds : List Deed) :
    (w.performAll deeds).error = errorAfter w.files w.error deeds := by
  induction deeds generalizing w last with
  | nil => rfl
  | cons deed rest ih =>
      have hnext := ih (h.performAll [deed])
      rw [Window.performAll, List.foldl_cons]
      refine hnext.trans ?_
      cases deed with
      | openDataset path =>
          rw [errorAfter, ← h.error_openDataset path]
          exact congrArg (errorAfter · _ rest) (h.files_openDataset path)
      | toggle =>
          rw [errorAfter, ← h.error_toggle]
          exact congrArg (errorAfter · _ rest) h.toggle.2
      | changeFiles files => rfl
      | resize width => rfl

end Current

theorem start_none_of_error {files : FileTree} {config : String} {e : LoadError}
    (h : Dashboard.load files config = .error e) :
    (Window.start files none (some config)).dashboard = {} ∧
      (Window.start files none (some config)).error = e.message := by
  rw [Window.start]
  simp only [h]
  exact ⟨rfl, rfl⟩

/-- A configuration that cannot be loaded is reported until a dataset is
opened. Whatever the window is started with, the defaults are in use, and all
along the line for errors says what went wrong with the dataset that was
opened last, or nothing if that was loaded. It says what went wrong with the
configuration only while none was opened. So at the start this can be read
exactly if no dataset was given, or by coincidence, if one was given that
cannot be loaded and the message for it holds the other one. -/
theorem config_error_is_told_iff (files : FileTree) (dataset : Option String) (config : String)
    (e : LoadError) (hconfig : Dashboard.load files config = .error e) :
    (Window.start files dataset (some config)).dashboard = {} ∧
    (∀ deeds, ((Window.start files dataset (some config)).performAll deeds).errorLines
      = Window.linesOf
          (errorAfter files e.message (dataset.toList.map .openDataset ++ deeds))) ∧
    ((Window.start files dataset (some config)).Tells e ↔
      dataset = none ∨ ∃ path cause, dataset = some path ∧
        Dataset.load files path = .error cause ∧
        e.message.toList <:+: cause.message.toList) := by
  obtain ⟨hcurrent, hfiles⟩ := current_of_nothing files (some config)
  obtain ⟨hdashboard, herror⟩ := start_none_of_error hconfig
  have hall (deeds : List Deed) :
      ((Window.start files dataset (some config)).performAll deeds).error
        = errorAfter files e.message (dataset.toList.map .openDataset ++ deeds) := by
    have hline := hcurrent.error_performAll (dataset.toList.map .openDataset ++ deeds)
    rw [Window.performAll, List.foldl_append, hfiles, herror] at hline
    rw [start_eq_performAll]
    exact hline
  refine ⟨?_, fun deeds => ?_, ?_⟩
  · rw [start_eq_performAll]
    exact (hcurrent.performAll _).dashboard.trans hdashboard
  · rw [Window.errorLines_eq, hall]
  · have hstart : (Window.start files dataset (some config)).error = _ := hall []
    rw [Window.tells_iff, hstart]
    cases dataset with
    | none => exact iff_of_true (List.infix_refl _) (.inl rfl)
    | some path =>
        show e.message.toList <:+: (loadReport files path).toList ↔ _
        rw [loadReport]
        cases hload : Dataset.load files path with
        | ok loaded => simp [e.message_ne_empty, hload]
        | error cause => simp [hload]

/-- A dataset that can be loaded, and a configuration in which the name of a
field is misspelled. -/
def misspelledFiles : FileTree :=
  (Dataset.fileTreeOf "d.json" "[[\"fedora-40\",2]]".toUTF8).put ["home", "work", "c.json"]
    (.file "\x7b\"limt\": 3\x7d".toUTF8)

def misspelledReport : String :=
  "parsing config c.json: unknown field `limt`, expected one of `limit`, `padding_left`, "
    ++ "`width`, `locale`, `series_name`, `labels`, `palette`, `fallback_color`"

theorem exists_error_misspelled :
    ∃ e, Dashboard.load misspelledFiles "c.json" = .error e ∧ e.message = misspelledReport := by
  have hreport : (match Dashboard.load misspelledFiles "c.json" with
      | .ok _ => ""
      | .error e => e.message) = misspelledReport := by
    decide +kernel
  cases hload : Dashboard.load misspelledFiles "c.json" with
  | ok loaded =>
      rw [hload] at hreport
      dsimp only at hreport
      exact absurd hreport (by decide)
  | error e =>
      rw [hload] at hreport
      exact ⟨e, rfl, hreport⟩

theorem config_error_is_told_without_dataset :
    ∃ e, Dashboard.load misspelledFiles "c.json" = .error e ∧
      (Window.start misspelledFiles none (some "c.json")).Tells e := by
  obtain ⟨e, hconfig, -⟩ := exists_error_misspelled
  exact ⟨e, hconfig,
    (config_error_is_told_iff misspelledFiles none "c.json" e hconfig).2.2.mpr (.inl rfl)⟩

/-- With a dataset that can be loaded nothing is said of the misspelled
field. -/
theorem config_error_is_cleared :
    ∃ e, Dashboard.load misspelledFiles "c.json" = .error e ∧
      e.message = misspelledReport ∧
      (Window.start misspelledFiles (some "d.json") (some "c.json")).errorLines = [] ∧
      ¬ (Window.start misspelledFiles (some "d.json") (some "c.json")).Tells e := by
  obtain ⟨e, hconfig, hmessage⟩ := exists_error_misspelled
  have hlines : (Window.start misspelledFiles (some "d.json") (some "c.json")).errorLines = [] := by
    decide +kernel
  refine ⟨e, hconfig, hmessage, hlines, ?_⟩
  rintro ⟨line, hline, -⟩
  rw [hlines] at hline
  cases hline

end Viewer

end RankedBars
