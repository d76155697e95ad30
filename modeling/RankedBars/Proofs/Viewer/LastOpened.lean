import RankedBars.Proofs.Toggle.Steady
import RankedBars.Viewer.Window

/-!
# The dataset that was opened last

Opening a dataset is several things in a row: it is loaded, the chart of the
one before is taken off show, and a chart is mounted in the container that
this leaves free. Only the first can fail, and it comes before anything is
changed. So the window always shows the dataset that was opened last, or
nothing before the first.

What was opened last is a fact about the past, `lastOpened`, which is told
from the deeds and the files alone. The link counts as a toggle only while
there is more to show; otherwise there is no link, and nothing would happen.

All that can happen to a window comes to deeds (`act_eq_performAll`), so what
holds after all deeds holds in each frame.
-/

namespace RankedBars

namespace Retained

/-- The states of a store in which nothing is live outside one container. -/
def stage (container : String) : Stage Store Handle where
  free s := s.live = []
  shows config handle s :=
    handle.container = container ∧ s.live = [⟨container, handle.instanceNumber, config⟩]

theorem stage_sound (container : String) : (stage container).Sound backend container where
  generate config s hcontainer hfree := by
    have hnone : ¬ (s.slot? config.container).isSome = true := by
      rw [Store.slot?, hfree]
      exact Bool.false_ne_true
    exact ⟨_, _, if_neg hnone, hcontainer, by rw [hfree, hcontainer]⟩
  destroy config handle s := by
    rintro ⟨hcontainer, hlive⟩
    refine ⟨_, rfl, ?_⟩
    show List.filter _ s.live = []
    rw [hlive]
    simp [hcontainer]

end Retained

namespace Viewer

open Mounting (Settled)

/-- One thing that is done in a window, or that changes around it. -/
inductive Deed
  | openDataset (path : String)
  | toggle
  | changeFiles (files : FileTree)
  | resize (width : Nat)

namespace Window

def perform (w : Window) : Deed → Window
  | .openDataset path => w.openDataset path
  | .toggle => w.toggle
  | .changeFiles files => { w with files }
  | .resize width => { w with width }

def performAll (w : Window) (deeds : List Deed) : Window := deeds.foldl perform w

theorem performAll_append (w : Window) (before after : List Deed) :
    w.performAll (before ++ after) = (w.performAll before).performAll after :=
  List.foldl_append

end Window

/-- A dataset that was opened, and how often its chart was toggled since. -/
structure Opened where
  path : String
  data : Dataset
  toggles : Nat := 0

/-- What a press on the toggle makes of it. -/
def Opened.toggled (limit : Int) (o : Opened) : Opened :=
  if max limit 0 < o.data.length then { o with toggles := o.toggles + 1 } else o

/-- The dataset that was opened last when the deeds are done, if the files are
these and the last one was that when they begin. -/
def lastOpened (limit : Int) (files : FileTree) (last : Option Opened) :
    List Deed → Option Opened
  | [] => last
  | .openDataset path :: rest =>
      match Dataset.load files path with
      | .ok (data, _) => lastOpened limit files (some { path, data }) rest
      | .error _ => lastOpened limit files last rest
  | .toggle :: rest => lastOpened limit files (last.map (·.toggled limit)) rest
  | .changeFiles files :: rest => lastOpened limit files last rest
  | .resize _ :: rest => lastOpened limit files last rest

/-- The chart of the window is that of the dataset that was opened last. -/
def Current (d : Dashboard) (w : Window) : Option Opened → Prop
  | none => w.dashboard = d ∧ w.source = none ∧ w.chart = none ∧ w.store.live = []
  | some o => w.dashboard = d ∧ w.source = some o.path ∧ ∃ c, w.chart = some c ∧
      Settled (Retained.stage container) (d.mounting o.data container) o.toggles c w.store

/-- What can be seen of a window, and what opening can come to there. -/
structure Shows (d : Dashboard) (w : Window) (last : Option Opened) : Prop where
  source : w.source = last.map (·.path)
  /-- With nothing opened there is nothing to see. -/
  nothing : last = none → w.chart = none ∧ w.liveChart? = none
  /-- What was opened is shown as far as the mode says, unless it is empty. -/
  chart : ∀ o, last = some o → ∃ c, w.chart = some c ∧ (c.mode = .all ↔ Odd o.toggles) ∧
    w.liveChart? = if o.data = [] then none else some
      (d.renderer.config (o.data.view d.limit c.mode.showsAll) container d.paddingLeft)
  one : w.store.liveCount ≤ 1
  /-- The link is there exactly if it does something. -/
  link : w.toggleText?.isSome = true ↔ ∃ o, last = some o ∧ max d.limit 0 < o.data.length
  /-- Whatever was loaded, putting it in place of the chart that is there goes
  through. -/
  mounting : ∀ data, ∃ free mounted,
    w.release = (.ok (), free) ∧ free.mount data = (.ok (), mounted)
  opening : ∀ path loaded, Dataset.load w.files path = .ok loaded →
    (w.openDataset path).source = some path ∧ (w.openDataset path).error = ""
  failing : ∀ path e, Dataset.load w.files path = .error e →
    w.openDataset path = w.refuse e.message ∧ (w.openDataset path).chart = w.chart ∧
      (w.openDataset path).store = w.store ∧ (w.openDataset path).source = w.source

variable {d : Dashboard} {w : Window} {last : Option Opened}

/-- Mounting in a free container goes through. -/
theorem mount_of_free (hd : w.dashboard = d) (hfree : w.store.live = []) (data : Dataset) :
    ∃ chart store, w.mount data = (.ok (), { w with chart := some chart, store }) ∧
      Settled (Retained.stage container) (d.mounting data container) 0 chart store := by
  obtain ⟨c, store, notices, hmount, hsettled⟩ :=
    Mounting.settled_mount (m := d.mounting data container) (B := Retained.backend)
      (fun _ => Retained.stage_sound container) hfree rfl
  refine ⟨c, store, ?_, hsettled⟩
  rw [Mounting.mount, Dashboard.mounting] at hmount
  rw [Window.mount, hd, hmount]

/-- What is live is the chart of what is shown, if there is anything to show. -/
theorem live_of_settled {data : Dataset} {toggles : Nat} {c : ToggleChart Retained.Handle}
    {s : Retained.Store}
    (h : Settled (Retained.stage container) (d.mounting data container) toggles c s) :
    ∃ number, s.live = if data = [] then [] else [⟨container, number,
      d.renderer.config (data.view d.limit c.mode.showsAll) container d.paddingLeft⟩] := by
  by_cases hnil : data = []
  · refine ⟨0, ?_⟩
    rw [if_pos hnil]
    exact (h.empty hnil).2
  · obtain ⟨handle, -, -, hlive⟩ := h.drawn hnil
    refine ⟨handle.instanceNumber, ?_⟩
    rw [if_neg hnil, hlive, h.fits.config, h.fits.view]
    rfl

theorem openDataset_of_error {path : String} {e : LoadError}
    (h : Dataset.load w.files path = .error e) : w.openDataset path = w.refuse e.message := by
  rw [Window.openDataset, h]

theorem toggleText?_isSome (w : Window) :
    w.toggleText?.isSome = ((w.chart.bind (·.control)).bind Button.clickTarget).isSome := by
  rw [Window.toggleText?]
  cases w.chart with
  | none => rfl
  | some c =>
      cases hcontrol : c.control with
      | none => simp [hcontrol]
      | some b => cases htarget : b.clickTarget <;> simp [hcontrol, htarget]

namespace Current

theorem dashboard (h : Current d w last) : w.dashboard = d := by
  cases last with
  | none => exact h.1
  | some o => exact h.1

/-- The files, the width and the texts play no part. -/
theorem congr (h : Current d w last) {w' : Window} (hdashboard : w'.dashboard = w.dashboard)
    (hsource : w'.source = w.source) (hchart : w'.chart = w.chart)
    (hstore : w'.store = w.store) : Current d w' last := by
  cases last with
  | none =>
      rw [Current, hdashboard, hsource, hchart, hstore]
      exact h
  | some o =>
      rw [Current, hdashboard, hsource, hchart, hstore]
      exact h

/-- The chart can be taken off show. -/
theorem release (h : Current d w last) :
    ∃ store, w.release = (.ok (), { w with chart := none, store }) ∧ store.live = [] := by
  cases last with
  | none =>
      obtain ⟨-, -, hchart, hlive⟩ := h
      refine ⟨w.store, ?_, hlive⟩
      rw [Window.release, hchart]
      exact congrArg (Prod.mk _) (by rw [← hchart])
  | some o =>
      obtain ⟨-, -, c, hchart, hsettled⟩ := h
      obtain ⟨control, store, hunmount, hfree⟩ :=
        hsettled.unmount fun _ => Retained.stage_sound container
      refine ⟨store, ?_, hfree⟩
      simp only [Window.release, hchart, hunmount]
      rfl

theorem openDataset (h : Current d w last) {path : String} {data : Dataset}
    {notices : List Notice} (hload : Dataset.load w.files path = .ok (data, notices)) :
    Current d (w.openDataset path) (some { path, data }) ∧
      (w.openDataset path).files = w.files ∧ (w.openDataset path).error = "" := by
  obtain ⟨free, hrelease, hfree⟩ := h.release
  obtain ⟨c, store, hmount, hsettled⟩ :=
    mount_of_free (w := { w with chart := none, store := free }) h.dashboard hfree data
  rw [Window.openDataset, hload]
  simp only [hrelease, hmount]
  exact ⟨⟨h.dashboard, rfl, c, rfl, hsettled⟩, rfl, rfl⟩

theorem toggle (h : Current d w last) :
    Current d w.toggle (last.map (·.toggled d.limit)) ∧ w.toggle.files = w.files := by
  cases last with
  | none =>
      have hsame : w.toggle = w := by rw [Window.toggle, h.2.2.1]
      rw [hsame]
      exact ⟨h, rfl⟩
  | some o =>
      obtain ⟨hd, hsource, c, hchart, hsettled⟩ := h
      rw [Window.toggle, hchart]
      by_cases hmore : (d.mounting o.data container).Expandable
      · obtain ⟨c', event, store, notices, hactivate, htoggled⟩ :=
          hsettled.activate (Retained.stage_sound container) hmore
        have hlast : o.toggled d.limit = { o with toggles := o.toggles + 1 } := if_pos hmore
        simp only [hactivate, Option.map_some, hlast]
        exact ⟨⟨hd, hsource, c', rfl, htoggled⟩, trivial⟩
      · have hlast : o.toggled d.limit = o := if_neg hmore
        simp only [hsettled.activate_of_not_expandable hmore, Option.map_some, hlast]
        exact ⟨⟨hd, hsource, c, rfl, hsettled⟩, trivial⟩

/-- The chart stays that of the dataset that was opened last, whatever is
done. -/
theorem performAll (h : Current d w last) (deeds : List Deed) :
    Current d (w.performAll deeds) (lastOpened d.limit w.files last deeds) := by
  induction deeds generalizing w last with
  | nil => exact h
  | cons deed rest ih =>
      rw [Window.performAll, List.foldl_cons]
      cases deed with
      | openDataset path =>
          rw [lastOpened]
          cases hload : Dataset.load w.files path with
          | error e =>
              rw [Window.perform, openDataset_of_error hload]
              exact ih (h.congr rfl rfl rfl rfl)
          | ok loaded =>
              obtain ⟨hcurrent, hfiles, -⟩ := h.openDataset hload
              rw [← hfiles]
              exact ih hcurrent
      | toggle =>
          obtain ⟨hcurrent, hfiles⟩ := h.toggle
          rw [lastOpened, ← hfiles]
          exact ih hcurrent
      | changeFiles files => exact ih (w := { w with files }) (h.congr rfl rfl rfl rfl)
      | resize width => exact ih (w := { w with width }) (h.congr rfl rfl rfl rfl)

theorem liveChart?_eq (h : Current d w last) {o : Opened} (ho : last = some o) :
    ∃ c, w.chart = some c ∧ (c.mode = .all ↔ Odd o.toggles) ∧
      w.liveChart? = if o.data = [] then none else some
        (d.renderer.config (o.data.view d.limit c.mode.showsAll) container d.paddingLeft) := by
  subst ho
  obtain ⟨-, -, c, hchart, hsettled⟩ := h
  obtain ⟨number, hlive⟩ := live_of_settled hsettled
  refine ⟨c, hchart, hsettled.mode, ?_⟩
  rw [Window.liveChart?, Retained.Store.chart?, Retained.Store.slot?, hlive]
  split
  · rfl
  · rw [List.find?_cons_of_pos (by simp), Option.map_some]

theorem liveCount_le_one (h : Current d w last) : w.store.liveCount ≤ 1 := by
  rw [Retained.Store.liveCount]
  cases last with
  | none =>
      rw [h.2.2.2]
      exact Nat.zero_le _
  | some o =>
      obtain ⟨-, -, c, -, hsettled⟩ := h
      obtain ⟨number, hlive⟩ := live_of_settled hsettled
      rw [hlive]
      split
      · exact Nat.zero_le _
      · exact Nat.le_refl 1

theorem toggleText?_isSome_iff (h : Current d w last) :
    w.toggleText?.isSome = true ↔ ∃ o, last = some o ∧ max d.limit 0 < o.data.length := by
  rw [toggleText?_isSome]
  cases last with
  | none =>
      rw [h.2.2.1]
      exact iff_of_false Bool.false_ne_true fun ⟨o, ho, _⟩ => nomatch ho
  | some o =>
      obtain ⟨-, -, c, hchart, hsettled⟩ := h
      rw [hchart, Option.bind_some, hsettled.clickTarget_isSome_iff]
      constructor
      · exact fun hmore => ⟨o, rfl, hmore⟩
      · rintro ⟨_, ⟨⟩, hmore⟩
        exact hmore

theorem shows (h : Current d w last) : Shows d w last where
  source := by
    cases last with
    | none => exact h.2.1
    | some o => exact h.2.1
  nothing hnone := by
    subst hnone
    refine ⟨h.2.2.1, ?_⟩
    rw [Window.liveChart?, Retained.Store.chart?, Retained.Store.slot?, h.2.2.2]
    rfl
  chart o ho := h.liveChart?_eq ho
  one := h.liveCount_le_one
  link := h.toggleText?_isSome_iff
  mounting data := by
    obtain ⟨free, hrelease, hfree⟩ := h.release
    obtain ⟨c, store, hmount, -⟩ :=
      mount_of_free (w := { w with chart := none, store := free }) h.dashboard hfree data
    exact ⟨_, _, hrelease, hmount⟩
  opening path loaded hload := by
    obtain ⟨⟨-, hsource, -⟩, -, herror⟩ := h.openDataset hload
    exact ⟨hsource, herror⟩
  failing path e hload := by
    rw [openDataset_of_error hload]
    exact ⟨rfl, rfl, rfl, rfl⟩

end Current

/-- A window before its dataset is opened. -/
theorem current_of_nothing (files : FileTree) (config : Option String) :
    Current (Window.start files none config).dashboard (Window.start files none config) none ∧
      (Window.start files none config).files = files := by
  cases config with
  | none => exact ⟨⟨rfl, rfl, rfl, rfl⟩, rfl⟩
  | some path =>
      rw [Window.start]
      cases Dashboard.load files path with
      | error e => exact ⟨⟨rfl, rfl, rfl, rfl⟩, rfl⟩
      | ok loaded => exact ⟨⟨rfl, rfl, rfl, rfl⟩, rfl⟩

/-- A window that is started with a dataset is one that opens it first. -/
theorem start_eq_performAll (files : FileTree) (dataset config : Option String) :
    Window.start files dataset config
      = (Window.start files none config).performAll (dataset.toList.map .openDataset) := by
  cases dataset with
  | none => rfl
  | some path => rfl

/-- The invariant of a run, from the start on. -/
theorem current_of_start (files : FileTree) (dataset config : Option String) (deeds : List Deed) :
    Current (Window.start files none config).dashboard
      ((Window.start files dataset config).performAll deeds)
      (lastOpened (Window.start files none config).dashboard.limit files none
        (dataset.toList.map .openDataset ++ deeds)) := by
  obtain ⟨hcurrent, hfiles⟩ := current_of_nothing files config
  have hlast := hcurrent.performAll (dataset.toList.map .openDataset ++ deeds)
  rw [Window.performAll_append, hfiles] at hlast
  rw [start_eq_performAll files dataset config]
  exact hlast

/-- The window always shows the dataset that was opened last. Whatever it is
started with, and whatever is opened, toggled and changed on disk after that,
putting a dataset on show never fails once it is loaded. If it cannot be
loaded, the chart, what is live and the name of the source stay. -/
theorem last_opened_is_shown (files : FileTree) (dataset config : Option String)
    (deeds : List Deed) :
    Shows (Window.start files none config).dashboard
      ((Window.start files dataset config).performAll deeds)
      (lastOpened (Window.start files none config).dashboard.limit files none
        (dataset.toList.map .openDataset ++ deeds)) :=
  (current_of_start files dataset config deeds).shows

/-! ## Frame by frame -/

namespace Window

/-- What a happening comes to. A click toggles the chart if it hits the link,
and the files change if they can be. -/
def deedsOf (w : Window) : Happening → List Deed
  | .click text =>
      match w.texts.reverse.find? fun shown => shown.text = text with
      | some { role := .toggleLink, .. } => [.toggle]
      | _ => []
  | .openPath path => path.toList.map .openDataset
  | .resize width => [.resize width]
  | .writeFile path text => changeOf (w.files.writeText path text)
  | .removeFile path => changeOf (w.files.removeFile path)
where
  /-- What the outcome of an operation on files comes to. -/
  changeOf : Except IoError FileTree → List Deed
    | .ok files => [.changeFiles files]
    | .error _ => []

/-- The window after some happenings. -/
def after (w : Window) (happenings : List Happening) : Window :=
  happenings.foldl (fun w happening => (w.act happening).2.2) w

/-- What they come to, each of them in the window that the ones before it have
left. -/
def deedsOfAll (w : Window) : List Happening → List Deed
  | [] => []
  | happening :: rest => w.deedsOf happening ++ (w.act happening).2.2.deedsOfAll rest

theorem act_eq_performAll (w : Window) (happening : Happening) :
    (w.act happening).2.2 = w.performAll (w.deedsOf happening) := by
  have hfiles (result : Except IoError FileTree) :
      (act.onFiles w result).2.2 = w.performAll (deedsOf.changeOf result) := by
    cases result with
    | error e => rfl
    | ok files => rfl
  cases happening with
  | click text =>
      rw [act, clickText, deedsOf]
      cases w.texts.reverse.find? fun shown => shown.text = text with
      | none => rfl
      | some shown =>
          obtain ⟨text, role⟩ := shown
          cases role <;> rfl
  | openPath path =>
      cases path with
      | none => rfl
      | some path => rfl
  | resize width => rfl
  | writeFile path text => exact hfiles _
  | removeFile path => exact hfiles _

theorem after_eq_performAll (w : Window) (happenings : List Happening) :
    w.after happenings = w.performAll (w.deedsOfAll happenings) := by
  induction happenings generalizing w with
  | nil => rfl
  | cons happening rest ih =>
      rw [deedsOfAll, performAll_append, ← act_eq_performAll]
      exact ih _

theorem exists_of_getElem?_framesFrom {w : Window} {happenings : List Happening} {index : Nat}
    {shown : Frame} (h : (w.framesFrom happenings)[index]? = some shown) :
    ∃ result dialogs, shown = (w.after (happenings.take (index + 1))).frame result dialogs := by
  induction happenings generalizing w index with
  | nil => exact absurd h (Option.some_ne_none shown).symm
  | cons happening rest ih =>
      cases index with
      | zero => exact ⟨_, _, (Option.some_inj.mp h).symm⟩
      | succ index => exact ih h

/-- A frame is that of the window after as many happenings as there are frames
before it. -/
theorem exists_of_getElem?_frames {w : Window} {happenings : List Happening} {index : Nat}
    {shown : Frame} (h : (w.frames happenings)[index]? = some shown) :
    ∃ result dialogs, shown = (w.after (happenings.take index)).frame result dialogs := by
  cases index with
  | zero => exact ⟨_, _, (Option.some_inj.mp h).symm⟩
  | succ index => exact exists_of_getElem?_framesFrom h

end Window

/-- Every frame is that of a window which shows the dataset that was opened
last. What that is follows from the start and from what has happened before the
frame, where a click is a toggle only if it hits the link. -/
theorem frames_show_last_opened (files : FileTree) (dataset config : Option String)
    (happenings : List Window.Happening) (index : Nat) (shown : Window.Frame)
    (h : ((Window.start files dataset config).frames happenings)[index]? = some shown) :
    (∃ result dialogs, shown =
      ((Window.start files dataset config).after (happenings.take index)).frame result dialogs) ∧
    Shows (Window.start files none config).dashboard
      ((Window.start files dataset config).after (happenings.take index))
      (lastOpened (Window.start files none config).dashboard.limit files none
        (dataset.toList.map .openDataset
          ++ (Window.start files dataset config).deedsOfAll (happenings.take index))) := by
  refine ⟨Window.exists_of_getElem?_frames h, ?_⟩
  rw [Window.after_eq_performAll]
  exact (current_of_start files dataset config _).shows

end Viewer

end RankedBars
