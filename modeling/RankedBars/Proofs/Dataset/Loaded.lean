import RankedBars.Dataset.Load
import RankedBars.Proofs.RowByRow

/-!
# What loading gives

A dataset is read row by row and then checked as a whole. Put together, a
file loads exactly if its labels differ and every row has a finite value, and
it loads as the rows in their order (`load?_eq`).
-/

namespace RankedBars.Dataset

/-- The dataset that a file loads as, if it does. -/
def load? (files : FileTree) (path : String) : Option Dataset :=
  (load files path).toOption.map (·.1)

theorem faultFrom?_eq_none_iff {seen : List String} {row : Nat} {data : Dataset} :
    faultFrom? seen row data = none ↔
      (∀ p ∈ data, p.value.isFinite) ∧ (data.map (·.label)).Nodup ∧
        ∀ p ∈ data, p.label ∉ seen := by
  induction data generalizing seen row with
  | nil => simp [faultFrom?]
  | cons p rest ih =>
      rw [faultFrom?]
      by_cases hfinite : p.value.isFinite
      · by_cases hseen : p.label ∈ seen
        · rw [if_neg (by simp [hfinite]), if_pos (List.contains_iff_mem.mpr hseen)]
          exact iff_of_false (Option.some_ne_none _) fun h => h.2.2 p List.mem_cons_self hseen
        · rw [if_neg (by simp [hfinite]), if_neg (by simpa using hseen), ih]
          rw [List.forall_mem_cons, List.forall_mem_cons, List.map_cons, List.nodup_cons,
            List.mem_map, not_exists]
          constructor
          · rintro ⟨hall, hnodup, hnew⟩
            refine ⟨⟨hfinite, hall⟩, ⟨?_, hnodup⟩, hseen, fun q hq hmem => ?_⟩
            · exact fun q hq => hnew q hq.1 (hq.2 ▸ List.mem_cons_self)
            · exact hnew q hq (List.mem_cons_of_mem _ hmem)
          · rintro ⟨⟨-, hall⟩, ⟨hother, hnodup⟩, -, hnew⟩
            refine ⟨hall, hnodup, fun q hq hmem => ?_⟩
            rcases List.mem_cons.mp hmem with heq | hmem
            · exact hother q ⟨hq, heq⟩
            · exact hnew q hq hmem
      · rw [if_pos (by simp [hfinite])]
        exact iff_of_false (Option.some_ne_none _) fun h => hfinite (h.1 p List.mem_cons_self)

theorem fault?_eq_none_iff {data : Dataset} :
    data.fault? = none ↔ (∀ p ∈ data, p.value.isFinite) ∧ (data.map (·.label)).Nodup := by
  rw [fault?, faultFrom?_eq_none_iff]
  simp

/-! ## Row by row -/

variable {β : Type} {label : β → String} {val : β → Option Binary64}

/-- The data point of a row, if the row has a value. -/
def point? (label : String) (value : Option Binary64) : Option DataPoint :=
  value.map (DataPoint.mk label)

theorem labels_of_mapM {rows : List β} {data : Dataset}
    (h : (rows.mapM fun b => point? (label b) (val b)) = some data) :
    data.map (·.label) = rows.map label := by
  have hall := mapM_eq_some_iff.mp h
  clear h
  induction hall with
  | nil => rfl
  | cons hb _ ih =>
      obtain ⟨value, -, rfl⟩ := Option.map_eq_some_iff.mp hb
      rw [List.map_cons, List.map_cons, ih]

theorem mapM_filter (rows : List β) :
    (rows.mapM fun b => point? (label b) ((val b).filter (·.isFinite)))
      = (rows.mapM fun b => point? (label b) (val b)).filter fun data =>
        data.all (·.value.isFinite) := by
  induction rows with
  | nil => rfl
  | cons b rows ih =>
      rw [List.mapM_cons, List.mapM_cons, ih]
      cases val b with
      | none => rfl
      | some value =>
          cases rows.mapM fun b => point? (label b) (val b) with
          | none => cases hfinite : value.isFinite <;> simp [point?, Option.filter_some, hfinite]
          | some data =>
              cases hfinite : value.isFinite <;> cases hall : data.all (·.value.isFinite) <;>
                simp [point?, Option.filter_some, hfinite, hall]

/-- A file whose rows are read one by one loads as these rows, if their labels
differ and their values are finite. -/
theorem load?_eq {files : FileTree} {path : String} {rows : List β}
    (h : (if isCsvPath path then parseCsvFile files path else parseJsonFile files path).toOption
      = rows.mapM fun b => point? (label b) (val b)) :
    load? files path = if (rows.map label).Nodup
      then rows.mapM fun b => point? (label b) ((val b).filter (·.isFinite)) else none := by
  rw [mapM_filter, load?, load, ← h]
  cases hparsed : if isCsvPath path then parseCsvFile files path else parseJsonFile files path with
  | error e => simp [Except.toOption]
  | ok data =>
      have hlabels := labels_of_mapM (h.symm.trans (by rw [hparsed]; rfl))
      have hfault : data.fault? = none ↔ _ := fault?_eq_none_iff
      rw [← hlabels]
      dsimp only [Except.toOption]
      rw [Option.filter_some]
      cases hcheck : data.fault? with
      | none =>
          obtain ⟨hall, hnodup⟩ := hfault.mp hcheck
          rw [if_pos hnodup, if_pos (List.all_eq_true.mpr hall)]
          rfl
      | some fault =>
          have hbad : ¬ ((∀ p ∈ data, p.value.isFinite) ∧ (data.map (·.label)).Nodup) :=
            fun h => Option.some_ne_none fault (hcheck.symm.trans (hfault.mpr h))
          by_cases hnodup : (data.map (·.label)).Nodup
          · rw [if_pos hnodup, if_neg fun hall => hbad ⟨List.all_eq_true.mp hall, hnodup⟩]
            rfl
          · rw [if_neg hnodup]
            rfl

/-! ## A file of its own -/

def fileTreeOf (name : String) (content : ByteArray) : FileTree :=
  FileTree.empty.put ["home", "work", name] (.file content)

theorem read_fileTreeOf {name : String} (content : ByteArray) (hne : name ≠ "")
    (hstart : name.startsWith "/" = false) (hnames : FileTree.names name = [name])
    (hdots : name ≠ "..") (hlength : name.utf8ByteSize ≤ FileTree.longestName)
    (hfile : FileTree.namesDirectory name = false) :
    (fileTreeOf name content).read name = .ok content := by
  have horigin : (fileTreeOf name content).origin name = ["home", "work"] := by
    rw [FileTree.origin, hstart, if_neg Bool.false_ne_true]
    rfl
  have hlocate : (fileTreeOf name content).locate name = .ok ["home", "work", name] := by
    rw [FileTree.locate, if_neg hne, horigin, hnames, FileTree.follow, if_neg (by omega),
      FileTree.descend, if_neg hdots]
    rfl
  rw [FileTree.read, hlocate]
  dsimp only
  rw [fileTreeOf, FileTree.node?_put_self _ _ (List.cons_ne_nil _ _)]
  dsimp only
  rw [hfile, if_neg Bool.false_ne_true]

end RankedBars.Dataset
