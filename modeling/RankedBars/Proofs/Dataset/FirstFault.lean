import RankedBars.Proofs.Dataset.Loaded
import RankedBars.Proofs.Number.Order
import RankedBars.Ranking

/-!
# The row that a dataset is refused for

The check goes through the rows once and keeps the labels that it has met. It
stops at the first row that is wrong, so the rows behind it were right and
what it keeps are their labels, no more and no fewer. `Passed` is this state,
and `firstFault_of_faultFrom?` carries it along the rows.

`FirstFault` says which row is named and for what without speaking of labels
that were met: the least row that has a fault, and of two faults the value. A
dataset has at most one of these, which is why the check finds it whenever
there is one.
-/

namespace RankedBars.Dataset

/-- The row of a number, rows counted from one. -/
def row? (data : Dataset) : Nat → Option DataPoint
  | 0 => none
  | index + 1 => data[index]?

/-- What is wrong with a row. Both can be wrong with one. -/
inductive HasFault (data : Dataset) (row : Nat) : RowFault → Prop
  | notFinite {p : DataPoint} (hp : data.row? row = some p) (h : p.value.isFinite = false) :
      HasFault data row (.notFinite p.label)
  | duplicateLabel {earlier : Nat} {p q : DataPoint} (hp : data.row? row = some p)
      (hearlier : earlier < row) (hq : data.row? earlier = some q) (h : q.label = p.label) :
      HasFault data row (.duplicateLabel p.label)

/-- The fault that a dataset is refused for. -/
structure FirstFault (data : Dataset) (row : Nat) (fault : RowFault) : Prop where
  has : HasFault data row fault
  least : ∀ other otherFault, HasFault data other otherFault → row ≤ other
  /-- Of two faults in one row the value counts. -/
  value : ∀ label, HasFault data row (.notFinite label) → fault = .notFinite label

/-- A dataset that can be charted. -/
structure Clean (data : Dataset) : Prop where
  finite : ∀ p ∈ data, p.value.isFinite = true
  distinct : data.Pairwise fun p q => p.label ≠ q.label

theorem row?_append_of_le {done rest : Dataset} {row : Nat} (h : row ≤ done.length) :
    (done ++ rest).row? row = done.row? row := by
  cases row with
  | zero => rfl
  | succ index =>
      simp only [row?]
      rw [List.getElem?_append_left (by omega)]

theorem row?_length_succ (done : Dataset) (p : DataPoint) (rest : Dataset) :
    (done ++ p :: rest).row? (done.length + 1) = some p := by
  simp [row?]

theorem mem_of_row? {data : Dataset} {row : Nat} {p : DataPoint} (h : data.row? row = some p) :
    p ∈ data := by
  cases row with
  | zero => cases h
  | succ index => exact List.mem_of_getElem? h

theorem exists_row?_of_mem {data : Dataset} {p : DataPoint} (h : p ∈ data) :
    ∃ row, row ≤ data.length ∧ data.row? row = some p := by
  obtain ⟨index, hindex, hp⟩ := List.getElem_of_mem h
  exact ⟨index + 1, by omega, by rw [row?, List.getElem?_eq_getElem hindex, hp]⟩

/-! ## One row after the other -/

/-- The rows that were looked at have no fault, and what is kept are their
labels. -/
structure Passed (done : Dataset) (seen : List String) (rest : Dataset) : Prop where
  sound : ∀ row ≤ done.length, ∀ fault, ¬ HasFault (done ++ rest) row fault
  seen_iff : ∀ label, label ∈ seen ↔ ∃ q ∈ done, q.label = label

theorem passed_nil (data : Dataset) : Passed [] [] data where
  sound row hrow fault h := by
    obtain rfl : row = 0 := by simpa using hrow
    cases h with
    | notFinite hp => cases hp
    | duplicateLabel hp => cases hp
  seen_iff label := by simp

section

variable {done rest : Dataset} {seen : List String} {p : DataPoint}

/-- What can be wrong with the next row. -/
theorem Passed.hasFault_iff (h : Passed done seen (p :: rest)) {fault : RowFault} :
    HasFault (done ++ p :: rest) (done.length + 1) fault ↔
      (p.value.isFinite = false ∧ fault = .notFinite p.label) ∨
      (p.label ∈ seen ∧ fault = .duplicateLabel p.label) := by
  have hnext := row?_length_succ done p rest
  constructor
  · intro hfault
    cases hfault with
    | notFinite hp hvalue =>
        rw [hnext] at hp
        cases hp
        exact .inl ⟨hvalue, rfl⟩
    | duplicateLabel hp hearlier hq hlabel =>
        rw [hnext] at hp
        cases hp
        rw [row?_append_of_le (by omega)] at hq
        exact .inr ⟨(h.seen_iff _).mpr ⟨_, mem_of_row? hq, hlabel⟩, rfl⟩
  · rintro (⟨hvalue, rfl⟩ | ⟨hmem, rfl⟩)
    · exact .notFinite hnext hvalue
    · obtain ⟨q, hq, hlabel⟩ := (h.seen_iff _).mp hmem
      obtain ⟨earlier, hearlier, hrow⟩ := exists_row?_of_mem hq
      refine .duplicateLabel hnext (by omega : earlier < done.length + 1) ?_ hlabel
      rw [row?_append_of_le hearlier, hrow]

/-- A row that is right is behind the check, and its label with it. -/
theorem Passed.step (h : Passed done seen (p :: rest)) (hvalue : p.value.isFinite = true)
    (hlabel : p.label ∉ seen) : Passed (done ++ [p]) (p.label :: seen) rest where
  sound row hrow fault hfault := by
    rw [List.append_assoc, List.singleton_append] at hfault
    rw [List.length_append, List.length_singleton] at hrow
    rcases Nat.lt_or_ge done.length row with hlt | hle
    · obtain rfl : row = done.length + 1 := by omega
      rcases h.hasFault_iff.mp hfault with ⟨hbad, -⟩ | ⟨hmem, -⟩
      · rw [hvalue] at hbad
        cases hbad
      · exact hlabel hmem
    · exact h.sound row hle fault hfault
  seen_iff label := by
    have hseen := h.seen_iff label
    simp only [List.mem_cons, List.mem_append, List.not_mem_nil, or_false, hseen]
    constructor
    · rintro (rfl | ⟨q, hq, heq⟩)
      · exact ⟨p, .inr rfl, rfl⟩
      · exact ⟨q, .inl hq, heq⟩
    · rintro ⟨q, hq | rfl, heq⟩
      · exact .inr ⟨q, hq, heq⟩
      · exact .inl heq.symm

/-- The next row is the first one with a fault if it has one. -/
theorem Passed.firstFault (h : Passed done seen (p :: rest)) {fault : RowFault}
    (hhas : HasFault (done ++ p :: rest) (done.length + 1) fault)
    (hvalue : p.value.isFinite = false → fault = .notFinite p.label) :
    FirstFault (done ++ p :: rest) (done.length + 1) fault where
  has := hhas
  least other otherFault hother := by
    by_contra hlt
    exact h.sound other (by omega) otherFault hother
  value label hlabel := by
    rcases h.hasFault_iff.mp hlabel with ⟨hbad, heq⟩ | ⟨-, heq⟩
    · rw [hvalue hbad, ← heq]
    · cases heq

theorem firstFault_of_faultFrom? (h : Passed done seen rest) {row : Nat} {fault : RowFault}
    (hfound : faultFrom? seen (done.length + 1) rest = some (row, fault)) :
    FirstFault (done ++ rest) row fault := by
  induction rest generalizing done seen with
  | nil => cases hfound
  | cons p rest ih =>
      rw [faultFrom?] at hfound
      cases hvalue : p.value.isFinite with
      | false =>
          simp only [hvalue, Bool.not_false, if_true] at hfound
          cases hfound
          exact h.firstFault (h.hasFault_iff.mpr (.inl ⟨hvalue, rfl⟩)) fun _ => rfl
      | true =>
          simp only [hvalue, Bool.not_true, Bool.false_eq_true, if_false,
            List.contains_iff_mem] at hfound
          split at hfound
          · next hseen =>
              cases hfound
              refine h.firstFault (h.hasFault_iff.mpr (.inr ⟨hseen, rfl⟩)) fun hbad => ?_
              rw [hvalue] at hbad
              cases hbad
          · next hnew =>
              have hstep := h.step hvalue hnew
              have hlength : (done ++ [p]).length = done.length + 1 := by simp
              have hfirst := ih hstep (by rw [hlength]; exact hfound)
              rw [List.append_assoc] at hfirst
              exact hfirst

end

/-! ## The dataset as a whole -/

section

variable {data : Dataset} {row : Nat} {fault : RowFault}

theorem clean_iff_fault?_eq_none : Clean data ↔ data.fault? = none := by
  rw [fault?_eq_none_iff, List.Nodup, List.pairwise_map]
  exact ⟨fun h => ⟨h.finite, h.distinct⟩, fun h => ⟨h.1, h.2⟩⟩

theorem firstFault_of_fault? (h : data.fault? = some (row, fault)) : FirstFault data row fault :=
  firstFault_of_faultFrom? (passed_nil data) h

/-- Where one row has a fault the dataset is not clean. -/
theorem HasFault.not_clean (h : HasFault data row fault) : ¬ Clean data := by
  intro hclean
  cases h with
  | notFinite hp hvalue =>
      rw [hclean.finite _ (mem_of_row? hp)] at hvalue
      cases hvalue
  | @duplicateLabel earlier p q hp hearlier hq hlabel =>
      obtain ⟨i, rfl⟩ : ∃ i, row = i + 1 := ⟨row - 1, by omega⟩
      cases earlier with
      | zero => cases hq
      | succ j =>
          obtain ⟨hi, hpi⟩ := List.getElem?_eq_some_iff.mp hp
          obtain ⟨hj, hqj⟩ := List.getElem?_eq_some_iff.mp hq
          have hne := List.pairwise_iff_getElem.mp hclean.distinct j i hj hi (by omega)
          rw [hpi, hqj] at hne
          exact hne hlabel

theorem FirstFault.unique (h : FirstFault data row fault) {row' : Nat} {fault' : RowFault}
    (h' : FirstFault data row' fault') : row = row' ∧ fault = fault' := by
  obtain rfl : row = row' := Nat.le_antisymm (h.least _ _ h'.has) (h'.least _ _ h.has)
  refine ⟨rfl, ?_⟩
  cases hhas : h.has with
  | notFinite hp hvalue => exact (h'.value _ h.has).symm
  | duplicateLabel hp _ _ _ =>
      cases hhas' : h'.has with
      | notFinite _ _ => exact h.value _ h'.has
      | duplicateLabel hp' _ _ _ =>
          rw [hp] at hp'
          cases hp'
          rfl

theorem fault?_eq_some_iff : data.fault? = some (row, fault) ↔ FirstFault data row fault := by
  refine ⟨firstFault_of_fault?, fun h => ?_⟩
  cases hfound : data.fault? with
  | none => exact absurd (clean_iff_fault?_eq_none.mpr hfound) h.has.not_clean
  | some found =>
      obtain ⟨hrow, hfault⟩ := h.unique (firstFault_of_fault? hfound)
      rw [hrow, hfault]

end

/-! ## Files -/

/-- The rows of a file, read but not checked. -/
def parse (files : FileTree) (path : String) : Except LoadError Dataset :=
  if isCsvPath path then parseCsvFile files path else parseJsonFile files path

theorem load_eq_ok_iff {files : FileTree} {path : String} {data : Dataset}
    {notices : List Notice} : load files path = .ok (data, notices) ↔
      parse files path = .ok data ∧ Clean data ∧ notices = [.loadedRows data.length path] := by
  rw [clean_iff_fault?_eq_none, load, ← parse]
  cases parse files path with
  | error e => simp
  | ok rows =>
      cases hfault : rows.fault? with
      | none =>
          simp only [hfault, Except.ok.injEq, Prod.mk.injEq]
          constructor
          · rintro ⟨rfl, rfl⟩
            exact ⟨rfl, hfault, rfl⟩
          · rintro ⟨rfl, -, rfl⟩
            exact ⟨rfl, rfl⟩
      | some fault =>
          simp only [hfault, reduceCtorEq, Except.ok.injEq, false_iff, not_and]
          rintro rfl hnone
          rw [hfault] at hnone
          cases hnone

theorem load_of_firstFault {files : FileTree} {path : String} {data : Dataset} {row : Nat}
    {fault : RowFault} (hparse : parse files path = .ok data) (h : FirstFault data row fault) :
    load files path = .error (.invalid path row fault) := by
  rw [load, ← parse, hparse]
  simp only [fault?_eq_some_iff.mpr h]

theorem message_invalid (path : String) (row : Nat) (fault : RowFault) :
    (LoadError.invalid path row fault).message
      = "invalid dataset " ++ path ++ ": row " ++ toString row ++ ": " ++ fault.message := by
  have hmark : ": row " = ": " ++ "row " := rfl
  rw [hmark]
  simp only [LoadError.message, LoadError.contexts, LoadError.cause?, LoadError.rowName,
    Option.toList_some, List.singleton_append, String.intercalate_cons_cons,
    String.intercalate_singleton, String.append_assoc]

/-- A dataset is refused for its first fault. The check finds nothing exactly
if all values are finite and the labels differ from each other, and otherwise
names the least row that is wrong, for its value if that is wrong as well as
the label. So the rows of a file that can be read are loaded as they are, in
their order, or refused by a message with the number of that row. What was
loaded, be it from comma-separated text or from JSON, is clean, and whatever is
shown of it no value is other than a number. -/
theorem refused_for_the_first_fault (files : FileTree) (path : String) (data : Dataset) :
    (data.fault? = none ↔ Clean data) ∧
    (∀ row fault, data.fault? = some (row, fault) ↔ FirstFault data row fault) ∧
    (parse files path = .ok data →
      (Clean data ∧ load files path = .ok (data, [.loadedRows data.length path])) ∨
      ∃ row fault, FirstFault data row fault ∧
        load files path = .error (.invalid path row fault) ∧
        (LoadError.invalid path row fault).message
          = "invalid dataset " ++ path ++ ": row " ++ toString row ++ ": " ++ fault.message) ∧
    ∀ notices, load files path = .ok (data, notices) →
      parse files path = .ok data ∧ Clean data ∧
        ∀ limit showAll, ∀ p ∈ data.view limit showAll, p.value.isNaN = false := by
  refine ⟨clean_iff_fault?_eq_none.symm, fun row fault => fault?_eq_some_iff, ?_, ?_⟩
  · intro hparse
    cases hfault : data.fault? with
    | none =>
        have hclean := clean_iff_fault?_eq_none.mpr hfault
        exact .inl ⟨hclean, load_eq_ok_iff.mpr ⟨hparse, hclean, rfl⟩⟩
    | some found =>
        have hfirst := firstFault_of_fault? hfault
        exact .inr ⟨_, _, hfirst, load_of_firstFault hparse hfirst, message_invalid _ _ _⟩
  · intro notices hload
    obtain ⟨hparse, hclean, -⟩ := load_eq_ok_iff.mp hload
    refine ⟨hparse, hclean, fun limit showAll p hp => ?_⟩
    have hmem := data.ranked_perm.mem_iff.mp ((data.view_prefix_ranked limit showAll).subset hp)
    exact Binary.isNaN_of_isFinite (hclean.finite p hmem)

/-- A row with both faults in front of one with a value that is not finite. -/
def rowsWithFaults : Dataset :=
  [⟨"a", .ofNat 1⟩, ⟨"b", .ofNat 2⟩, ⟨"a", .ofBits 0x7FF8000000000000⟩, ⟨"c", .infinity⟩]

def rowsWithFaultsFiles : FileTree :=
  fileTreeOf "rows.csv" "label,value\na,1\nb,2\na,NaN\nc,inf\n".toUTF8

/-- The third row is named, and for its value. -/
theorem refused_for_the_first_of_three_faults :
    parse rowsWithFaultsFiles "rows.csv" = .ok rowsWithFaults ∧
    FirstFault rowsWithFaults 3 (.notFinite "a") ∧
    load rowsWithFaultsFiles "rows.csv" = .error (.invalid "rows.csv" 3 (.notFinite "a")) := by
  have hparse : parse rowsWithFaultsFiles "rows.csv" = .ok rowsWithFaults :=
    toOption_eq_some_iff.mp (by decide +kernel)
  obtain ⟨-, hfault, hload, -⟩ :=
    refused_for_the_first_fault rowsWithFaultsFiles "rows.csv" rowsWithFaults
  have hfirst : FirstFault rowsWithFaults 3 (.notFinite "a") :=
    (hfault 3 (.notFinite "a")).mp (by decide +kernel)
  refine ⟨hparse, hfirst, ?_⟩
  rcases hload hparse with ⟨hclean, -⟩ | ⟨row, fault, hother, herror, -⟩
  · exact absurd hclean hfirst.has.not_clean
  · obtain ⟨rfl, rfl⟩ := hfirst.unique hother
    exact herror

end RankedBars.Dataset
