import SophosFw.Diagnostics
import SophosFw.SnmpValues
import Mathlib.Data.List.Sort
import Mathlib.Data.Set.Defs

/-!
Tables of an SNMP walk.

A cell comes under `<table>.1.<column>.<index>`, in which one number can begin with another. What
the client reads of a column is what the table has there, whatever else was walked, and a VPN
tunnel is put together from one row.
-/

namespace SophosFw.Snmp

open SophosFw.PyDict SophosFw.PyText SophosFw.Registry SophosFw.Records SophosFw.Diagnostics

/-- `text.lstrip(".")`. -/
def lstripDots (text : String) : String := String.ofList (text.toList.dropWhile (· == '.'))

/-- `text.strip(".")`. -/
def stripDots (text : String) : String :=
  String.ofList ((text.toList.dropWhile (· == '.')).rdropWhile (· == '.'))

def validIndex (compoundIndex : Bool) (idx : String) : Bool :=
  if compoundIndex then
    idx ≠ "" && (idx.toList.splitOn '.').all fun part => isDigit (String.ofList part)
  else isDigit idx

/-- The row index an OID of a column ends in. -/
def rowIndex (columnPrefix : String) (compoundIndex : Bool) (oid : String) : Option String :=
  let oid := lstripDots oid
  if startsWith oid columnPrefix then
    let idx := sliceFrom oid columnPrefix.toList.length
    if validIndex compoundIndex idx then some idx else none
  else none

/-- `table_column` -/
def tableColumn {V : Type} (data : Dict String V) (table column : String) (compoundIndex : Bool) :
    Dict String V :=
  let columnPrefix := stripDots table ++ ".1." ++ column ++ "."
  .build (fun item => (rowIndex columnPrefix compoundIndex item.1).map fun idx => (idx, item.2))
    data.entries

inductive SnmpError
  | sophosSnmpError
  | valueError
  deriving DecidableEq

/-- What `_walk_columns` gives for a table and some of its columns. -/
abbrev Walk := String → List String → Except SnmpError (Dict String Value)

/-- What `sorted` goes by. -/
def intKey (idx : String) : ℕ := (Records.int idx).toOption.getD 0

/-- `sorted(names, key=int)`. -/
def sortedByInt (names : List String) : Except SnmpError (List String) :=
  match names.mapM Records.int with
  | .error _ => .error .valueError
  | .ok _ => .ok (names.insertionSort fun i j => intKey i ≤ intKey j)

/-- `d.get(idx)`. -/
def item (d : Dict String Value) (idx : String) : Value := (d.get idx).getD .none

def oidVpnTable : String := "1.3.6.1.4.1.2604.5.1.6.1.1.1"
def vpnColName : String := "2"
def vpnColTunnels : String := "8"
def vpnColStatus : String := "9"
def vpnColActivated : String := "10"

/-- The columns the tunnels are read from. -/
def vpnColumns : List String := [vpnColName, vpnColTunnels, vpnColStatus, vpnColActivated]

/-- `SNMPClient.get_vpn_tunnels` -/
def getVpnTunnels (walkColumns : Walk) : Except SnmpError (Dict String VpnTunnel) := do
  let data ← walkColumns oidVpnTable vpnColumns
  let names := tableColumn data oidVpnTable vpnColName false
  let configured := tableColumn data oidVpnTable vpnColTunnels false
  let status := tableColumn data oidVpnTable vpnColStatus false
  let activated := tableColumn data oidVpnTable vpnColActivated false
  let idxs ← sortedByInt names.keys
  return .build (fun idx => (toStr (item names idx)).map fun name =>
    (idx, { index := idx
            name := name
            connStatus := toInt (item status idx)
            activated := toInt (item activated idx)
            tunnelsConfigured := toInt (item configured idx) })) idxs

/-- ASCII digits, at least one. -/
def IsNumber (s : String) : Prop := s ≠ "" ∧ ∀ c ∈ s.toList, c.isDigit = true

/-- A number, or numbers with dots between them. -/
def IsIndex (compoundIndex : Bool) (s : String) : Prop :=
  if compoundIndex then ∀ part ∈ s.toList.splitOn '.', IsNumber (String.ofList part)
  else IsNumber s

/-- The OID of the cell of a column and an index. -/
def cellOid (table : String) (cell : String × String) : String :=
  stripDots table ++ ".1." ++ cell.1 ++ "." ++ cell.2

/-- A table as OIDs and values, some of the OIDs with a leading dot. -/
def flatten {V : Type} (table : String) (dot : String × String → Bool)
    (cells : Dict (String × String) V) : List (String × V) :=
  cells.entries.map fun e => ((if dot e.1 then "." else "") ++ cellOid table e.1, e.2)

/-- ASCII digits and dots, at most one of them in front. -/
def IsDotted (oid : String) : Prop :=
  (∀ c ∈ oid.toList, c.isDigit = true ∨ c = '.') ∧ ¬ ['.', '.'] <+: oid.toList

/-- No OID of a cell of one of the columns. -/
def IsForeign (table : String) (compoundIndex : Bool) (columns : Set String) (oid : String) :
    Prop :=
  IsDotted oid ∧ ∀ column ∈ columns, ∀ idx, IsIndex compoundIndex idx →
    oid ≠ cellOid table (column, idx) ∧ oid ≠ "." ++ cellOid table (column, idx)

/-- The cells of a table, each once, among other OIDs. Those belong to none of its columns. -/
structure Flattened {V : Type} (table : String) (compoundIndex : Bool) (columns : Set String)
    (cells : Dict (String × String) V) (data : Dict String V) : Prop where
  table_ne : stripDots table ≠ ""
  column : ∀ column ∈ columns, IsNumber column
  cell : ∀ cell ∈ cells.keys, IsNumber cell.1 ∧ IsIndex compoundIndex cell.2
  mixed : ∃ dot others, data.entries.Perm (flatten table dot cells ++ others) ∧
    ∀ e ∈ others, IsForeign table compoundIndex columns e.1

instance (s : String) : Decidable (IsNumber s) :=
  haveI := List.decidableBAll (fun c => Char.isDigit c = true) s.toList
  inferInstanceAs (Decidable (s ≠ "" ∧ ∀ c ∈ s.toList, c.isDigit = true))

instance (compoundIndex : Bool) (s : String) : Decidable (IsIndex compoundIndex s) :=
  haveI := List.decidableBAll (fun part => IsNumber (String.ofList part)) (s.toList.splitOn '.')
  inferInstanceAs (Decidable (if compoundIndex then
    ∀ part ∈ s.toList.splitOn '.', IsNumber (String.ofList part) else IsNumber s))

instance (oid : String) : Decidable (IsDotted oid) :=
  haveI := List.decidableBAll (fun c => Char.isDigit c = true ∨ c = '.') oid.toList
  inferInstanceAs (Decidable ((∀ c ∈ oid.toList, c.isDigit = true ∨ c = '.') ∧
    ¬ ['.', '.'] <+: oid.toList))

/-- The decimal value. -/
def number (s : String) : ℕ := s.toList.foldl (fun n c => 10 * n + (c.toNat - 48)) 0

/-- One tunnel for every row with a name, in the order of the numbers, each from its own row. -/
structure RowsOf (cells : Dict (String × String) Value) (tunnels : Dict String VpnTunnel) :
    Prop where
  keys : ∀ idx, idx ∈ tunnels.keys ↔
    ∃ v, cells.get (vpnColName, idx) = some v ∧ toStr v ≠ none
  ordered : tunnels.keys.Pairwise fun i j => number i ≤ number j
  fields : ∀ idx t, tunnels.get idx = some t →
    t.index = idx ∧ (cells.get (vpnColName, idx)).bind toStr = some t.name ∧
      t.connStatus = (cells.get (vpnColStatus, idx)).bind toInt ∧
      t.activated = (cells.get (vpnColActivated, idx)).bind toInt ∧
      t.tunnelsConfigured = (cells.get (vpnColTunnels, idx)).bind toInt

lemma toNat_of_isDigit {c : Char} (h : c.isDigit = true) : 48 ≤ c.toNat ∧ c.toNat ≤ 57 := by
  simp only [Char.isDigit, Bool.and_eq_true, decide_eq_true_eq, ge_iff_le,
    UInt32.le_iff_toNat_le] at h
  exact h

lemma isDecimal_of_isDigit {c : Char} (h : c.isDigit = true) : isDecimal c = true := by
  unfold isDecimal inRanges
  rw [List.any_eq_true]
  exact ⟨(48, 57), List.mem_cons_self, by simpa using toNat_of_isDigit h⟩

lemma IsNumber.isDigit {s : String} (h : IsNumber s) : PyText.isDigit s = true := by
  unfold PyText.isDigit
  rw [Bool.and_eq_true, decide_eq_true_eq, List.all_eq_true]
  exact ⟨h.1, fun c hc => by rw [isDigitChar, isDecimal_of_isDigit (h.2 c hc), Bool.true_or]⟩

lemma isNumber_of_isDigit {s : String} (hall : ∀ c ∈ s.toList, c.isDigit = true ∨ c = '.')
    (h : PyText.isDigit s = true) : IsNumber s := by
  unfold PyText.isDigit at h
  rw [Bool.and_eq_true, decide_eq_true_eq, List.all_eq_true] at h
  refine ⟨h.1, fun c hc => (hall c hc).resolve_right ?_⟩
  rintro rfl
  have hdot := h.2 '.' hc
  revert hdot
  decide

lemma IsIndex.validIndex {compoundIndex : Bool} {idx : String} (h : IsIndex compoundIndex idx) :
    Snmp.validIndex compoundIndex idx = true := by
  cases compoundIndex with
  | false => exact IsNumber.isDigit h
  | true =>
    simp only [Snmp.validIndex, if_true, Bool.and_eq_true, decide_eq_true_eq, List.all_eq_true]
    refine ⟨?_, fun part hpart => (h part hpart).isDigit⟩
    rintro rfl
    exact (h [] (by simp)).1 rfl

lemma isIndex_of_validIndex {compoundIndex : Bool} {idx : String}
    (hall : ∀ c ∈ idx.toList, c.isDigit = true ∨ c = '.')
    (h : validIndex compoundIndex idx = true) : IsIndex compoundIndex idx := by
  cases compoundIndex with
  | false => exact isNumber_of_isDigit hall h
  | true =>
    simp only [validIndex, if_true, Bool.and_eq_true, List.all_eq_true] at h
    refine fun part hpart => isNumber_of_isDigit (fun c hc => hall c ?_) (h.2 part hpart)
    rw [String.toList_ofList] at hc
    exact mem_of_mem_splitOn hpart hc

lemma IsNumber.not_mem_dot {s : String} (h : IsNumber s) : '.' ∉ s.toList := by
  intro hdot
  have hdigit := h.2 '.' hdot
  revert hdigit
  decide

lemma exists_cons_stripDots {table : String} (h : stripDots table ≠ "") :
    ∃ c l, (stripDots table).toList = c :: l ∧ c ≠ '.' := by
  rcases hl : (stripDots table).toList with _ | ⟨c, l⟩
  · exact absurd (String.toList_eq_nil_iff.mp hl) h
  · refine ⟨c, l, rfl, ?_⟩
    obtain ⟨rest, hr⟩ := List.rdropWhile_prefix (· == '.') (table.toList.dropWhile (· == '.'))
    have hhead := List.head?_dropWhile_not (· == '.') table.toList
    rw [stripDots, String.toList_ofList] at hl
    rw [← hr, hl] at hhead
    simpa using hhead

lemma lstripDots_dot (text : String) : lstripDots ("." ++ text) = lstripDots text := by
  simp [lstripDots]

/-- The leading dot of an OID goes, and nothing else. -/
lemma lstripDots_cellOid {table : String} (h : stripDots table ≠ "") (dot : Bool)
    (cell : String × String) :
    lstripDots ((if dot then "." else "") ++ cellOid table cell) = cellOid table cell := by
  have hself : lstripDots (cellOid table cell) = cellOid table cell := by
    obtain ⟨c, l, hl, hc⟩ := exists_cons_stripDots h
    simp [lstripDots, cellOid, hl, hc, ← String.toList_inj]
  cases dot with
  | false => simpa using hself
  | true => rw [if_pos rfl, lstripDots_dot, hself]

lemma eq_lstripDots_or {oid : String} (h : ¬ ['.', '.'] <+: oid.toList) :
    oid = lstripDots oid ∨ oid = "." ++ lstripDots oid := by
  simp only [← String.toList_inj, String.toList_append, lstripDots, String.toList_ofList]
  generalize oid.toList = chars at h ⊢
  rcases chars with _ | ⟨c, _ | ⟨d, l⟩⟩
  · simp
  · by_cases hc : c = '.' <;> simp [hc]
  · by_cases hc : c = '.'
    · subst hc
      have hd : d ≠ '.' := by
        rintro rfl
        exact h ⟨l, rfl⟩
      simp [hd]
    · simp [hc]

/-- Numbers can begin with one another, their cells have different OIDs all the same. -/
lemma cellOid_inj {table c c' i i' : String} (hc : IsNumber c) (hc' : IsNumber c')
    (h : cellOid table (c, i) = cellOid table (c', i')) : c = c' ∧ i = i' := by
  have hlist := congrArg String.toList h
  simp only [cellOid, String.toList_append, List.append_assoc, List.append_cancel_left_eq] at hlist
  have hne : ∀ {s : String}, IsNumber s → ∀ z ∈ s.toList, decide (z ≠ '.') = true := by
    intro s hs z hz
    rw [decide_eq_true_eq]
    rintro rfl
    exact hs.not_mem_dot hz
  obtain ⟨hcc, -, hii⟩ := split_inj (hne hc) (by decide) (hne hc') (by decide) hlist
  exact ⟨String.toList_inj.mp hcc, String.toList_inj.mp hii⟩

lemma rowIndex_eq_some_iff {columnPrefix : String} {compoundIndex : Bool} {oid idx : String} :
    rowIndex columnPrefix compoundIndex oid = some idx ↔
      lstripDots oid = columnPrefix ++ idx ∧ validIndex compoundIndex idx = true := by
  unfold rowIndex
  dsimp only
  constructor
  · intro h
    split at h
    · next hstart =>
      split at h
      · next hvalid =>
        obtain ⟨t, ht⟩ := of_decide_eq_true hstart
        have hslice : sliceFrom (lstripDots oid) columnPrefix.toList.length = String.ofList t := by
          rw [sliceFrom, ← ht, List.drop_left]
        rw [hslice] at h hvalid
        obtain rfl : String.ofList t = idx := by simpa using h
        exact ⟨by rw [← String.toList_inj, ← ht]; simp, hvalid⟩
      · cases h
    · cases h
  · rintro ⟨h, hvalid⟩
    have hslice : sliceFrom (columnPrefix ++ idx) columnPrefix.toList.length = idx := by
      simp [sliceFrom]
    rw [h, if_pos (startsWith_append _ _), hslice, if_pos hvalid]

/-! ### A column is what the table has there -/

section Column

variable {V : Type} {table : String} {compoundIndex : Bool} {columns : Set String}
  {cells : Dict (String × String) V} {data : Dict String V}

lemma mem_flatten_iff {dot : String × String → Bool} {e : String × V} :
    e ∈ flatten table dot cells ↔ ∃ cell, cells.get cell = some e.2 ∧
      e.1 = (if dot cell then "." else "") ++ cellOid table cell := by
  obtain ⟨oid, v⟩ := e
  simp only [Dict.get_eq_some_iff]
  constructor
  · intro h
    obtain ⟨⟨cell, v'⟩, hmem, heq⟩ := List.mem_map.mp h
    obtain ⟨rfl, rfl⟩ := Prod.mk.inj heq
    exact ⟨cell, hmem, rfl⟩
  · rintro ⟨cell, hmem, rfl⟩
    exact List.mem_map.mpr ⟨(cell, v), hmem, rfl⟩

lemma IsForeign.rowIndex_ne {oid column idx : String}
    (h : IsForeign table compoundIndex columns oid) (hc : column ∈ columns) :
    rowIndex (stripDots table ++ ".1." ++ column ++ ".") compoundIndex oid ≠ some idx := by
  obtain ⟨⟨hall, hdots⟩, hno⟩ := h
  intro hread
  obtain ⟨hstrip, hvalid⟩ := rowIndex_eq_some_iff.mp hread
  have hchars : ∀ c ∈ idx.toList, c.isDigit = true ∨ c = '.' := by
    intro c hcmem
    have hmem : c ∈ (lstripDots oid).toList := by simp [hstrip, hcmem]
    rw [lstripDots, String.toList_ofList] at hmem
    exact hall c ((List.dropWhile_sublist _).subset hmem)
  obtain ⟨hne, hne'⟩ := hno column hc idx (isIndex_of_validIndex hchars hvalid)
  rcases eq_lstripDots_or hdots with heq | heq
  · exact hne (heq.trans hstrip)
  · exact hne' (heq.trans (congrArg ("." ++ ·) hstrip))

lemma rowIndex_cellOid (ht : stripDots table ≠ "") {column idx : String}
    (h : IsIndex compoundIndex idx) (dot : Bool) :
    rowIndex (stripDots table ++ ".1." ++ column ++ ".") compoundIndex
      ((if dot then "." else "") ++ cellOid table (column, idx)) = some idx :=
  rowIndex_eq_some_iff.mpr ⟨lstripDots_cellOid ht dot (column, idx), h.validIndex⟩

lemma isForeign_of_rowIndex (ht : stripDots table ≠ "") {oid : String} (hdotted : IsDotted oid)
    (h : ∀ column ∈ columns,
      rowIndex (stripDots table ++ ".1." ++ column ++ ".") compoundIndex oid = none) :
    IsForeign table compoundIndex columns oid := by
  refine ⟨hdotted, fun column hc idx hidx => ⟨?_, ?_⟩⟩ <;> rintro rfl
  · simpa [h column hc] using @rowIndex_cellOid table compoundIndex ht column idx hidx false
  · simpa [h column hc] using @rowIndex_cellOid table compoundIndex ht column idx hidx true

lemma flattened_of_rowIndex {columns : List String} (ht : stripDots table ≠ "")
    (hcolumn : ∀ column ∈ columns, IsNumber column)
    (hcell : ∀ cell ∈ cells.keys, IsNumber cell.1 ∧ IsIndex compoundIndex cell.2)
    (dot : String × String → Bool) (others : List (String × V))
    (hperm : data.entries.Perm (flatten table dot cells ++ others))
    (hothers : ∀ e ∈ others, IsDotted e.1 ∧ ∀ column ∈ columns,
      rowIndex (stripDots table ++ ".1." ++ column ++ ".") compoundIndex e.1 = none) :
    Flattened table compoundIndex {column | column ∈ columns} cells data :=
  ⟨ht, hcolumn, hcell, dot, others, hperm,
    fun e he => isForeign_of_rowIndex ht (hothers e he).1 (hothers e he).2⟩

lemma rowIndex_iff (h : Flattened table compoundIndex columns cells data)
    {dot : String × String → Bool} {others : List (String × V)}
    (hperm : data.entries.Perm (flatten table dot cells ++ others))
    (hothers : ∀ e ∈ others, IsForeign table compoundIndex columns e.1)
    {column : String} (hc : column ∈ columns) {e : String × V} (he : e ∈ data.entries)
    (idx : String) :
    rowIndex (stripDots table ++ ".1." ++ column ++ ".") compoundIndex e.1 = some idx ↔
      cells.get (column, idx) = some e.2 ∧
        e.1 = (if dot (column, idx) then "." else "") ++ cellOid table (column, idx) := by
  have hkey : ∀ {cell v}, cells.get cell = some v → cell ∈ cells.keys := fun hget =>
    cells.get_isSome_iff.mp (by rw [hget]; rfl)
  rcases List.mem_append.mp (hperm.mem_iff.mp he) with hcell | hother
  · obtain ⟨cell, hget, hoid⟩ := mem_flatten_iff.mp hcell
    rw [rowIndex_eq_some_iff, hoid, lstripDots_cellOid h.table_ne]
    constructor
    · rintro ⟨heq, -⟩
      obtain ⟨rfl, rfl⟩ := cellOid_inj (h.cell cell (hkey hget)).1 (h.column column hc) heq
      exact ⟨hget, rfl⟩
    · rintro ⟨hget', heq⟩
      have hstrip := congrArg lstripDots heq
      rw [lstripDots_cellOid h.table_ne, lstripDots_cellOid h.table_ne] at hstrip
      exact ⟨hstrip, (h.cell _ (hkey hget')).2.validIndex⟩
  · have hforeign := hothers e hother
    refine ⟨fun hread => absurd hread (hforeign.rowIndex_ne hc), ?_⟩
    rintro ⟨hget, heq⟩
    obtain ⟨hne, hne'⟩ := hforeign.2 column hc idx (h.cell _ (hkey hget)).2
    cases hdot : dot (column, idx) with
    | false => exact absurd (by simpa [hdot] using heq) hne
    | true => exact absurd (by simpa [hdot] using heq) hne'

theorem Flattened.get_tableColumn (h : Flattened table compoundIndex columns cells data)
    {column : String} (hc : column ∈ columns) (idx : String) :
    (tableColumn data table column compoundIndex).get idx = cells.get (column, idx) := by
  obtain ⟨dot, others, hperm, hothers⟩ := h.mixed
  have hread := fun {e : String × V} (he : e ∈ data.entries) => rowIndex_iff h hperm hothers hc he
  unfold tableColumn
  dsimp only
  set f := fun item : String × V =>
    (rowIndex (stripDots table ++ ".1." ++ column ++ ".") compoundIndex item.1).map
      fun i => (i, item.2) with hf
  have hf_iff : ∀ {e p}, f e = some p ↔
      rowIndex (stripDots table ++ ".1." ++ column ++ ".") compoundIndex e.1 = some p.1 ∧
        e.2 = p.2 := by
    rintro e ⟨i, v⟩
    simp [hf, Option.map_eq_some_iff]
  -- two OIDs of one index are the same
  have hnodup : ((data.entries.filterMap f).map Prod.fst).Nodup := by
    have hkeys := data.nodup
    rw [List.Nodup, List.pairwise_map] at hkeys ⊢
    rw [List.pairwise_filterMap]
    refine hkeys.imp_of_mem fun {e e'} he he' hne p hp p' hp' heq => hne ?_
    obtain ⟨-, hoid⟩ := (hread he p.1).mp (hf_iff.mp hp).1
    obtain ⟨-, hoid'⟩ := (hread he' p'.1).mp (hf_iff.mp hp').1
    rw [hoid, hoid', heq]
  ext v
  rw [Dict.get_build_eq_some hnodup]
  constructor
  · rintro ⟨e, he, hfe⟩
    obtain ⟨hrow, rfl⟩ := hf_iff.mp hfe
    exact ((hread he idx).mp hrow).1
  · intro hget
    have he : ((if dot (column, idx) then "." else "") ++ cellOid table (column, idx), v) ∈
        data.entries := hperm.mem_iff.mpr
      (List.mem_append_left others (mem_flatten_iff.mpr ⟨(column, idx), hget, rfl⟩))
    exact ⟨_, he, hf_iff.mpr ⟨(hread he idx).mpr ⟨hget, rfl⟩, rfl⟩⟩

end Column

lemma digitValue_of_isDigit {c : Char} (h : c.isDigit = true) :
    digitValue c = some (c.toNat - 48) := by
  have hrange := toNat_of_isDigit h
  have hmod : (c.toNat - 48) % 10 = c.toNat - 48 := Nat.mod_eq_of_lt (by omega)
  unfold digitValue decimalRanges
  rw [List.find?_cons_of_pos (by simpa using hrange), Option.map_some, hmod]

/-- `int` reads a number, if it is not too long. -/
lemma int_of_isNumber {s : String} (h : IsNumber s) (hlen : s.toList.length ≤ 4300) :
    Records.int s = .ok (number s) := by
  have hmap : s.toList.mapM digitValue = some (s.toList.map fun c => c.toNat - 48) := by
    have hdigits := h.2
    generalize s.toList = l at hdigits
    induction l with
    | nil => rfl
    | cons c l ih =>
      rw [List.forall_mem_cons] at hdigits
      simp [List.mapM_cons, digitValue_of_isDigit hdigits.1, ih hdigits.2]
  unfold Records.int number
  rw [if_neg (not_lt.mpr hlen), hmap]
  dsimp only
  rw [List.foldl_map]

lemma mapM_int_ok_iff {names : List String} : (∃ ns, names.mapM Records.int = .ok ns) ↔
    ∀ idx ∈ names, ∃ n, Records.int idx = .ok n := by
  induction names with
  | nil => exact ⟨fun _ _ h => (by cases h), fun _ => ⟨[], rfl⟩⟩
  | cons idx names ih =>
    rw [List.forall_mem_cons, ← ih, List.mapM_cons]
    rcases Records.int idx with e | n
    · simp [bind, Except.bind]
    · rcases names.mapM Records.int with e | ns <;> simp [bind, Except.bind, pure, Except.pure]

lemma sortedByInt_spec {names : List String} (h : ∀ idx ∈ names, ∃ n, Records.int idx = .ok n) :
    ∃ idxs, sortedByInt names = .ok idxs ∧ idxs.Perm names ∧
      idxs.Pairwise fun i j => intKey i ≤ intKey j := by
  obtain ⟨ns, hns⟩ := mapM_int_ok_iff.mpr h
  have : Std.Total fun i j => intKey i ≤ intKey j := ⟨fun _ _ => le_total _ _⟩
  have : IsTrans String fun i j => intKey i ≤ intKey j := ⟨fun _ _ _ => le_trans⟩
  refine ⟨_, ?_, List.perm_insertionSort _ names, List.pairwise_insertionSort _ names⟩
  rw [sortedByInt, hns]

lemma sortedByInt_error {names : List String}
    (h : ¬ ∀ idx ∈ names, ∃ n, Records.int idx = .ok n) :
    sortedByInt names = .error .valueError := by
  rw [← mapM_int_ok_iff] at h
  unfold sortedByInt
  split
  · rfl
  · next ns hns => exact absurd ⟨ns, hns⟩ h

lemma toStr_item (d : Dict String Value) (idx : String) :
    toStr (item d idx) = (d.get idx).bind toStr := by
  unfold item
  cases d.get idx <;> rfl

lemma toInt_item (d : Dict String Value) (idx : String) :
    toInt (item d idx) = (d.get idx).bind toInt := by
  unfold item
  cases d.get idx <;> rfl

/-- The OIDs of a walk come from `str`, which writes no number that `int` would not read. -/
structure WalkedTunnels (cells : Dict (String × String) Value) (data : Dict String Value) :
    Prop where
  rows : Flattened oidVpnTable false {column | column ∈ vpnColumns} cells data
  length_le : ∀ idx, (vpnColName, idx) ∈ cells.keys → idx.toList.length ≤ 4300

theorem getVpnTunnels_spec {walkColumns : Walk} {cells : Dict (String × String) Value}
    {data : Dict String Value} (h : WalkedTunnels cells data)
    (hwalk : walkColumns oidVpnTable vpnColumns = .ok data) :
    ∃ tunnels, getVpnTunnels walkColumns = .ok tunnels ∧ RowsOf cells tunnels := by
  have hcol : ∀ column ∈ vpnColumns, ∀ idx,
      (tableColumn data oidVpnTable column false).get idx = cells.get (column, idx) :=
    fun column hc idx => h.rows.get_tableColumn hc idx
  have hname := hcol vpnColName (by simp [vpnColumns])
  have hconf := hcol vpnColTunnels (by simp [vpnColumns])
  have hstat := hcol vpnColStatus (by simp [vpnColumns])
  have hact := hcol vpnColActivated (by simp [vpnColumns])
  set names := tableColumn data oidVpnTable vpnColName false with hnames
  have hint : ∀ idx ∈ names.keys, Records.int idx = .ok (number idx) := by
    intro idx hidx
    rw [← Dict.get_isSome_iff, hname, Dict.get_isSome_iff] at hidx
    exact int_of_isNumber (h.rows.cell _ hidx).2 (h.length_le idx hidx)
  obtain ⟨sorted, hsorted, hperm, hpair⟩ :=
    sortedByInt_spec fun idx hidx => ⟨number idx, hint idx hidx⟩
  have hmem : ∀ idx, idx ∈ sorted ↔ (cells.get (vpnColName, idx)).isSome := fun idx => by
    rw [hperm.mem_iff, ← Dict.get_isSome_iff, hname]
  have hnodup : sorted.Nodup := hperm.nodup_iff.mpr names.nodup
  refine ⟨_, by simp only [getVpnTunnels, hwalk, bind, Except.bind, ← hnames, hsorted]; rfl, ?_⟩
  refine ⟨fun idx => ?_, ?_, fun idx t ht => ?_⟩
  · rw [Dict.keys_build_self _ _ hnodup, List.mem_filter, hmem, toStr_item, hname]
    cases cells.get (vpnColName, idx) <;> simp [Option.ne_none_iff_isSome]
  · rw [Dict.keys_build_self _ _ hnodup]
    refine (hpair.imp_of_mem fun {i j} hi hj hle => ?_).filter _
    rw [hperm.mem_iff] at hi hj
    simpa [intKey, hint i hi, hint j hj, Except.toOption] using hle
  · obtain ⟨name, hget, rfl⟩ := Dict.get_build_self hnodup ht
    rw [toStr_item, hname] at hget
    exact ⟨rfl, hget, (toInt_item _ _).trans (by rw [hstat]),
      (toInt_item _ _).trans (by rw [hact]), (toInt_item _ _).trans (by rw [hconf])⟩

/-- Of a flattened table the client reads every column as it is; its VPN tunnels are the rows with
a name, in the order of their numbers, each with what its own row has. -/
theorem columns_exact_and_tunnels_rows :
    (∀ {V : Type} {table : String} {compoundIndex : Bool} {columns : Set String}
      {cells : Dict (String × String) V} {data : Dict String V},
      Flattened table compoundIndex columns cells data → ∀ column ∈ columns, ∀ idx,
        (tableColumn data table column compoundIndex).get idx = cells.get (column, idx)) ∧
    ∀ {walkColumns : Walk} {cells : Dict (String × String) Value} {data : Dict String Value},
      WalkedTunnels cells data → walkColumns oidVpnTable vpnColumns = .ok data →
      ∃ tunnels, getVpnTunnels walkColumns = .ok tunnels ∧ RowsOf cells tunnels :=
  ⟨fun h _ hc idx => h.get_tableColumn hc idx, fun h hwalk => getVpnTunnels_spec h hwalk⟩

def exampleCells : Dict (String × String) String :=
  ⟨[(("1", "1"), "a"), (("10", "1"), "b"), (("1", "10"), "c")], by decide⟩

/-- The cells among an OID of another column, one of another table, one without an index and one
with two. -/
def exampleData : Dict String String :=
  ⟨[("1.2.3.1.1.1", "a"), ("1.2.3.1.100.1", "x"), (".1.2.3.1.10.1", "b"), ("1.2.30.1.1.1", "x"),
    ("1.2.3.1.1", "x"), ("1.2.3.1.1.10", "c"), ("1.2.3.1.1.4.9", "x")], by decide⟩

def exampleTunnels : Dict (String × String) Value :=
  ⟨[(("2", "10"), .bytes [66]), (("9", "10"), .int 1), (("2", "9"), .bytes [65, 32]),
    (("10", "9"), .int 1), (("2", "2"), .bytes [32]), (("9", "2"), .int 0)], by decide⟩

/-- The rows as a walk returns them, with one of the policy table. -/
def exampleWalk : Dict String Value :=
  ⟨(flatten oidVpnTable (fun _ => false) exampleTunnels) ++
    [("1.3.6.1.4.1.2604.5.1.6.1.2.1.1.2.9", .bytes [67])], by decide +kernel⟩

theorem columns_exact_and_tunnels_rows_example :
    (∀ column ∈ {column | column ∈ ["1", "10"]}, ∀ idx,
      (tableColumn exampleData ".1.2.3" column false).get idx =
        exampleCells.get (column, idx)) ∧
    ∃ tunnels, getVpnTunnels (fun _ _ => .ok exampleWalk) = .ok tunnels ∧
      RowsOf exampleTunnels tunnels := by
  constructor
  · exact columns_exact_and_tunnels_rows.1 (flattened_of_rowIndex (by decide +kernel)
      (by decide +kernel) (by decide +kernel) (fun cell => cell.1 = "10")
      [("1.2.3.1.100.1", "x"), ("1.2.30.1.1.1", "x"), ("1.2.3.1.1", "x"), ("1.2.3.1.1.4.9", "x")]
      (by decide +kernel) (by decide +kernel))
  · have hlength : ∀ cell ∈ exampleTunnels.keys, cell.2.toList.length ≤ 4300 := by decide +kernel
    exact columns_exact_and_tunnels_rows.2
      ⟨flattened_of_rowIndex (by decide +kernel) (by decide +kernel) (by decide +kernel)
        (fun _ => false) [("1.3.6.1.4.1.2604.5.1.6.1.2.1.1.2.9", .bytes [67])]
        (List.Perm.refl _) (by decide +kernel), fun _ hidx => hlength _ hidx⟩ rfl

end SophosFw.Snmp
