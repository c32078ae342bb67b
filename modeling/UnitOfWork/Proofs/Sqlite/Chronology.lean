import UnitOfWork.Proofs.Calendar.Order
import UnitOfWork.Proofs.Sqlite.Sorting
import UnitOfWork.Proofs.Text.Utf8

namespace UnitOfWork.Sqlite

open Text

theorem encodeUtf8_inj {s t : String} : encodeUtf8 s = encodeUtf8 t ↔ s = t := by
  refine ⟨fun h => ?_, congrArg _⟩
  have hread := decodeUtf8_encodeUtf8 s
  rw [h, decodeUtf8_encodeUtf8] at hread
  cases hread
  rfl

theorem map_encodeUtf8 {s : String} (h : IsAscii s.toList) :
    (encodeUtf8 s).map (fun b => Char.ofNat b.toNat) = s.toList := by
  unfold encodeUtf8
  generalize s.toList = cs at h
  induction cs with
  | nil => rfl
  | cons c cs ih =>
    obtain ⟨hc, hcs⟩ := List.forall_mem_cons.mp h
    simp [utf8EncodeChar_of_le hc, toNat_ofNat_of_le hc, ih hcs]

theorem isSpace_of_isDigit {c : Char} (h : c.isDigit = true) : Numeral.isSpace c = false := by
  obtain ⟨hlow, hhigh⟩ := digit_bounds h
  have hblank : c ≠ ' ' := by
    rintro rfl
    exact absurd hlow (by decide)
  have hreturn : ¬c ≤ '\r' := fun hle => absurd (Nat.le_trans hlow hle) (by decide)
  simp [Numeral.isSpace, hblank, hreturn]

theorem readSign_of_isDigit {c : Char} (h : c.isDigit = true) (rest : List Char) :
    Numeral.readSign (c :: rest) = (false, c :: rest) := by
  unfold Numeral.readSign
  split
  · rename_i heq
    cases heq
    cases h
  · rename_i heq
    cases heq
    cases h
  · rfl

theorem read_digits_dash {ds : List Char} (hne : ds ≠ []) (hds : ∀ c ∈ ds, c.isDigit = true)
    (rest : List Char) : Numeral.read (ds ++ '-' :: rest) = none := by
  obtain ⟨d, ds, rfl⟩ := List.exists_cons_of_ne_nil hne
  have hd := hds d List.mem_cons_self
  rw [List.cons_append]
  have hblanks : (d :: (ds ++ '-' :: rest)).dropWhile Numeral.isSpace = d :: (ds ++ '-' :: rest) :=
    List.dropWhile_cons_of_neg (by simp [isSpace_of_isDigit hd])
  have hsplit : Numeral.splitDigits (d :: (ds ++ '-' :: rest)) = (d :: ds, '-' :: rest) := by
    have hdigits : (d :: ds ++ '-' :: rest).takeWhile Char.isDigit = d :: ds :=
      takeWhile_run hds (by simp)
    have hrest : (d :: ds ++ '-' :: rest).dropWhile Char.isDigit = '-' :: rest := by
      rw [List.dropWhile_append_of_pos hds]
      rfl
    exact Prod.ext hdigits hrest
  -- the dash is neither a fraction nor an exponent, and no blank that may follow
  simp only [Numeral.read, hblanks, readSign_of_isDigit hd, hsplit]
  rfl

def timeCell (t : Timestamp) : Cell := Cell.ofValue (.timestamp t)

variable {s t : Timestamp}

theorem apply_timeCell (ht : t.HasPlainYear) (a : Affinity) :
    a.apply (timeCell t) = timeCell t := by
  have hread : Numeral.read ((encodeUtf8 t.spaced).map fun b => Char.ofNat b.toNat) = none := by
    rw [map_encodeUtf8 t.isAscii_spaced, Timestamp.spaced, String.toList_ofList, Timestamp.print,
      ht.yearText]
    simp only [List.append_assoc, List.cons_append]
    exact read_digits_dash (padded_ne_nil _ _) (fun _ => isDigit_of_mem_padded) _
  have hnumeric : Affinity.toNumeric (timeCell t) = timeCell t := by
    simp only [timeCell, Cell.ofValue, Cell.ofText, Affinity.toNumeric, hread]
    rfl
  cases a with
  | integer | numeric => exact hnumeric
  | real =>
    rw [Affinity.apply, hnumeric]
    rfl
  | text | blob => rfl

theorem timeCell_eq (t : Timestamp) : timeCell t = .text (encodeUtf8 t.spaced) := rfl

theorem timeCell_inj : timeCell s = timeCell t ↔ s.shown = t.shown := by
  rw [timeCell_eq, timeCell_eq, Cell.text.injEq, encodeUtf8_inj, Timestamp.spaced_inj]

theorem bytes_timeCell_lt_iff (hs : s.HasPlainYear) (ht : t.HasPlainYear) :
    (timeCell s).bytes < (timeCell t).bytes ↔ s.shown.before t.shown = true := by
  have hbytes (b : List UInt8) : (Cell.text b).bytes = b := rfl
  rw [timeCell_eq, timeCell_eq, hbytes, hbytes, Timestamp.encodeUtf8_spaced_lt_iff hs ht]

theorem compare_timeCell (hs : s.HasPlainYear) (ht : t.HasPlainYear) :
    (timeCell s).compare (timeCell t) =
      if s.shown.before t.shown then .lt else if s.shown = t.shown then .eq else .gt := by
  have hbytes (b b' : List UInt8) : (Cell.text b).compare (.text b') = Cell.compareBytes b b' := rfl
  rw [timeCell_eq, timeCell_eq, hbytes, Cell.compareBytes]
  simp only [Timestamp.encodeUtf8_spaced_lt_iff hs ht, encodeUtf8_inj, Timestamp.spaced_inj]

theorem holdsFor_timeCell (hs : s.HasPlainYear) (ht : t.HasPlainYear) (c : Comparison) :
    holdsFor c ((timeCell s).compare (timeCell t)) = true ↔ c.MeetsInTime s.shown t.shown := by
  rw [compare_timeCell hs ht]
  by_cases hbefore : s.shown.before t.shown = true
  · have hnot := Timestamp.not_before_of_before hbefore
    have hne : s.shown ≠ t.shown := by
      intro heq
      rw [heq, Timestamp.not_before_self] at hbefore
      cases hbefore
    cases c <;> simp [Comparison.MeetsInTime, holdsFor, hbefore, hnot, hne]
  · by_cases hsame : s.shown = t.shown
    · cases c <;> simp [Comparison.MeetsInTime, holdsFor, hsame]
    · have hafter : t.shown.before s.shown = true := by
        have hnot := mt Timestamp.eq_iff_not_before.mpr hsame
        simpa [hbefore] using hnot
      cases c <;> simp [Comparison.MeetsInTime, holdsFor, hbefore, hsame, hafter]

theorem isLE_timeCell (hs : s.HasPlainYear) (ht : t.HasPlainYear) :
    ((timeCell s).compare (timeCell t)).isLE = true ↔ t.shown.before s.shown = false := by
  have hle := holdsFor_timeCell hs ht .le
  have hisLE (o : Ordering) : holdsFor .le o = o.isLE := by cases o <;> rfl
  rwa [hisLE] at hle

theorem meets_timeCell (hs : s.HasPlainYear) (ht : t.HasPlainYear) {tab : Table}
    {row : List Cell} {column : String} (hcell : (tab.operand column).eval [] row = timeCell s)
    (c : Comparison) :
    (Predicate.compare column c (.timestamp t)).meets tab row = true ↔
      c.MeetsInTime s.shown t.shown := by
  have hparameter : Cell.ofParameter (.timestamp t) = timeCell t := rfl
  have hnull (t : Timestamp) : timeCell t ≠ .null := nofun
  rw [Predicate.meets, Table.compares, hcell, hparameter, compareCells,
    if_neg (not_or.mpr ⟨hnull s, hnull t⟩), apply_timeCell hs, apply_timeCell ht,
    ← holdsFor_timeCell hs ht]
  simp

theorem sorted_timeCells (hs : s.HasPlainYear) (ht : t.HasPlainYear) (tab : Table)
    (columns : List String) (clauses : List Clause) (args : List Cell) {column : String}
    {ascending : Bool} {rest : List SortKey}
    (hkeys : clauses.flatMap Clause.sortKeys = ⟨column, ascending⟩ :: rest) :
    ((Plan.selected tab columns clauses).sorted args).Pairwise fun a b =>
      (tab.operand column).eval [] a = timeCell s → (tab.operand column).eval [] b = timeCell t →
      if ascending then t.shown.before s.shown = false else s.shown.before t.shown = false := by
  apply (Selection.pairwise_sorted _ args).imp
  intro a b hle ha hb
  have horder : (Plan.selected tab columns clauses).order =
      ⟨tab.operand column, ascending⟩ ::
        rest.map fun k => ⟨tab.operand k.column, k.ascending⟩ := by
    rw [Plan.selected, hkeys, List.map_cons]
  rw [horder] at hle
  have hfirst := Selection.isLE_of_compareRows_cons hle
  dsimp only at hfirst
  rw [tab.eval_operand column args a, tab.eval_operand column args b, ha, hb] at hfirst
  cases ascending with
  | true =>
    rw [Selection.cellsInOrder, if_pos rfl, isLE_timeCell hs ht] at hfirst
    exact hfirst
  | false =>
    rw [Selection.cellsInOrder, if_neg Bool.false_ne_true, isLE_timeCell ht hs] at hfirst
    exact hfirst

/-- Two timestamps in tables are to one another as `s'` and `t'` are in time. -/
structure OrderedAs (s t s' t' : Timestamp) : Prop where
  bytes : (timeCell s).bytes < (timeCell t).bytes ↔ s'.before t' = true
  same : timeCell s = timeCell t ↔ s' = t'
  kept : ∀ a : Affinity, a.apply (timeCell s) = timeCell s
  predicates : ∀ (tab : Table) (row : List Cell) (column : String) (c : Comparison),
    (tab.operand column).eval [] row = timeCell s →
    ((Predicate.compare column c (.timestamp t)).meets tab row = true ↔ c.MeetsInTime s' t')
  sorted : ∀ (tab : Table) (columns : List String) (clauses : List Clause) (args : List Cell)
    (column : String) (ascending : Bool) (rest : List SortKey),
    clauses.flatMap Clause.sortKeys = ⟨column, ascending⟩ :: rest →
    (Plan.selected tab columns clauses).run args =
        ((Plan.selected tab columns clauses).sorted args).map (tab.shown columns) ∧
      ((Plan.selected tab columns clauses).sorted args).Pairwise fun a b =>
        (tab.operand column).eval [] a = timeCell s →
        (tab.operand column).eval [] b = timeCell t →
        if ascending then t'.before s' = false else s'.before t' = false

theorem orderedAs_shown (hs : s.HasPlainYear) (ht : t.HasPlainYear) :
    OrderedAs s t s.shown t.shown where
  bytes := bytes_timeCell_lt_iff hs ht
  same := timeCell_inj
  kept := apply_timeCell hs
  predicates _ _ _ c hcell := meets_timeCell hs ht hcell c
  sorted tab columns clauses args _ _ _ hkeys :=
    ⟨Selection.run_eq_sorted tab columns clauses args,
      sorted_timeCells hs ht tab columns clauses args hkeys⟩

namespace OrderedAs

theorem of_not_overruns (hs : s.HasPlainYear) (ht : t.HasPlainYear) (h : ¬s.Overruns t)
    (h' : ¬t.Overruns s) : OrderedAs s t s t := by
  have hshown := orderedAs_shown hs ht
  constructor
  case bytes => rw [hshown.bytes, Timestamp.before_shown h h']
  case same => rw [hshown.same, Timestamp.shown_inj h h']
  case kept => exact hshown.kept
  case predicates =>
    intro tab row column c hcell
    rw [hshown.predicates tab row column c hcell, Comparison.meetsInTime_shown h h']
  case sorted =>
    intro tab columns clauses args column ascending rest hkeys
    have hsorted := hshown.sorted tab columns clauses args column ascending rest hkeys
    rwa [Timestamp.before_shown h h', Timestamp.before_shown h' h] at hsorted

theorem not_overruns (hs : s.HasPlainYear) (ht : t.HasPlainYear) (h : OrderedAs s t s t) :
    ¬s.Overruns t ∧ ¬t.Overruns s := by
  have hshown := orderedAs_shown hs ht
  have hbytes := h.bytes.symm.trans hshown.bytes
  have hsame := h.same.symm.trans hshown.same
  constructor
  · intro hover
    have hbefore := hover.before
    exact (Timestamp.before_shown_of_before hbefore).mp (hbytes.mp hbefore) hover
  · intro hover
    have hbefore := hover.before
    have hnot : t.shown.before s.shown = false :=
      Bool.eq_false_iff.mpr fun h => (Timestamp.before_shown_of_before hbefore).mp h hover
    have hne : s.shown ≠ t.shown := by
      rw [ne_eq, ← hsame]
      rintro rfl
      simp at hbefore
    have hbehind : s.shown.before t.shown = false := by
      rw [Bool.eq_false_iff, ne_eq, ← hbytes, Timestamp.not_before_of_before hbefore]
      decide
    exact hne (Timestamp.eq_iff_not_before.mpr ⟨hbehind, hnot⟩)

end OrderedAs

/-- Timestamps of plain years are stored, compared and sorted as texts in the order of what they
show. That is the order of time unless a leap second inside a minute overruns the next second. -/
theorem stored_in_order (s t : Timestamp) (hs : s.HasPlainYear) (ht : t.HasPlainYear) :
    OrderedAs s t s.shown t.shown ∧ (OrderedAs s t s t ↔ ¬s.Overruns t ∧ ¬t.Overruns s) ∧
      (s.IsShown → t.IsShown → OrderedAs s t s t) := by
  refine ⟨orderedAs_shown hs ht, ⟨OrderedAs.not_overruns hs ht, ?_⟩, ?_⟩
  · rintro ⟨h, h'⟩
    exact .of_not_overruns hs ht h h'
  · intro hshown hshown'
    exact .of_not_overruns hs ht (fun h => h.not_isShown hshown) fun h => h.not_isShown hshown'

theorem stored_in_order_leap_second :
    let s : Timestamp := ⟨2016, 12, 31, 23, 59, 59, 1500000000, by decide, by decide⟩
    let t : Timestamp := ⟨2017, 1, 1, 0, 0, 0, 0, by decide, by decide⟩
    s.HasPlainYear ∧ t.HasPlainYear ∧ s.IsShown ∧ t.IsShown ∧
      s.spaced = "2016-12-31 23:59:60.500" ∧ OrderedAs s t s t := by
  intro s t
  have hshown : s.IsShown ∧ t.IsShown := by decide
  exact ⟨by decide, by decide, hshown.1, hshown.2, by decide +kernel,
    (stored_in_order s t (by decide) (by decide)).2.2 hshown.1 hshown.2⟩

/-- A leap second inside a minute: a quarter of a second before it ends, the next second has begun,
and half a second into the next second is written as it is. -/
theorem leap_second_overruns :
    let s : Timestamp := ⟨2015, 6, 30, 23, 56, 4, 1500000000, by decide, by decide⟩
    let t : Timestamp := ⟨2015, 6, 30, 23, 56, 5, 250000000, by decide, by decide⟩
    let u : Timestamp := ⟨2015, 6, 30, 23, 56, 5, 500000000, by decide, by decide⟩
    s.HasPlainYear ∧ t.HasPlainYear ∧ u.HasPlainYear ∧
      s.before t = true ∧ (timeCell t).bytes < (timeCell s).bytes ∧ ¬OrderedAs s t s t ∧
      s ≠ u ∧ timeCell s = timeCell u ∧ ¬OrderedAs s u s u := by
  intro s t u
  have hs : s.HasPlainYear := by decide
  have ht : t.HasPlainYear := by decide
  have hu : u.HasPlainYear := by decide
  have hover : s.Overruns t ∧ s.Overruns u := by decide
  refine ⟨hs, ht, hu, by decide, by decide +kernel, ?_, by decide, by decide +kernel, ?_⟩
  · exact fun h => (h.not_overruns hs ht).1 hover.1
  · exact fun h => (h.not_overruns hs hu).1 hover.2

end UnitOfWork.Sqlite
