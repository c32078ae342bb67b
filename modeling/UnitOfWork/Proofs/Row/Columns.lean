import Mathlib.Data.List.Induction
import UnitOfWork.Proofs.Row.Pairs
import UnitOfWork.Proofs.Row.Reading

namespace UnitOfWork

namespace Pairs

variable {key : String} {v : Value} {l : Pairs}

theorem isSome_lookup_iff : (l.lookup key).isSome = true ↔ key ∈ names l := by
  constructor
  · intro h
    by_contra hkey
    rw [lookup_of_not_mem hkey] at h
    cases h
  · intro h
    rw [Option.isSome_iff_ne_none]
    intro hnone
    obtain ⟨e, he, rfl⟩ := List.mem_map.mp h
    have hne := List.lookup_eq_none_iff.mp hnone e he
    simp at hne

theorem names_put (key : String) (v : Value) (l : Pairs) :
    names (put key v l) = if key ∈ names l then names l else names l ++ [key] := by
  by_cases h : key ∈ names l
  · rw [put, if_pos (isSome_lookup_iff.mpr h), if_pos h, names, names, List.map_map]
    apply List.map_congr_left
    intro e _
    by_cases he : e.1 = key <;> simp [he]
  · rw [put_of_not_mem h, if_neg h, names, List.map_append]
    rfl

theorem lookup_map_of_ne {name : String} (h : name ≠ key) (l : Pairs) :
    (l.map fun e => if e.1 = key then (key, v) else e).lookup name = l.lookup name := by
  induction l with
  | nil => rfl
  | cons e l ih =>
    obtain ⟨other, w⟩ := e
    rw [List.map_cons, List.lookup_cons]
    by_cases hother : other = key
    · subst hother
      rw [if_pos rfl, List.lookup_cons, ih, beq_false_of_ne h]
    · rw [if_neg hother, List.lookup_cons, ih]

theorem lookup_map_self (h : key ∈ names l) :
    (l.map fun e => if e.1 = key then (key, v) else e).lookup key = some v := by
  induction l with
  | nil => cases h
  | cons e l ih =>
    obtain ⟨other, w⟩ := e
    rw [List.map_cons]
    by_cases hother : other = key
    · rw [if_pos hother, List.lookup_cons_self]
    · have hrest : key ∈ names l := by simpa [names, Ne.symm hother] using h
      rw [if_neg hother, List.lookup_cons, beq_false_of_ne (Ne.symm hother), ih hrest]

theorem lookup_put (name key : String) (v : Value) (l : Pairs) :
    (put key v l).lookup name = if name = key then some v else l.lookup name := by
  by_cases hkey : key ∈ names l
  · rw [put, if_pos (isSome_lookup_iff.mpr hkey)]
    by_cases hname : name = key
    · rw [if_pos hname, hname, lookup_map_self hkey]
    · rw [if_neg hname, lookup_map_of_ne hname]
  · rw [put_of_not_mem hkey, List.lookup_append]
    by_cases hname : name = key
    · rw [if_pos hname, hname, lookup_of_not_mem hkey, List.lookup_cons_self]
      rfl
    · rw [if_neg hname, List.lookup_cons, beq_false_of_ne hname]
      exact Option.or_none

theorem lookup_of_mem (h : (names l).Nodup) (he : (key, v) ∈ l) : l.lookup key = some v := by
  obtain ⟨before, behind, rfl⟩ := List.append_of_mem he
  rw [names, List.map_append, List.map_cons, List.nodup_middle, List.nodup_cons,
    List.mem_append, not_or] at h
  exact Around.lookup ⟨rfl, h.1.1, h.1.2⟩

theorem ofList_append (l : Pairs) (e : String × Value) :
    ofList (l ++ [e]) = put e.1 e.2 (ofList l) := by
  rw [ofList, List.foldl_append]
  rfl

theorem names_ofList (l : Pairs) : names (ofList l) = (names l).eraseDups := by
  induction l using List.reverseRecOn with
  | nil => rfl
  | append_singleton l e ih =>
    have hnames : names (l ++ [e]) = names l ++ [e.1] := List.map_append
    rw [ofList_append, names_put, ih, hnames, List.eraseDups_append, List.removeAll]
    by_cases h : e.1 ∈ names l
    · simp [h]
    · simp [h, List.eraseDups_cons]

theorem lookup_ofList (key : String) (l : Pairs) :
    (ofList l).lookup key = l.reverse.lookup key := by
  induction l using List.reverseRecOn with
  | nil => rfl
  | append_singleton l e ih =>
    obtain ⟨name, v⟩ := e
    rw [ofList_append, lookup_put, ih, List.reverse_append, List.reverse_singleton,
      List.singleton_append, List.lookup_cons]
    by_cases h : key = name
    · rw [if_pos h, h, beq_self_eq_true]
    · rw [if_neg h, beq_false_of_ne h]

theorem ofList_of_nodup (h : (names l).Nodup) : ofList l = l := by
  induction l using List.reverseRecOn with
  | nil => rfl
  | append_singleton l e ih =>
    have hnames : names (l ++ [e]) = names l ++ [e.1] := List.map_append
    rw [hnames, List.nodup_append] at h
    obtain ⟨hl, -, hdisjoint⟩ := h
    have hnew : e.1 ∉ names l := fun hmem => hdisjoint _ hmem _ (List.mem_singleton_self _) rfl
    rw [ofList_append, ih hl, put_of_not_mem hnew]

theorem lookup_last {before behind : Pairs} (h : key ∉ names behind) :
    (ofList (before ++ (key, v) :: behind)).lookup key = some v := by
  have hbehind : key ∉ names behind.reverse := by
    rwa [names, List.map_reverse, List.mem_reverse]
  rw [lookup_ofList, List.reverse_append, List.reverse_cons, List.append_assoc,
    List.lookup_append, lookup_of_not_mem hbehind]
  simp

end Pairs

namespace Row

theorem Indexed.get?_put {r : Row} (h : r.Indexed) (name key : String) (v : Value) :
    (r.put key v).get? name = if name = key then some v else r.get? name := by
  obtain ⟨hindexed, hlist⟩ := h.put key v
  rw [hindexed.get?_eq, hlist, Pairs.lookup_put, h.get?_eq]

structure Bears (r : Row) (names : List String) (vs : List Value) : Prop where
  keys_eq : r.keys = names.eraseDups
  last : ∀ (i : Nat) key, names[i]? = some key → (∀ j, i < j → names[j]? ≠ some key) →
    r.get? key = vs[i]?
  entries : ∀ e ∈ r.toList, r.get? e.1 = some e.2
  distinct : names.Nodup → r.toList = names.zip vs

theorem bears_ofList {names : List String} {vs : List Value} (h : vs.length = names.length) :
    (ofList (names.zip vs)).Bears names vs := by
  obtain ⟨hindexed, hlist⟩ := Indexed.ofList (names.zip vs)
  have hnames : Pairs.names (names.zip vs) = names := List.map_fst_zip (Nat.le_of_eq h.symm)
  have hget := hindexed.get?_eq
  rw [hlist] at hget
  constructor
  case keys_eq =>
    show Pairs.names (ofList (names.zip vs)).toList = names.eraseDups
    rw [hlist, Pairs.names_ofList, hnames]
  case last =>
    intro i key hi hlater
    obtain ⟨hlt, -⟩ := List.getElem?_eq_some_iff.mp hi
    obtain ⟨v, hv⟩ : ∃ v, vs[i]? = some v := ⟨_, List.getElem?_eq_getElem (h ▸ hlt)⟩
    have hzip : (names.zip vs)[i]? = some (key, v) := List.getElem?_zip_eq_some.mpr ⟨hi, hv⟩
    obtain ⟨hlt', hzip⟩ := List.getElem?_eq_some_iff.mp hzip
    have hsplit : names.zip vs =
        (names.zip vs).take i ++ (key, v) :: (names.zip vs).drop (i + 1) := by
      rw [← hzip, ← List.drop_eq_getElem_cons hlt', List.take_append_drop]
    have hbehind : key ∉ Pairs.names ((names.zip vs).drop (i + 1)) := by
      rw [Pairs.names, List.map_drop, ← Pairs.names, hnames]
      intro hmem
      obtain ⟨j, hj⟩ := List.mem_iff_getElem?.mp hmem
      rw [List.getElem?_drop] at hj
      exact hlater (i + 1 + j) (by omega) hj
    rw [hget, hv, hsplit, Pairs.lookup_last hbehind]
  case entries =>
    intro e he
    rw [hget, ← hlist]
    exact Pairs.lookup_of_mem hindexed.nodup he
  case distinct =>
    intro hdistinct
    rw [hlist]
    exact Pairs.ofList_of_nodup (hnames.symm ▸ hdistinct)

end Row

theorem range_split {n i : Nat} {before behind : List Nat}
    (h : List.range n = before ++ i :: behind) : i < n ∧ before = List.range i := by
  rw [List.range_eq_range', List.range'_eq_append_iff] at h
  obtain ⟨k, hk, hbefore, hbehind⟩ := h
  obtain ⟨m, hm⟩ : ∃ m, n - k = m + 1 := by
    apply Nat.exists_eq_succ_of_ne_zero
    intro hzero
    rw [hzero] at hbehind
    cases hbehind
  rw [hm, List.range'_succ] at hbehind
  have hi : i = k := by
    have hhead := List.head_eq_of_cons_eq hbehind
    omega
  subst hi
  exact ⟨by omega, hbefore.trans List.range_eq_range'.symm⟩

namespace Source

variable (src : Source) (names : List String)

theorem fill_eq (i : Nat) (r : Row) : src.fill i names r =
    ((List.range' i names.length).mapM src.capture).map fun vs =>
      (names.zip vs).foldl (fun r e => r.put e.1 e.2) r := by
  induction names generalizing i r with
  | nil => rfl
  | cons name names ih =>
    rw [fill, List.length_cons, List.range'_succ, List.mapM_cons]
    cases hv : src.capture i with
    | error e => rfl
    | ok v =>
      simp only [ih]
      cases (List.range' (i + 1) names.length).mapM src.capture <;> rfl

theorem materialize_eq (h : src.width = names.length) : src.materialize names =
    ((List.range names.length).mapM src.capture).map fun vs => .ofList (names.zip vs) := by
  rw [materialize, if_neg (not_not_intro h), fill_eq, List.range_eq_range']
  rfl

variable {src names} in
theorem fill_congr {other : Source} (i : Nat) (r : Row)
    (h : ∀ j < names.length, (∀ k < j, ∃ v, src.capture (i + k) = .ok v) →
      other.capture (i + j) = src.capture (i + j)) :
    other.fill i names r = src.fill i names r := by
  induction names generalizing i r with
  | nil => rfl
  | cons name names ih =>
    have hfirst : other.capture i = src.capture i := h 0 (Nat.succ_pos _) nofun
    rw [fill, fill, hfirst]
    cases hv : src.capture i with
    | error e => rfl
    | ok v =>
      have hshift : ∀ k, i + 1 + k = i + (k + 1) := fun k => by omega
      apply ih
      intro j hj hbefore
      rw [hshift]
      apply h (j + 1) (Nat.succ_lt_succ hj)
      intro k hk
      cases k with
      | zero => exact ⟨v, hv⟩
      | succ k =>
        rw [← hshift]
        exact hbefore k (Nat.lt_of_succ_lt_succ hk)

def Reaches (i : Nat) : Prop :=
  src.width = names.length ∧ i < names.length ∧ ∀ j < i, ∃ v, src.capture j = .ok v

inductive Materialized : Except Failure Row → Prop where
  | mismatched (hwidth : src.width ≠ names.length) : Materialized (.error (.execution
      ("row has " ++ Text.decimalText src.width ++ " columns, expected " ++
        Text.decimalText names.length)))
  | failed (i : Nat) (hi : src.Reaches names i) (e : Failure) (he : src.capture i = .error e) :
      Materialized (.error e)
  | filled (hwidth : src.width = names.length) (vs : List Value) (hvs : vs.length = names.length)
      (hcaptured : ∀ (i : Nat) v, vs[i]? = some v → src.capture i = .ok v) (r : Row)
      (hr : r.Bears names vs) : Materialized (.ok r)

theorem materialized : Materialized src names (src.materialize names) := by
  by_cases hwidth : src.width = names.length
  · rw [materialize_eq src names hwidth]
    cases hcaptured : (List.range names.length).mapM src.capture with
    | error e =>
      obtain ⟨before, i, behind, hsplit, he, hbefore⟩ := first_error_of_mapM hcaptured
      obtain ⟨hi, rfl⟩ := range_split hsplit
      exact .failed i ⟨hwidth, hi, fun j hj => hbefore j (List.mem_range.mpr hj)⟩ e he
    | ok vs =>
      have hall := forall₂_of_mapM hcaptured
      have hvs : vs.length = names.length := by
        rw [← hall.length_eq, List.length_range]
      refine .filled hwidth vs hvs ?_ _ (Row.bears_ofList hvs)
      intro i v hv
      obtain ⟨hi, rfl⟩ := List.getElem?_eq_some_iff.mp hv
      have hrange : i < (List.range names.length).length := by
        rwa [hall.length_eq]
      have hcolumn := hall.get hrange hi
      simpa using hcolumn
  · rw [materialize, if_pos hwidth]
    exact .mismatched hwidth

variable {src names} in
theorem materialize_congr {other : Source} (hwidth : other.width = src.width)
    (h : ∀ i, src.Reaches names i → other.capture i = src.capture i) :
    other.materialize names = src.materialize names := by
  rw [materialize, materialize, hwidth]
  split
  · rfl
  · rename_i hsame
    apply fill_congr
    intro j hj hbefore
    simp only [Nat.zero_add] at hbefore ⊢
    exact h j ⟨Decidable.not_not.mp hsame, hj, hbefore⟩

/-- A row is built of the columns that are looked at and of nothing else. -/
theorem columns_under_names : Materialized src names (src.materialize names) ∧
    ∀ other : Source, other.width = src.width →
      (∀ i, src.Reaches names i → other.capture i = src.capture i) →
        other.materialize names = src.materialize names :=
  ⟨materialized src names, fun _ => materialize_congr⟩

example : ((ofValues [.int 1, .int 2, .null]).materialize ["a", "b", "a"]).map Row.toList =
    .ok [("a", .null), ("b", .int 2)] := by decide +kernel

end Source

end UnitOfWork
