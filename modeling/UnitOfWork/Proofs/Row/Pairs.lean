import Mathlib.Data.List.Forall2
import Mathlib.Data.List.Nodup
import UnitOfWork.Row.Basic

namespace UnitOfWork

abbrev Pairs := List (String × Value)

namespace Pairs

def names (l : Pairs) : List String := l.map Prod.fst

def put (key : String) (v : Value) (l : Pairs) : Pairs :=
  if (l.lookup key).isSome then l.map fun e => if e.1 = key then (key, v) else e
  else l ++ [(key, v)]

def remove (key : String) (l : Pairs) : Pairs := l.eraseP fun e => e.1 = key

def ofList (entries : List (String × Value)) : Pairs :=
  entries.foldl (fun l e => put e.1 e.2 l) []

def equal (l m : Pairs) : Bool := l.isEqv m fun e f => e.1 == f.1 && e.2.equal f.2

variable {key : String} {v : Value} {l : Pairs}

theorem ne_of_not_mem (h : key ∉ names l) {e : String × Value} (he : e ∈ l) : e.1 ≠ key := by
  rintro rfl
  exact h (List.mem_map_of_mem he)

theorem lookup_of_not_mem (h : key ∉ names l) : l.lookup key = none := by
  rw [List.lookup_eq_none_iff]
  exact fun e he => bne_iff_ne.mpr (ne_of_not_mem h he).symm

theorem put_of_not_mem (h : key ∉ names l) : put key v l = l ++ [(key, v)] := by
  rw [put, lookup_of_not_mem h]
  rfl

theorem remove_of_not_mem (h : key ∉ names l) : remove key l = l :=
  List.eraseP_of_forall_not fun e he => by simpa using ne_of_not_mem h he

theorem equal_eq (l m : Pairs) :
    l.equal m = (names l == names m && Value.equalAll (l.map Prod.snd) (m.map Prod.snd)) := by
  induction l generalizing m with
  | nil => cases m <;> rfl
  | cons e l ih =>
    cases m with
    | nil => rfl
    | cons f m =>
      have hrest := ih m
      rw [equal] at hrest
      simp only [equal, List.isEqv, hrest, names, List.map_cons, List.cons_beq_cons, Value.equalAll]
      grind

structure Around (l : Pairs) (key : String) (before : Pairs) (v : Value) (behind : Pairs) :
    Prop where
  eq : l = before ++ (key, v) :: behind
  not_before : key ∉ names before
  not_behind : key ∉ names behind

namespace Around

variable {before behind : Pairs} (h : Around l key before v behind)
include h

theorem names_eq : names l = names before ++ key :: names behind := by
  rw [h.eq, names, List.map_append]
  rfl

theorem getElem? : l[before.length]? = some (key, v) := by
  rw [h.eq]
  simp

theorem lookup : l.lookup key = some v := by
  rw [h.eq, List.lookup_append, lookup_of_not_mem h.not_before]
  simp

theorem put (w : Value) : put key w l = before ++ (key, w) :: behind := by
  have hkept : ∀ m : Pairs, key ∉ names m →
      m.map (fun e => if e.1 = key then (key, w) else e) = m := by
    intro m hm
    have hsame : ∀ e ∈ m, (if e.1 = key then (key, w) else e) = id e := fun e he =>
      if_neg (ne_of_not_mem hm he)
    rw [List.map_congr_left hsame, List.map_id]
  rw [Pairs.put, h.lookup, if_pos (Option.isSome_some), h.eq, List.map_append, List.map_cons,
    hkept _ h.not_before, hkept _ h.not_behind, if_pos rfl]

theorem remove : remove key l = before ++ behind := by
  have hnone : ∀ e ∈ before, ¬decide (e.1 = key) = true := fun e he => by
    simpa using ne_of_not_mem h.not_before he
  rw [Pairs.remove, h.eq, List.eraseP_append_right _ hnone, List.eraseP_cons_of_pos (by simp)]

end Around

end Pairs

namespace Row

open Pairs (Around)

/-- An index has each name at the place where it stands, and no other name. -/
def Positions (names : List String) (index : Std.TreeMap String Nat) : Prop :=
  ∀ (key : String) (i : Nat), index[key]? = some i ↔ names[i]? = some key

namespace Positions

variable {names : List String} {index : Std.TreeMap String Nat} {key : String}

theorem nil : Positions [] {} := by
  intro key i
  simp

theorem nodup (h : Positions names index) : names.Nodup := by
  rw [List.nodup_iff_getElem?_ne_getElem?]
  intro i j hij hj heq
  have hsecond := (h names[j] j).mpr (List.getElem?_eq_getElem hj)
  have hfirst := (h names[j] i).mpr (by rw [heq, List.getElem?_eq_getElem hj])
  rw [hsecond] at hfirst
  cases hfirst
  exact Nat.lt_irrefl _ hij

theorem not_mem (h : Positions names index) (hnone : index[key]? = none) : key ∉ names := by
  intro hmem
  obtain ⟨i, hi⟩ := List.mem_iff_getElem?.mp hmem
  rw [(h key i).mpr hi] at hnone
  cases hnone

theorem append (h : Positions names index) (hkey : key ∉ names) :
    Positions (names ++ [key]) (index.insert key names.length) := by
  intro name i
  rw [Std.TreeMap.getElem?_insert, List.getElem?_append]
  by_cases hname : key = name
  · subst hname
    have hold : names[i]? ≠ some key := fun hi => hkey (List.mem_of_getElem? hi)
    rw [if_pos Std.compare_self, Option.some.injEq]
    split
    · simp only [hold, iff_false]
      omega
    · rw [List.getElem?_singleton]
      split <;> simp <;> omega
  · rw [if_neg fun hc => hname (Std.compare_eq_iff_eq.mp hc), h name i]
    split
    · rfl
    · rw [List.getElem?_eq_none (by omega), List.getElem?_singleton]
      split <;> simp [hname]

theorem erase {before behind : List String} (h : Positions (before ++ key :: behind) index) :
    Positions (before ++ behind)
      ((index.erase key).map fun _ j => if before.length < j then j - 1 else j) := by
  intro name i
  rw [Std.TreeMap.getElem?_map, Std.TreeMap.getElem?_erase]
  by_cases hname : key = name
  · subst hname
    have hgone : key ∉ before ++ behind := (List.nodup_cons.mp (List.nodup_middle.mp h.nodup)).1
    rw [if_pos Std.compare_self, Option.map_none]
    exact ⟨nofun, fun hi => absurd (List.mem_of_getElem? hi) hgone⟩
  · have hplace : (before ++ key :: behind)[before.length]? = some key := by simp
    have hmoved : before ++ behind = (before ++ key :: behind).eraseIdx before.length := by
      rw [List.eraseIdx_append_of_length_le (Nat.le_refl _), Nat.sub_self, List.eraseIdx_cons_zero]
    have hother : ∀ {j}, (before ++ key :: behind)[j]? = some name → j ≠ before.length := by
      rintro j hj rfl
      rw [hplace] at hj
      exact hname (Option.some.inj hj)
    rw [if_neg fun hc => hname (Std.compare_eq_iff_eq.mp hc), Option.map_eq_some_iff, hmoved,
      List.getElem?_eraseIdx]
    constructor
    · rintro ⟨j, hj, rfl⟩
      rw [h name j] at hj
      have hne := hother hj
      by_cases hlt : before.length < j
      · have hj' : j - 1 + 1 = j := by omega
        rw [if_pos hlt, if_neg (by omega), hj', hj]
      · rw [if_neg hlt, if_pos (by omega), hj]
    · intro hi
      split at hi
      · exact ⟨i, (h name i).mpr hi, if_neg (by omega)⟩
      · have hne := hother hi
        exact ⟨i + 1, (h name (i + 1)).mpr hi, by rw [if_pos (by omega)]; rfl⟩

end Positions

def Indexed (r : Row) : Prop := Positions r.keys r.index

namespace Indexed

variable {r s : Row} {key : String} {i : Nat}

theorem empty : Indexed empty := Positions.nil

theorem around (h : Indexed r) (hi : r.index[key]? = some i) :
    ∃ before v behind, Around r.entries key before v behind ∧ before.length = i := by
  have hplace := (h key i).mp hi
  rw [keys, List.getElem?_map, Option.map_eq_some_iff] at hplace
  obtain ⟨⟨name, v⟩, he, rfl⟩ := hplace
  obtain ⟨hlt, he⟩ := List.getElem?_eq_some_iff.mp he
  have heq : r.entries = r.entries.take i ++ (name, v) :: r.entries.drop (i + 1) := by
    rw [← he]
    simp
  have hnodup : (Pairs.names r.entries).Nodup := h.nodup
  rw [heq, Pairs.names, List.map_append, List.map_cons, List.nodup_middle, List.nodup_cons,
    List.mem_append, not_or] at hnodup
  refine ⟨_, v, _, ⟨heq, hnodup.1.1, hnodup.1.2⟩, ?_⟩
  rw [List.length_take]
  omega

theorem get?_eq (h : Indexed r) (key : String) : r.get? key = r.toList.lookup key := by
  rw [get?, toList]
  cases hi : r.index[key]? with
  | some i =>
    obtain ⟨before, v, behind, haround, rfl⟩ := h.around hi
    simp only [haround.getElem?, haround.lookup, Option.map_some]
  | none => exact (Pairs.lookup_of_not_mem (h.not_mem hi)).symm

theorem contains_iff (h : Indexed r) (key : String) : r.contains key = true ↔ key ∈ r.keys := by
  rw [contains, Std.TreeMap.contains_eq_isSome_getElem?, Option.isSome_iff_exists,
    List.mem_iff_getElem?]
  exact exists_congr fun i => h key i

theorem insert (h : Indexed r) (key : String) (v : Value) :
    Indexed (r.insert key v).2 ∧ (r.insert key v).1 = r.toList.lookup key ∧
      (r.insert key v).2.toList = Pairs.put key v r.toList := by
  rw [Row.insert]
  cases hi : r.index[key]? with
  | some i =>
    obtain ⟨before, old, behind, haround, rfl⟩ := h.around hi
    have hentries : r.entries.modify before.length (fun e => (e.1, v)) =
        before ++ (key, v) :: behind := by
      rw [haround.eq, List.modify_eq_take_cons_drop (by simp)]
      simp
    have hkeys : Pairs.names (before ++ (key, v) :: behind) = r.keys := by
      rw [keys, ← Pairs.names, haround.names_eq, Pairs.names, List.map_append]
      rfl
    refine ⟨?_, ?_, hentries.trans (haround.put v).symm⟩
    · simp only [Indexed, keys, hentries]
      rw [← Pairs.names, hkeys]
      exact h
    · simp only [haround.getElem?, toList, haround.lookup, Option.map_some]
  | none =>
    have hnew := h.not_mem hi
    refine ⟨?_, (Pairs.lookup_of_not_mem hnew).symm, (Pairs.put_of_not_mem hnew).symm⟩
    have hpositions := h.append hnew
    rw [keys, List.length_map] at hpositions
    rw [Indexed, keys, List.map_append]
    exact hpositions

theorem put (h : Indexed r) (key : String) (v : Value) :
    Indexed (r.put key v) ∧ (r.put key v).toList = Pairs.put key v r.toList :=
  ⟨(h.insert key v).1, (h.insert key v).2.2⟩

theorem remove (h : Indexed r) (key : String) :
    Indexed (r.remove key).2 ∧ (r.remove key).1 = r.toList.lookup key ∧
      (r.remove key).2.toList = Pairs.remove key r.toList := by
  rw [Row.remove]
  cases hi : r.index[key]? with
  | some i =>
    obtain ⟨before, old, behind, haround, rfl⟩ := h.around hi
    have hentries : r.entries.eraseIdx before.length = before ++ behind := by
      rw [haround.eq, List.eraseIdx_append_of_length_le (Nat.le_refl _), Nat.sub_self,
        List.eraseIdx_cons_zero]
    refine ⟨?_, ?_, hentries.trans haround.remove.symm⟩
    · have hpositions : Positions (Pairs.names r.entries) r.index := h
      rw [haround.names_eq] at hpositions
      have herased := hpositions.erase
      rw [Pairs.names, List.length_map] at herased
      simp only [Indexed, keys, hentries, List.map_append]
      exact herased
    · simp only [haround.getElem?, toList, haround.lookup, Option.map_some]
  | none =>
    have hnew := h.not_mem hi
    exact ⟨h, (Pairs.lookup_of_not_mem hnew).symm, (Pairs.remove_of_not_mem hnew).symm⟩

theorem ofList (entries : List (String × Value)) :
    Indexed (ofList entries) ∧ (Row.ofList entries).toList = Pairs.ofList entries := by
  have hfold : ∀ (r : Row) (l : Pairs), Indexed r → r.toList = l →
      Indexed (entries.foldl (fun r e => r.put e.1 e.2) r) ∧
        (entries.foldl (fun r e => r.put e.1 e.2) r).toList =
          entries.foldl (fun l e => Pairs.put e.1 e.2 l) l := by
    induction entries with
    | nil => exact fun r l hr hl => ⟨hr, hl⟩
    | cons e entries ih =>
      intro r l hr hl
      obtain ⟨hindexed, hlist⟩ := hr.put e.1 e.2
      exact ih _ _ hindexed (by rw [hlist, hl])
  exact hfold .empty [] .empty rfl

theorem index_eq (hr : Indexed r) (hs : Indexed s) (hkeys : r.keys = s.keys) :
    r.index.toList = s.index.toList := by
  rw [← Std.TreeMap.equiv_iff_toList_eq]
  apply Std.TreeMap.Equiv.of_forall_constGet?_eq
  intro key
  apply Option.ext
  intro i
  have hplace := hr key i
  rw [hkeys] at hplace
  exact hplace.trans (hs key i).symm

theorem equal_iff (hr : Indexed r) (hs : Indexed s) :
    r.equal s = true ↔ Pairs.equal r.toList s.toList = true := by
  rw [Pairs.equal_eq]
  simp only [equal, Bool.and_eq_true, beq_iff_eq]
  constructor
  · exact fun h => h.1
  · exact fun h => ⟨h, hr.index_eq hs h.1⟩

end Indexed

inductive Step where
  | insert (i : Nat) (key : String) (v : Value)
  | put (i : Nat) (key : String) (v : Value)
  | remove (i : Nat) (key : String)
  | collect (entries : List (String × Value))
  | copy (i : Nat)

namespace Step

def onRows (rows : List Row) : Step → List Row
  | insert i key v => rows.modify i fun r => (r.insert key v).2
  | put i key v => rows.modify i fun r => r.put key v
  | remove i key => rows.modify i fun r => (r.remove key).2
  | collect entries => rows ++ [ofList entries]
  | copy i => rows ++ rows[i]?.toList

def onPairs (lists : List Pairs) : Step → List Pairs
  | insert i key v | put i key v => lists.modify i fun l => l.put key v
  | remove i key => lists.modify i fun l => l.remove key
  | collect entries => lists ++ [Pairs.ofList entries]
  | copy i => lists ++ lists[i]?.toList

end Step

def made (steps : List Step) : List Row := steps.foldl Step.onRows [empty]

def listed (steps : List Step) : List Pairs := steps.foldl Step.onPairs [[]]

structure Holds (r : Row) (l : Pairs) : Prop where
  indexed : r.Indexed
  toList_eq : r.toList = l

theorem holds_modify {rows : List Row} {lists : List Pairs} {f : Row → Row} {g : Pairs → Pairs}
    (h : List.Forall₂ Holds rows lists) (hf : ∀ r l, Holds r l → Holds (f r) (g l)) (i : Nat) :
    List.Forall₂ Holds (rows.modify i f) (lists.modify i g) := by
  induction h generalizing i with
  | nil => simp
  | cons hr hrest ih =>
    cases i with
    | zero => exact .cons (hf _ _ hr) hrest
    | succ i => exact .cons hr (ih i)

theorem holds_copy {rows : List Row} {lists : List Pairs} (h : List.Forall₂ Holds rows lists)
    (i : Nat) : List.Forall₂ Holds rows[i]?.toList lists[i]?.toList := by
  induction h generalizing i with
  | nil => exact .nil
  | cons hr hrest ih =>
    cases i with
    | zero => exact .cons hr .nil
    | succ i => exact ih i

theorem holds_step {rows : List Row} {lists : List Pairs} (h : List.Forall₂ Holds rows lists)
    (s : Step) : List.Forall₂ Holds (s.onRows rows) (s.onPairs lists) := by
  cases s with
  | insert i key v | put i key v =>
    refine holds_modify h (fun r l hr => ?_) i
    obtain ⟨hindexed, hlist⟩ := hr.indexed.put key v
    exact ⟨hindexed, hlist.trans (congrArg (Pairs.put key v) hr.toList_eq)⟩
  | remove i key =>
    refine holds_modify h (fun r l hr => ?_) i
    obtain ⟨hindexed, -, hlist⟩ := hr.indexed.remove key
    exact ⟨hindexed, hlist.trans (congrArg (Pairs.remove key) hr.toList_eq)⟩
  | collect entries =>
    obtain ⟨hindexed, hlist⟩ := Indexed.ofList entries
    exact List.rel_append h (.cons ⟨hindexed, hlist⟩ .nil)
  | copy i => exact List.rel_append h (holds_copy h i)

theorem holds_made (steps : List Step) : List.Forall₂ Holds (made steps) (listed steps) := by
  have hfold : ∀ (rows : List Row) (lists : List Pairs), List.Forall₂ Holds rows lists →
      List.Forall₂ Holds (steps.foldl Step.onRows rows) (steps.foldl Step.onPairs lists) := by
    induction steps with
    | nil => exact fun rows lists h => h
    | cons s steps ih => exact fun rows lists h => ih _ _ (holds_step h s)
  exact hfold _ _ (.cons ⟨.empty, rfl⟩ .nil)

theorem indexed_of_made {steps : List Step} {r : Row} (hr : r ∈ made steps) : Indexed r :=
  ((List.forall₂_and_left ..).mp ((holds_made steps).imp fun _ _ h => ⟨h.indexed, h⟩)).1 r hr

structure AsListed (r : Row) (l : Pairs) : Prop where
  toList_eq : r.toList = l
  keys_eq : r.keys = l.names
  distinct : l.names.Nodup
  index_iff : ∀ (key : String) (i : Nat), r.index[key]? = some i ↔ l.names[i]? = some key
  index_lt : ∀ (key : String) (i : Nat), r.index[key]? = some i → i < r.entries.length
  size_eq : r.size = l.length
  isEmpty_eq : r.isEmpty = l.isEmpty
  get?_eq : ∀ key, r.get? key = l.lookup key
  contains_iff : ∀ key, r.contains key = true ↔ key ∈ l.names
  holdsNull_iff : ∀ key, r.holdsNull key = true ↔ l.lookup key = some .null
  insert : ∀ key v, (r.insert key v).1 = l.lookup key ∧ (r.insert key v).2.toList = l.put key v
  put : ∀ key v, (r.put key v).toList = l.put key v
  remove : ∀ key, (r.remove key).1 = l.lookup key ∧ (r.remove key).2.toList = l.remove key

theorem Holds.asListed {r : Row} {l : Pairs} (h : Holds r l) : AsListed r l := by
  obtain ⟨hindexed, rfl⟩ := h
  constructor
  case toList_eq => rfl
  case keys_eq => rfl
  case distinct => exact hindexed.nodup
  case index_iff => exact hindexed
  case index_lt =>
    intro key i hi
    have hlt := (List.getElem?_eq_some_iff.mp ((hindexed key i).mp hi)).1
    rwa [keys, List.length_map] at hlt
  case size_eq => rfl
  case isEmpty_eq => rfl
  case get?_eq => exact hindexed.get?_eq
  case contains_iff => exact hindexed.contains_iff
  case holdsNull_iff =>
    intro key
    rw [holdsNull, hindexed.get?_eq]
    cases r.toList.lookup key with
    | none => simp
    | some v => cases v <;> simp [Value.isNull]
  case insert => exact fun key v => (hindexed.insert key v).2
  case put => exact fun key v => (hindexed.put key v).2
  case remove => exact fun key => (hindexed.remove key).2

structure EqualAsListed (r s : Row) : Prop where
  equal_iff : r.equal s = true ↔ Pairs.equal r.toList s.toList = true
  index_eq : r.keys = s.keys → r.index.toList = s.index.toList

/-- Rows made by any calls are the lists of pairs that the calls make, and are equal where these
are. -/
theorem index_never_drifts (steps steps' : List Step) :
    List.Forall₂ AsListed (made steps) (listed steps) ∧
      ∀ r ∈ made steps, ∀ s ∈ made steps', EqualAsListed r s := by
  refine ⟨(holds_made steps).imp fun r l h => h.asListed, fun r hr s hs => ?_⟩
  have hr := indexed_of_made hr
  have hs := indexed_of_made hs
  exact ⟨hr.equal_iff hs, hr.index_eq hs⟩

theorem index_never_drifts_copied :
    let steps : List Step := [.insert 0 "a" (.int 1), .put 0 "b" .null, .put 0 "a" (.int 2),
      .put 0 "c" (.bool true), .copy 0, .remove 1 "b"]
    let steps' : List Step := [.collect [("a", .text "x"), ("c", .bool true), ("a", .int 2)]]
    listed steps = [[("a", .int 2), ("b", .null), ("c", .bool true)],
        [("a", .int 2), ("c", .bool true)]] ∧
      List.Forall₂ AsListed (made steps) (listed steps) ∧
      ∃ r ∈ made steps, ∃ s ∈ made steps', r.toList = [("a", .int 2), ("c", .bool true)] ∧
        r.equal s = true ∧ EqualAsListed r s := by
  intro steps steps'
  obtain ⟨hlisted, hequal⟩ := index_never_drifts steps steps'
  obtain ⟨r, s, hr, hs, hlist, heq⟩ : ∃ r s, (made steps)[1]? = some r ∧
      (made steps')[1]? = some s ∧ r.toList = [("a", .int 2), ("c", .bool true)] ∧
      r.equal s = true := ⟨_, _, rfl, rfl, by decide +kernel, by decide +kernel⟩
  have hr := List.mem_of_getElem? hr
  have hs := List.mem_of_getElem? hs
  exact ⟨by decide +kernel, hlisted, r, hr, s, hs, hlist, heq, hequal r hr s hs⟩

end Row

end UnitOfWork
