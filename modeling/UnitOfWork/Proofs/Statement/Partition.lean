import UnitOfWork.Proofs.Statement.Wording

namespace UnitOfWork

namespace Clause

def isFilter : Clause → Bool
  | filter _ => true
  | sort _ _ => false

def isSort (c : Clause) : Bool := !c.isFilter

theorem predicates_filter (cs : List Clause) :
    (cs.filter isFilter).filterMap predicate? = cs.filterMap predicate? := by
  induction cs with
  | nil => rfl
  | cons c cs ih => cases c <;> simp [List.filter_cons, List.filterMap_cons, isFilter, predicate?, ih]

theorem sortKeys_filter (cs : List Clause) :
    (cs.filter isSort).flatMap sortKeys = cs.flatMap sortKeys := by
  induction cs with
  | nil => rfl
  | cons c cs ih => cases c <;> simp [isSort, isFilter, sortKeys, ih]

def single (keys : List SortKey) : List Clause := keys.map fun k => sort k []

theorem predicates_single (keys : List SortKey) : (single keys).filterMap predicate? = [] := by
  simp [single, predicate?]

theorem sortKeys_single (keys : List SortKey) : (single keys).flatMap sortKeys = keys := by
  simp [single, List.flatMap_map, sortKeys]

end Clause

open Clause (isFilter isSort single whereText orderText bound)

namespace Statement

structure SameChoice (cs ds : List Clause) : Prop where
  count : ∀ d table, count d table cs = count d table ds
  update : ∀ d table row, update d table row cs = update d table row ds
  delete : ∀ d table, delete d table cs = delete d table ds

structure Same (cs ds : List Clause) : Prop extends SameChoice cs ds where
  select : ∀ d columns table, select d columns table cs = select d columns table ds

variable {cs ds : List Clause}

theorem SameChoice.of_predicates
    (h : cs.filterMap Clause.predicate? = ds.filterMap Clause.predicate?) : SameChoice cs ds := by
  have hbound : bound cs = bound ds := by rw [Clause.bound_eq, h, ← Clause.bound_eq]
  constructor
  · intro d table
    rw [count_eq, count_eq, h, hbound]
  · intro d table row
    cases hrow : row.isEmpty with
    | true => rw [Statement.update, Statement.update, if_pos hrow, if_pos hrow]
    | false => rw [update_eq d table cs hrow, update_eq d table ds hrow, h, hbound]
  · intro d table
    rw [delete_eq, delete_eq, h, hbound]

theorem Same.of_parts (h : cs.filterMap Clause.predicate? = ds.filterMap Clause.predicate?)
    (hkeys : cs.flatMap Clause.sortKeys = ds.flatMap Clause.sortKeys) : Same cs ds := by
  have hbound : bound cs = bound ds := by rw [Clause.bound_eq, h, ← Clause.bound_eq]
  refine ⟨.of_predicates h, ?_⟩
  intro d columns table
  rw [select_eq, select_eq, h, hkeys, hbound]

structure Partitioned (cs : List Clause) : Prop where
  interleaved : ∀ ds, cs.filter isFilter = ds.filter isFilter →
    cs.filter isSort = ds.filter isSort → Same cs ds
  split : ∀ before first others behind, cs = before ++ .sort first others :: behind →
    Same cs (before ++ single (first :: others) ++ behind)
  unsorted : SameChoice cs (cs.filter isFilter)
  ordered : ∀ d columns table, Statement.select d columns table cs =
    ⟨"select " ++ ", ".intercalate columns ++ " from " ++ table ++
      whereText d.placeholder 1 (cs.filterMap Clause.predicate?) ++
      orderText (cs.flatMap Clause.sortKeys), bound cs⟩

/-- Where a clause stands among those of the other kind makes no difference. -/
theorem clauses_partitioned (cs : List Clause) : Partitioned cs := by
  constructor
  case interleaved =>
    intro ds hfilter hsort
    apply Same.of_parts
    · rw [← Clause.predicates_filter cs, hfilter, Clause.predicates_filter]
    · rw [← Clause.sortKeys_filter cs, hsort, Clause.sortKeys_filter]
  case split =>
    rintro before first others behind rfl
    apply Same.of_parts
    · simp [Clause.predicates_single, List.filterMap_cons, Clause.predicate?]
    · simp [Clause.sortKeys_single, Clause.sortKeys]
  case unsorted => exact .of_predicates (Clause.predicates_filter cs).symm
  case ordered => exact fun d columns table => select_eq d table cs columns

example :
    select .postgres ["id"] "t" [.sort ⟨"id", false⟩ [⟨"a", true⟩],
        .filter (.compare "a" .eq (.int 1)), .sort ⟨"b", true⟩ [], .filter (.null "c" false)] =
      ⟨"select id from t where (a = $1) and (c is null) order by id desc, a asc, b asc",
        [.int 1]⟩ := by decide

end Statement

end UnitOfWork
