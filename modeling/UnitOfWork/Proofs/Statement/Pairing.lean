import UnitOfWork.Proofs.Row.Pairs
import UnitOfWork.Proofs.Statement.Wording

namespace UnitOfWork

namespace Row

structure Paired (r : Row) (args : List Value) : Prop where
  entries : r.toList = r.keys.zip args
  distinct : r.keys.Nodup
  mem_iff : ∀ key, key ∈ r.keys ↔ r.contains key = true
  length : args.length = r.keys.length
  own : ∀ (i : Nat) (name : String), r.keys[i]? = some name →
    ∃ v, r.get? name = some v ∧ args[i]? = some v

theorem Indexed.paired {r : Row} (h : Indexed r) : Paired r r.values := by
  constructor
  case entries => simp only [toList, keys, values, List.zip_map', List.map_id']
  case distinct => exact h.nodup
  case mem_iff => exact fun key => (h.contains_iff key).symm
  case length => rw [values, keys, List.length_map, List.length_map]
  case own =>
    intro i name hname
    have hindex := (h name i).mpr hname
    rw [keys, List.getElem?_map, Option.map_eq_some_iff] at hname
    obtain ⟨e, he, -⟩ := hname
    refine ⟨e.2, ?_, ?_⟩
    · simp only [get?, hindex, he, Option.map_some]
    · rw [values, List.getElem?_map, he, Option.map_some]

end Row

namespace Statement

open Clause (whereText bound)

/-- The statements that insert a row and that set its columns name these in order, with the ordinals
from 1 on. Those of the predicates come behind them. -/
theorem values_paired (steps : List Row.Step) (row : Row) (hrow : row ∈ Row.made steps)
    (hvalues : row.isEmpty = false) (d : Dialect) (table : String) (clauses : List Clause) :
    row.Paired row.values ∧
      insert d table row = .ok
        ⟨"insert into " ++ table ++ " (" ++ ", ".intercalate row.keys ++ ") values (" ++
          ", ".intercalate ((List.range' 1 row.keys.length).map d.placeholder) ++ ")",
          row.values⟩ ∧
      update d table row clauses = .ok
        ⟨"update " ++ table ++ " set " ++
          ", ".intercalate ((row.keys.zipIdx 1).map fun e => e.1 ++ " = " ++ d.placeholder e.2) ++
          whereText d.placeholder (row.keys.length + 1) (clauses.filterMap Clause.predicate?),
          row.values ++ clauses.flatMap Clause.values⟩ :=
  ⟨(Row.indexed_of_made hrow).paired, insert_eq d table hvalues,
    update_eq d table clauses hvalues⟩

theorem values_paired_removed :
    let steps : List Row.Step := [.insert 0 "a" (.int 1), .put 0 "b" .null, .put 0 "c" (.int 3),
      .insert 0 "c" (.text "x"), .remove 0 "a"]
    let clauses : List Clause := [.sort ⟨"b", true⟩ [], .filter (.among "id" [.int 7, .int 8])]
    ∃ row ∈ Row.made steps, row.get? "b" = some .null ∧ row.get? "c" = some (.text "x") ∧
      row.Paired [.null, .text "x"] ∧
      insert .postgres "t" row = .ok ⟨"insert into t (b, c) values ($1, $2)", [.null, .text "x"]⟩ ∧
      update .postgres "t" row clauses = .ok
        ⟨"update t set b = $1, c = $2 where (id in ($3, $4))",
          [.null, .text "x", .int 7, .int 8]⟩ := by
  intro steps clauses
  obtain ⟨row, hrow, hvalues, hkeys, hargs, hb, hc⟩ : ∃ row, row ∈ Row.made steps ∧
      row.isEmpty = false ∧ row.keys = ["b", "c"] ∧ row.values = [.null, .text "x"] ∧
      row.get? "b" = some .null ∧ row.get? "c" = some (.text "x") :=
    ⟨_, List.mem_singleton.mpr rfl, by decide +kernel, by decide +kernel, by decide +kernel,
      by decide +kernel, by decide +kernel⟩
  obtain ⟨hpaired, hinsert, hupdate⟩ :=
    values_paired steps row hrow hvalues .postgres "t" clauses
  rw [hargs] at hpaired
  rw [hkeys, hargs] at hinsert hupdate
  refine ⟨row, hrow, hb, hc, hpaired, hinsert.trans ?_, hupdate.trans ?_⟩
  · decide +kernel
  · decide +kernel

end Statement

end UnitOfWork
