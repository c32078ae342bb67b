import UnitOfWork.Proofs.Statement.Clauses

namespace UnitOfWork

open Text Letter
open Clause (chosen ordered)

namespace Row

def assigned (e : String × Value) : List Letter := chars e.1 ++ (chars " = " ++ [.value e.2])

theorem tells_assigned : Tells assigned (fun e => isPlainName e.1 = true) id := by
  intro e e' r s he he' hr hs h
  simp only [assigned, List.append_assoc] at h
  obtain ⟨hname, hrest⟩ := tells_name he he' (ends_chars (by decide) _) (ends_chars (by decide) _) h
  have hvalue := List.append_cancel_left hrest
  simp only [List.cons_append, List.nil_append, List.cons.injEq, Letter.value.injEq] at hvalue
  exact ⟨Prod.ext hname hvalue.1, hvalue.2⟩

variable {row row' : Row}

theorem forall_entry {P : String → Prop} (h : ∀ name ∈ row.keys, P name) :
    ∀ e ∈ row.toList, P e.1 := fun _ he => h _ (List.mem_map_of_mem he)

theorem toList_eq (hkeys : row.keys = row'.keys) (hvalues : row.values = row'.values) :
    row.toList = row'.toList := by
  have hzip (row : Row) : row.toList = row.keys.zip row.values := List.zip_of_prod rfl rfl
  rw [hzip row, hzip row', hkeys, hvalues]

theorem unmarked_entries (h : PlainNames row.keys) :
    Unmarked (enumerated assigned row.toList) := by
  apply unmarked_enumerated
  intro e he
  simp only [assigned, unmarked_append]
  exact ⟨unmarked_name (forall_entry h e he), unmarked_chars (by decide), unmarked_value e.2⟩

theorem entries_told {cs ds : List Clause} (hrow : PlainNames row.keys)
    (hrow' : PlainNames row'.keys)
    (h : enumerated assigned row.toList ++ chosen cs =
      enumerated assigned row'.toList ++ chosen ds) :
    row.toList = row'.toList ∧ chosen cs = chosen ds := by
  have hitem (e : String × Value) (he : isPlainName e.1 = true) (t : List Letter) :
      ¬Ends (assigned e ++ t) := by
    rw [assigned, List.append_assoc]
    exact not_ends_name he _
  simpa using tells_assigned.enumerated hitem (forall_entry hrow) (forall_entry hrow')
    (Clause.ends_chosen cs) (Clause.ends_chosen ds) (Clause.comma_ne_chosen cs)
    (Clause.comma_ne_chosen ds) h

end Row

namespace Template

theorem load_columns (names : List String) :
    load (columns names) [] = enumerated chars names := by
  have hname : (fun name => load [.text name] []) = chars := by
    funext name
    exact List.append_nil _
  rw [columns, load_commas_text _ (fun _ => rfl), hname]

theorem load_assignments (row : Row) :
    load (assignments row.keys) row.values = enumerated Row.assigned row.toList := by
  have hentries := load_commas (fun e : String × Value => [.text e.1, .text " = ", .gap])
    (fun e => [e.2]) (fun _ => rfl) row.toList
  rw [← List.map_eq_flatMap] at hentries
  rw [assignments, Row.keys, List.map_map]
  exact hentries

section

variable (table : String) (row : Row) (clauses : List Clause)

theorem load_select (columns : List String) :
    load (select columns table clauses) (Clause.bound clauses) =
      chars "select " ++ (enumerated chars columns ++ (chars " from " ++
        (chars table ++ (chosen clauses ++ ordered clauses)))) := by
  simp only [select, List.append_assoc, List.cons_append, List.nil_append, load_text,
    load_append_of_text (Draft.writes_columns columns).gaps, load_columns,
    load_append_text (Draft.writes_choice clauses).gaps, Clause.load_choice, Clause.load_order]

theorem load_count :
    load (count table clauses) (Clause.bound clauses) =
      chars "select count(*) from " ++ (chars table ++ chosen clauses) := by
  simp only [count, List.cons_append, List.nil_append, load_text, Clause.load_choice]

theorem load_insert :
    load (insert table row.keys) row.values = chars "insert into " ++ (chars table ++
      (chars " (" ++ (enumerated chars row.keys ++ (chars ") values (" ++
        (enumerated (fun v => [.value v]) row.values ++ chars ")"))))) := by
  have hgaps := (Draft.Writes.commas Draft.Writes.bind row.values).gaps
  have hkeys : row.keys.map (fun _ => [Part.gap]) = row.values.map fun _ => [Part.gap] := by
    rw [Row.values, Row.keys, List.map_map, List.map_map]
    rfl
  rw [List.flatMap_singleton'] at hgaps
  simp only [insert, List.append_assoc, List.cons_append, List.nil_append, load_text, hkeys,
    load_append_of_text (Draft.writes_columns row.keys).gaps, load_columns,
    load_append_text hgaps, load_gaps, load_nil, List.append_nil]

theorem load_update :
    load (update table row.keys clauses) (row.values ++ Clause.bound clauses) =
      chars "update " ++ (chars table ++ (chars " set " ++
        (enumerated Row.assigned row.toList ++ chosen clauses))) := by
  have hgaps : gaps (assignments row.keys) = row.values.length :=
    (Draft.writes_assignments row.toList).gaps
  simp only [update, List.cons_append, List.nil_append, load_text, load_append hgaps,
    load_assignments, Clause.load_choice]

theorem load_delete :
    load (delete table clauses) (Clause.bound clauses) =
      chars "delete from " ++ (chars table ++ chosen clauses) := by
  simp only [delete, List.cons_append, List.nil_append, load_text, Clause.load_choice]

end

section unmarked

variable {table : String} {row : Row} {clauses : List Clause} (htable : isPlainName table = true)
include htable

theorem unmarked_select {columns : List String} (hcolumns : PlainNames columns)
    (hclauses : Clause.Plain clauses) :
    Unmarked (load (select columns table clauses) (Clause.bound clauses)) := by
  simp only [load_select, unmarked_append]
  exact ⟨unmarked_chars (by decide), unmarked_names hcolumns, unmarked_chars (by decide),
    unmarked_name htable, Clause.unmarked_chosen hclauses, Clause.unmarked_ordered hclauses⟩

theorem unmarked_count (hclauses : Clause.Plain clauses) :
    Unmarked (load (count table clauses) (Clause.bound clauses)) := by
  simp only [load_count, unmarked_append]
  exact ⟨unmarked_chars (by decide), unmarked_name htable, Clause.unmarked_chosen hclauses⟩

theorem unmarked_insert (hkeys : PlainNames row.keys) :
    Unmarked (load (insert table row.keys) row.values) := by
  simp only [load_insert, unmarked_append]
  exact ⟨unmarked_chars (by decide), unmarked_name htable, unmarked_chars (by decide),
    unmarked_names hkeys, unmarked_chars (by decide),
    unmarked_enumerated fun v _ => unmarked_value v, unmarked_chars (by decide)⟩

theorem unmarked_update (hkeys : PlainNames row.keys) (hclauses : Clause.Plain clauses) :
    Unmarked (load (update table row.keys clauses) (row.values ++ Clause.bound clauses)) := by
  simp only [load_update, unmarked_append]
  exact ⟨unmarked_chars (by decide), unmarked_name htable, unmarked_chars (by decide),
    Row.unmarked_entries hkeys, Clause.unmarked_chosen hclauses⟩

theorem unmarked_delete (hclauses : Clause.Plain clauses) :
    Unmarked (load (delete table clauses) (Clause.bound clauses)) := by
  simp only [load_delete, unmarked_append]
  exact ⟨unmarked_chars (by decide), unmarked_name htable, Clause.unmarked_chosen hclauses⟩

end unmarked

end Template

namespace Statement

theorem Spells.load_eq {d : Dialect} (hd : d = .default ∨ d = .postgres)
    {f g : Dialect → Except Failure Statement} {t u : Template} {vs ws : List Value}
    (hf : Spells f t vs) (hg : Spells g u ws) (ht : Unmarked (t.load vs))
    (hu : Unmarked (u.load ws)) (h : f d = g d) : t.load vs = u.load ws := by
  obtain ⟨m, hmarks, hm⟩ : ∃ m, d.MarksWith m ∧ (Letter.char m).isMark = true := by
    obtain rfl | rfl := hd
    · exact ⟨'?', Dialect.default_marksWith, by decide⟩
    · exact ⟨'$', Dialect.postgres_marksWith, by decide⟩
  have hspared {ss : List Letter} (hss : Unmarked ss) : Letter.char m ∉ ss := by
    intro hmem
    simp [hss _ hmem] at hm
  rw [hf.eq, hg.eq, Except.ok.injEq] at h
  exact Template.load_eq_of_statement_eq hmarks (hspared ht) (hspared hu) hf.gaps hg.gaps h

theorem isEmpty_of_insert_ok {d : Dialect} {table : String} {row : Row} {st : Statement}
    (h : insert d table row = .ok st) : row.isEmpty = false := by
  cases hrow : row.isEmpty with
  | false => rfl
  | true => simp [insert, hrow] at h

theorem isEmpty_of_update_ok {d : Dialect} {table : String} {row : Row} {cs : List Clause}
    {st : Statement} (h : update d table row cs = .ok st) : row.isEmpty = false := by
  cases hrow : row.isEmpty with
  | false => rfl
  | true => simp [update, hrow] at h

theorem choosing_told {table table' : String} {cs ds : List Clause}
    (htable : isPlainName table = true) (htable' : isPlainName table' = true)
    (hcs : Clause.Plain cs) (hds : Clause.Plain ds)
    (h : chars table ++ chosen cs = chars table' ++ chosen ds) :
    table = table' ∧ Clause.shown cs = Clause.shown ds := by
  obtain ⟨htableeq, hchosen⟩ :=
    tells_name htable htable' (Clause.ends_chosen cs) (Clause.ends_chosen ds) h
  exact ⟨htableeq, Clause.chosen_unique hcs hds hchosen⟩

section told

variable {d : Dialect} (hd : d = .default ∨ d = .postgres) {columns columns' : List String}
  {table table' : String} {row row' : Row} {cs ds : List Clause} {st : Statement}
include hd

theorem select_told (hnames : PlainNames (table :: columns))
    (hnames' : PlainNames (table' :: columns')) (hcs : Clause.Plain cs) (hds : Clause.Plain ds)
    (h : select d columns table cs = select d columns' table' ds) :
    table = table' ∧ columns = columns' ∧ Clause.shown cs = Clause.shown ds ∧
      cs.flatMap Clause.sortKeys = ds.flatMap Clause.sortKeys := by
  obtain ⟨htable, hcolumns⟩ := List.forall_mem_cons.mp hnames
  obtain ⟨htable', hcolumns'⟩ := List.forall_mem_cons.mp hnames'
  have hload := (select_spells table cs columns).load_eq hd (select_spells table' ds columns')
    (Template.unmarked_select htable hcolumns hcs) (Template.unmarked_select htable' hcolumns' hds)
    (congrArg Except.ok h)
  rw [Template.load_select, Template.load_select] at hload
  obtain ⟨hcolumnseq, hfrom⟩ := names_told hcolumns hcolumns' (ends_chars (by decide) _)
    (ends_chars (by decide) _) (by simp [chars]) (by simp [chars]) (List.append_cancel_left hload)
  obtain ⟨htableeq, hclauses⟩ := tells_name htable htable'
    ((Clause.closes_ordered cs).ends_chosen cs) ((Clause.closes_ordered ds).ends_chosen ds)
    (List.append_cancel_left hfrom)
  obtain ⟨hshown, hordered⟩ := Clause.chosen_told hcs hds (Clause.closes_ordered cs)
    (Clause.closes_ordered ds) hclauses
  exact ⟨htableeq, hcolumnseq, hshown, Clause.ordered_unique hcs hds hordered⟩

theorem count_told (htable : isPlainName table = true) (htable' : isPlainName table' = true)
    (hcs : Clause.Plain cs) (hds : Clause.Plain ds)
    (h : count d table cs = count d table' ds) :
    table = table' ∧ Clause.shown cs = Clause.shown ds := by
  have hload := (count_spells table cs).load_eq hd (count_spells table' ds)
    (Template.unmarked_count htable hcs) (Template.unmarked_count htable' hds)
    (congrArg Except.ok h)
  rw [Template.load_count, Template.load_count] at hload
  exact choosing_told htable htable' hcs hds (List.append_cancel_left hload)

theorem insert_told (hnames : PlainNames (table :: row.keys))
    (hnames' : PlainNames (table' :: row'.keys)) (h : insert d table row = .ok st)
    (h' : insert d table' row' = .ok st) : table = table' ∧ row.toList = row'.toList := by
  obtain ⟨htable, hkeys⟩ := List.forall_mem_cons.mp hnames
  obtain ⟨htable', hkeys'⟩ := List.forall_mem_cons.mp hnames'
  have hload := (insert_spells table row (isEmpty_of_insert_ok h)).load_eq hd
    (insert_spells table' row' (isEmpty_of_insert_ok h')) (Template.unmarked_insert htable hkeys)
    (Template.unmarked_insert htable' hkeys') (h.trans h'.symm)
  rw [Template.load_insert, Template.load_insert] at hload
  obtain ⟨htableeq, hcolumns⟩ := tells_name htable htable' (ends_chars (by decide) _)
    (ends_chars (by decide) _) (List.append_cancel_left hload)
  obtain ⟨hkeyseq, hvalues⟩ := names_told hkeys hkeys' (ends_chars (by decide) _)
    (ends_chars (by decide) _) (by simp [chars]) (by simp [chars])
    (List.append_cancel_left hcolumns)
  have hlist := List.append_cancel_left hvalues
  rw [← List.append_nil (chars ")")] at hlist
  obtain ⟨hvalueseq, -⟩ := values_told hlist
  exact ⟨htableeq, Row.toList_eq hkeyseq hvalueseq⟩

theorem update_told (hnames : PlainNames (table :: row.keys))
    (hnames' : PlainNames (table' :: row'.keys)) (hcs : Clause.Plain cs) (hds : Clause.Plain ds)
    (h : update d table row cs = .ok st) (h' : update d table' row' ds = .ok st) :
    table = table' ∧ row.toList = row'.toList ∧ Clause.shown cs = Clause.shown ds := by
  obtain ⟨htable, hkeys⟩ := List.forall_mem_cons.mp hnames
  obtain ⟨htable', hkeys'⟩ := List.forall_mem_cons.mp hnames'
  have hload := (update_spells table row cs (isEmpty_of_update_ok h)).load_eq hd
    (update_spells table' row' ds (isEmpty_of_update_ok h'))
    (Template.unmarked_update htable hkeys hcs) (Template.unmarked_update htable' hkeys' hds)
    (h.trans h'.symm)
  rw [Template.load_update, Template.load_update] at hload
  obtain ⟨htableeq, hset⟩ := tells_name htable htable' (ends_chars (by decide) _)
    (ends_chars (by decide) _) (List.append_cancel_left hload)
  obtain ⟨hentries, hchosen⟩ :=
    Row.entries_told hkeys hkeys' (List.append_cancel_left hset)
  exact ⟨htableeq, hentries, Clause.chosen_unique hcs hds hchosen⟩

theorem delete_told (htable : isPlainName table = true) (htable' : isPlainName table' = true)
    (hcs : Clause.Plain cs) (hds : Clause.Plain ds)
    (h : delete d table cs = delete d table' ds) :
    table = table' ∧ Clause.shown cs = Clause.shown ds := by
  have hload := (delete_spells table cs).load_eq hd (delete_spells table' ds)
    (Template.unmarked_delete htable hcs) (Template.unmarked_delete htable' hds)
    (congrArg Except.ok h)
  rw [Template.load_delete, Template.load_delete] at hload
  exact choosing_told htable htable' hcs hds (List.append_cancel_left hload)

end told

structure Legible (d : Dialect) : Prop where
  select {columns columns' : List String} {table table' : String} {cs ds : List Clause} :
    PlainNames (table :: columns) → PlainNames (table' :: columns') →
    Clause.Plain cs → Clause.Plain ds →
    select d columns table cs = select d columns' table' ds →
    table = table' ∧ columns = columns' ∧ Clause.shown cs = Clause.shown ds ∧
      cs.flatMap Clause.sortKeys = ds.flatMap Clause.sortKeys
  count {table table' : String} {cs ds : List Clause} :
    isPlainName table → isPlainName table' → Clause.Plain cs → Clause.Plain ds →
    count d table cs = count d table' ds →
    table = table' ∧ Clause.shown cs = Clause.shown ds
  insert {table table' : String} {row row' : Row} {st : Statement} :
    PlainNames (table :: row.keys) → PlainNames (table' :: row'.keys) →
    insert d table row = .ok st → insert d table' row' = .ok st →
    table = table' ∧ row.toList = row'.toList
  update {table table' : String} {row row' : Row} {cs ds : List Clause} {st : Statement} :
    PlainNames (table :: row.keys) → PlainNames (table' :: row'.keys) →
    Clause.Plain cs → Clause.Plain ds →
    update d table row cs = .ok st → update d table' row' ds = .ok st →
    table = table' ∧ row.toList = row'.toList ∧ Clause.shown cs = Clause.shown ds
  delete {table table' : String} {cs ds : List Clause} :
    isPlainName table → isPlainName table' → Clause.Plain cs → Clause.Plain ds →
    delete d table cs = delete d table' ds →
    table = table' ∧ Clause.shown cs = Clause.shown ds

theorem legible {d : Dialect} (hd : d = .default ∨ d = .postgres) : Legible d where
  select := select_told hd
  count := count_told hd
  insert := insert_told hd
  update := update_told hd
  delete := delete_told hd

theorem legible_two_ways :
    let cs : List Clause := [.filter (.among "x" []), .sort ⟨"a", true⟩ []]
    let ds : List Clause := [.sort ⟨"a", true⟩ [], .filter (.among "y" [])]
    let row := Row.ofList [("a", .int 1), ("b", .null), ("a", .int 2)]
    let row' := Row.ofList [("a", .int 2), ("b", .null)]
    select .default ["a"] "t" cs = select .default ["a"] "t" ds ∧
      Clause.shown cs = Clause.shown ds ∧
      ∃ st, update .postgres "t" row cs = .ok st ∧ update .postgres "t" row' ds = .ok st ∧
        row.toList = row'.toList := by
  intro cs ds row row'
  have hcs : Clause.Plain cs := by decide
  have hds : Clause.Plain ds := by decide
  have hselect : select .default ["a"] "t" cs = select .default ["a"] "t" ds := by decide
  obtain ⟨-, -, hshown, -⟩ :=
    (legible (.inl rfl)).select (by decide) (by decide) hcs hds hselect
  obtain ⟨st, hst, hst'⟩ : ∃ st, update .postgres "t" row cs = .ok st ∧
      update .postgres "t" row' ds = .ok st := ⟨_, rfl, by decide⟩
  obtain ⟨-, hrow, -⟩ := (legible (.inr rfl)).update (by decide) (by decide) hcs hds hst hst'
  exact ⟨hselect, hshown, st, hst, hst', hrow⟩

end Statement

end UnitOfWork
