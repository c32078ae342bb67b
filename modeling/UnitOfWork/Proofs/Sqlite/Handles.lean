import UnitOfWork.Proofs.Scene
import UnitOfWork.Proofs.Sqlite.Connections

namespace UnitOfWork.Sqlite

open Scene (Change)

namespace Client

structure Counted (x : Client) : Prop where
  size : x.engine.connections.length = x.pool.size
  waiting : ∀ i ∈ x.pool.idle, i < x.pool.size

structure Grows (x x' : Client) : Prop where
  counted : x'.Counted
  size : x.pool.size ≤ x'.pool.size

theorem beside_run (x : Client) (i : Nat) (call : Call) (st : Statement) :
    x.engine.Beside i (x.run i call st).2.engine ∧ (x.run i call st).2.pool = x.pool := by
  cases call with
  | first names => exact ⟨Engine.beside_fetch .., rfl⟩
  | every names => exact ⟨Engine.beside_fetch .., rfl⟩
  | affected =>
    have hexecute := Engine.beside_execute x.engine i st.sql (st.args.map Cell.ofParameter)
    unfold Client.run
    dsimp only
    generalize x.engine.execute i st.sql (st.args.map Cell.ofParameter) = r at hexecute
    split <;> exact ⟨hexecute, rfl⟩

variable {x x' x'' : Client}

theorem Grows.trans (h : x.Grows x') (h' : x'.Grows x'') : x.Grows x'' :=
  ⟨h'.counted, Nat.le_trans h.size h'.size⟩

namespace Counted

variable (h : x.Counted)
include h

theorem refl : x.Grows x := ⟨h, Nat.le_refl _⟩

theorem of_size (hengine : x'.engine.connections.length = x.engine.connections.length)
    (hsize : x'.pool.size = x.pool.size) (hidle : ∀ i ∈ x'.pool.idle, i < x.pool.size) :
    x.Grows x' := by
  refine ⟨⟨?_, ?_⟩, Nat.le_of_eq hsize.symm⟩
  · rw [hengine, hsize, h.size]
  · rwa [hsize]

theorem run (i : Nat) (call : Call) (st : Statement) : x.Grows (x.run i call st).2 := by
  obtain ⟨hbeside, hpool⟩ := x.beside_run i call st
  refine h.of_size hbeside.size (congrArg Pool.size hpool) ?_
  rw [hpool]
  exact h.waiting

theorem commit (i : Nat) : x.Grows (x.commit i).2 := by
  have hcommit := Engine.beside_commit x.engine i
  unfold Client.commit
  generalize x.engine.commit i = r at hcommit
  split <;> exact h.of_size hcommit.size rfl h.waiting

theorem rollback (i : Nat) : x.Grows (x.rollback i).2 :=
  h.of_size (Engine.beside_rollback x.engine i).size rfl h.waiting

theorem poolGiveBack {i : Nat} (hi : i < x.pool.size) :
    (x.pool.giveBack i).size = x.pool.size ∧ ∀ j ∈ (x.pool.giveBack i).idle, j < x.pool.size := by
  unfold Pool.giveBack
  split
  · exact ⟨rfl, h.waiting⟩
  · refine ⟨rfl, ?_⟩
    intro j hj
    obtain hj | hj := List.mem_append.mp hj
    · exact h.waiting j hj
    · rwa [List.mem_singleton.mp hj]

theorem giveBack {i : Nat} (hi : i < x.pool.size) : x.Grows (x.giveBack i) := by
  obtain ⟨hsize, hidle⟩ := h.poolGiveBack hi
  refine h.of_size ?_ hsize hidle
  unfold Client.giveBack
  dsimp only
  split
  · exact (Engine.Beside.setTransaction x.engine i .idle).size
  · rfl

theorem release {i : Nat} (hi : i < x.pool.size) (runtime : Bool) :
    x.Grows (x.release i runtime).2 := by
  unfold Client.release
  split
  · have hrollback := h.rollback i
    exact hrollback.trans (hrollback.counted.giveBack (Nat.lt_of_lt_of_le hi hrollback.size))
  · have hsettled : x.Grows { x with pool := x.pool.settled i } := h.of_size rfl rfl h.waiting
    exact hsettled.trans (hsettled.counted.giveBack hi)

theorem beginOn {i : Nat} (hi : i < x.pool.size) :
    x.Grows (x.beginOn i).2 ∧ ∀ j, (x.beginOn i).1 = .ok j → j = i := by
  have hbegin := Engine.beside_begin x.engine i
  unfold Client.beginOn
  generalize x.engine.begin i = r at hbegin
  split
  · refine ⟨h.of_size hbegin.size rfl h.waiting, ?_⟩
    rintro j ⟨⟩
    rfl
  · obtain ⟨hsize, hidle⟩ := h.poolGiveBack hi
    refine ⟨h.of_size hbegin.size hsize hidle, ?_⟩
    rintro j ⟨⟩

theorem take_waiting {i : Nat} {p : Pool} (htake : x.pool.take = .waiting i p) :
    x.Grows { x with pool := p } ∧ i < p.size := by
  unfold Pool.take at htake
  split at htake
  · cases htake
  · split at htake
    · rename_i j rest hidle
      cases htake
      have hwaiting := h.waiting
      rw [hidle] at hwaiting
      exact ⟨h.of_size rfl rfl fun j hj => hwaiting j (List.mem_cons_of_mem i hj),
        hwaiting i List.mem_cons_self⟩
    · split at htake <;> cases htake

theorem take_fresh {i : Nat} {p : Pool} (htake : x.pool.take = .fresh i p) :
    x.Grows (connect { x with pool := p }).2 ∧ i < p.size := by
  unfold Pool.take at htake
  split at htake
  · cases htake
  · split at htake
    · cases htake
    · split at htake
      · cases htake
      · cases htake
        refine ⟨⟨⟨?_, ?_⟩, Nat.le_succ _⟩, Nat.lt_succ_self _⟩
        · have hsize := congrArg Nat.succ h.size
          unfold connect
          dsimp only
          split <;> simpa [Engine.connect, Engine.connectApart] using hsize
        · exact fun j hj => Nat.lt_succ_of_lt (h.waiting j hj)

theorem begin : x.Grows x.begin.2.2 ∧ ∀ i, x.begin.1 = .ok i → i < x.begin.2.2.pool.size := by
  unfold Client.begin
  split
  · exact ⟨h.refl, by rintro i ⟨⟩⟩
  · exact ⟨h.refl, by rintro i ⟨⟩⟩
  · rename_i i p htake
    obtain ⟨htaken, hi⟩ := h.take_waiting htake
    obtain ⟨hbegun, hsame⟩ := htaken.counted.beginOn hi
    refine ⟨htaken.trans hbegun, ?_⟩
    intro j hj
    rw [hsame j hj]
    exact Nat.lt_of_lt_of_le hi hbegun.size
  · rename_i i p htake
    obtain ⟨htaken, hi⟩ := h.take_fresh htake
    obtain ⟨hbegun, hsame⟩ := htaken.counted.beginOn hi
    refine ⟨htaken.trans hbegun, ?_⟩
    intro j hj
    rw [hsame j hj]
    exact Nat.lt_of_lt_of_le hi hbegun.size

theorem close : x.Grows x.close := by
  have hsize : ∀ (is : List Nat) (e : Engine),
      (is.foldl (fun e i => e.setTransaction i .idle) e).connections.length =
        e.connections.length := by
    intro is
    induction is with
    | nil => exact fun e => rfl
    | cons i is ih => exact fun e => (ih _).trans (Engine.Beside.setTransaction e i .idle).size
  exact h.of_size (hsize _ _) rfl (by simp [Client.close, Pool.close])

end Counted

theorem counted_opened (path : String) (limit : Nat) (writeAhead : Bool) :
    (opened path limit writeAhead).2.Counted := by
  unfold opened connect
  dsimp only
  split
  · exact ⟨rfl, by simp [Pool.initial]⟩
  · exact ⟨rfl, by simp [Pool.initial]⟩

end Client

structure Linked (w : World Client Nat) : Prop where
  counted : w.databases.Counted
  linked : ∀ n t i, w.session? n = some t → t.transaction = some i → i < w.databases.pool.size

namespace Linked

variable {w w' : World Client Nat}

theorem of_eq (h : Linked w) (hs : w'.sessions = w.sessions)
    (hd : w.databases.Grows w'.databases) : Linked w' := by
  refine ⟨hd.counted, ?_⟩
  intro n t i ht hi
  rw [World.session?_of_eq hs] at ht
  exact Nat.lt_of_lt_of_le (h.linked n t i ht hi) hd.size

theorem of_set (h : Linked w) {n : Nat} {t : Session Nat} {x : Option (Session Nat)}
    (ht : w.session? n = some t) (hs : w'.sessions = w.sessions.set n x)
    (hx : ∀ t' i, x = some t' → t'.transaction = some i → t.transaction = some i)
    (hd : w.databases.Grows w'.databases) : Linked w' := by
  refine ⟨hd.counted, ?_⟩
  intro m t' i ht' hi
  rw [World.session?_of_set hs (World.lt_of_session? ht)] at ht'
  refine Nat.lt_of_lt_of_le ?_ hd.size
  split at ht'
  · exact h.linked n t i ht (hx t' i ht' hi)
  · exact h.linked m t' i ht' hi

theorem released (h : Linked w) {n : Nat} {t : Session Nat} {i : Nat} (ht : w.session? n = some t)
    (hi : t.transaction = some i) {x : Client} (hx : w.databases.Grows x) (runtime : Bool) :
    w.databases.Grows (x.release i runtime).2 :=
  hx.trans (hx.counted.release (Nat.lt_of_lt_of_le (h.linked n t i ht hi) hx.size) runtime)

theorem begun (h : Linked w) {i : Nat} {database : Database} {depot : Depot} {c : Context}
    (hb : (w.databases.begin).1 = .ok i)
    (hs : w'.sessions = w.sessions ++ [some (World.begun database depot c i)])
    (hd : w'.databases = w.databases.begin.2.2) : Linked w' := by
  obtain ⟨hgrows, hbound⟩ := h.counted.begin
  rw [← hd] at hgrows hbound
  refine ⟨hgrows.counted, ?_⟩
  intro n t j ht hj
  rw [World.session?_of_append hs] at ht
  split at ht
  · cases ht
    cases hj
    exact hbound i hb
  · exact Nat.lt_of_lt_of_le (h.linked n t j ht hj) hgrows.size

theorem change {o : Operation Empty} (h : Linked w)
    (hc : Change Client.driver Empty.elim w w' o) : Linked w' := by
  have hsame : w.databases.Grows w.databases := h.counted.refl
  cases hc with
  | quiet _ hs hd => exact h.of_eq hs (hd ▸ hsame)
  | closed k hs hd => exact h.of_eq hs (hd ▸ h.counted.close)
  | directed x hs hd => exact x.elim
  | denied k c e hb hs hd => exact h.of_eq hs (hd ▸ h.counted.begin.1)
  | begun k c x database depot context hb hs hd => exact h.begun hb hs hd
  | joined k c i t ht ha hs hd => exact h.of_set ht hs (by rintro t' i ⟨⟩; exact id) (hd ▸ hsame)
  | marked i e t ht hs hd => exact h.of_set ht hs (by rintro t' i ⟨⟩; exact id) (hd ▸ hsame)
  | asked i q t x st ht hx hst hs hd => exact h.of_eq hs (hd ▸ h.counted.run x q.call st)
  | left i t ht ha he h1 hs hd => exact h.of_set ht hs (by rintro t' i ⟨⟩; exact id) (hd ▸ hsame)
  | committed i t x ht ha he h1 hx hc hs hd =>
    exact h.of_set ht hs (by rintro t' i ⟨⟩ ⟨⟩)
      (hd ▸ h.released ht hx (h.counted.commit x) true)
  | commitFailed i t x e ht ha he h1 hx hc hs hd =>
    have hcommit := h.counted.commit x
    exact h.of_set ht hs (by rintro t' i ⟨⟩ ⟨⟩)
      (hd ▸ h.released ht hx (hcommit.trans (hcommit.counted.rollback x)) true)
  | failed i t ht ha h1 hs hd => exact h.of_set ht hs (by rintro t' i ⟨⟩; exact id) (hd ▸ hsame)
  | rolledBack i t x ht ha h1 hx hs hd =>
    exact h.of_set ht hs (by rintro t' i ⟨⟩ ⟨⟩)
      (hd ▸ h.released ht hx (h.counted.rollback x) true)
  | dropped i runtime t ht hx hs hd => exact h.of_set ht hs (by rintro t' i ⟨⟩) (hd ▸ hsame)
  | droppedOpen i t x ht hx hs hd =>
    exact h.of_set ht hs (by rintro t' i ⟨⟩) (hd ▸ h.released ht hx (h.counted.rollback x) true)
  | abandoned i t x ht hx hs hd =>
    exact h.of_set ht hs (by rintro t' i ⟨⟩) (hd ▸ h.released ht hx hsame false)

end Linked

theorem linked_run {x : Client} (hx : x.Counted) (depots : List Depot)
    (ops : List (Operation Empty)) :
    Linked (Scene.run Client.driver Empty.elim (.initial x depots) ops).world := by
  refine Scene.run_induction (P := fun _ s => Linked s.world) Client.driver Empty.elim _ ?_ ?_ ops
  · refine ⟨hx, ?_⟩
    intro n t i ht
    simp [Scene.initial, World.session?] at ht
  · intro ops o h
    exact h.change (Scene.change_step Client.driver Empty.elim _ o)

end UnitOfWork.Sqlite
