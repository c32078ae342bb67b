import UnitOfWork.Postgres.Client
import UnitOfWork.Proofs.Pool
import UnitOfWork.Proofs.Row

/-!
Transaction blocks of a PostgreSQL server, and what a client makes of them.
-/
namespace UnitOfWork.Postgres

inductive Block where
  | none
  | opened
  | aborted
deriving DecidableEq

structure Standing where
  block : Block
  committed : Nat
  discarded : Nat
deriving DecidableEq

namespace Standing

def fail (s : Standing) : Standing :=
  match s.block with
  | .opened => { s with block := .aborted }
  | _ => s

def commit (s : Standing) : Standing :=
  match s.block with
  | .none => s
  | .opened => ⟨.none, s.committed + 1, s.discarded⟩
  | .aborted => ⟨.none, s.committed, s.discarded + 1⟩

def rollback (s : Standing) : Standing :=
  match s.block with
  | .none => s
  | _ => ⟨.none, s.committed, s.discarded + 1⟩

def commitTag (s : Standing) : String := if s.block = .aborted then "ROLLBACK" else "COMMIT"

end Standing

/-- The rules by which a server keeps the transaction blocks of its connections. -/
structure BlockRules {σ : Type} (S : Server σ) where
  standing : σ → Nat → Standing
  controls : String → Prop
  simple_other : ∀ s i sql j, j ≠ i → standing (S.simple s i sql).2 j = standing s j
  prepare_other : ∀ s i sql j, j ≠ i → standing (S.prepare s i sql).2 j = standing s j
  execute_other : ∀ s i cells j, j ≠ i → standing (S.execute s i cells).2 j = standing s j
  begin_ok : ∀ s i tag, (S.simple s i "BEGIN").1 = .ok tag →
    (standing (S.simple s i "BEGIN").2 i).block = .opened
  commit_ok : ∀ s i tag, (S.simple s i "COMMIT").1 = .ok tag →
    tag = (standing s i).commitTag ∧
      standing (S.simple s i "COMMIT").2 i = (standing s i).commit
  commit_error : ∀ s i f, (S.simple s i "COMMIT").1 = .error f →
    (standing s i).block ≠ .aborted ∧
      (standing (S.simple s i "COMMIT").2 i).committed = (standing s i).committed
  rollback_committed : ∀ s i,
    (standing (S.simple s i "ROLLBACK").2 i).committed = (standing s i).committed
  rollback_none : ∀ s i, (standing s i).block = .none →
    standing (S.simple s i "ROLLBACK").2 i = standing s i
  prepare_ok : ∀ s i sql d, (S.prepare s i sql).1 = .ok d →
    standing (S.prepare s i sql).2 i = standing s i
  prepare_error : ∀ s i sql f, (S.prepare s i sql).1 = .error f →
    (∃ code detail, f = .server code detail) ∧
      standing (S.prepare s i sql).2 i = (standing s i).fail
  execute_ok : ∀ s i sql d cells e, ¬ controls sql → (S.prepare s i sql).1 = .ok d →
    (S.execute (S.prepare s i sql).2 i cells).1 = .ok e →
    standing (S.execute (S.prepare s i sql).2 i cells).2 i = standing s i
  execute_error : ∀ s i sql d cells f, ¬ controls sql → (S.prepare s i sql).1 = .ok d →
    (S.execute (S.prepare s i sql).2 i cells).1 = .error f →
    (∃ code detail, f = .server code detail) ∧
      standing (S.execute (S.prepare s i sql).2 i cells).2 i = (standing s i).fail

def IsRefusal (e : Failure) : Prop := ∃ code detail, e = .postgres (.server code detail)

theorem Client.sourceOf_error {columns : List ColumnType} {cells : List Cell} {i : Nat}
    {e : Failure} (h : (sourceOf columns cells).capture i = .error e) :
    e = .postgres (.decoding i) := by
  simp only [sourceOf] at h
  split at h
  · cases h
  · cases h
    rfl

theorem not_isRefusal_of_readWithin (columns : List ColumnType) (names : List String)
    (limit : Option Nat) (taken : Nat) (rows : List (List Cell)) {e : Failure}
    (he : readWithin names limit taken
      (rows.map fun cells => .ok (Client.sourceOf columns cells)) = .error e) : ¬ IsRefusal e := by
  refine error_of_readWithin (P := fun e => ¬ IsRefusal e) ?_ ?_ he
  · rintro width expected ⟨code, detail, hr⟩
    cases hr
  · intro found hfound
    obtain ⟨cells, -, rfl⟩ := List.mem_map.mp hfound
    rintro i e hc ⟨code, detail, rfl⟩
    cases Client.sourceOf_error hc

namespace Client

variable {σ : Type} {S : Server σ} (R : BlockRules S)

def Spares (c c' : Client σ) (x : Nat) : Prop :=
  c'.pool.Orderly ∧ ∀ j, j ≠ x → c.pool.Busy j →
    c'.pool.Busy j ∧ R.standing c'.server j = R.standing c.server j

variable {R}

theorem Spares.trans {c c' c'' : Client σ} {x : Nat} (h : Spares R c c' x)
    (h' : Spares R c' c'' x) : Spares R c c'' x := by
  refine ⟨h'.1, fun j hj hb => ?_⟩
  obtain ⟨hb', hs⟩ := h.2 j hj hb
  obtain ⟨hb'', hs'⟩ := h'.2 j hj hb'
  exact ⟨hb'', hs'.trans hs⟩

theorem Spares.of_pool {c c' : Client σ} {x : Nat} (h : c.pool.Orderly)
    (hi : c'.pool.idle = c.pool.idle) (hn : c'.pool.size = c.pool.size)
    (hs : ∀ j, j ≠ x → R.standing c'.server j = R.standing c.server j) : Spares R c c' x := by
  refine ⟨⟨?_, ?_⟩, fun j hj hb => ⟨?_, hs j hj⟩⟩
  · rw [hi]
    exact h.nodup
  · rw [hi, hn]
    exact h.known
  · rw [Pool.Busy, hi, hn]
    exact hb

variable (R)

structure Performed (c c' : Client σ) (x : Nat) (refused : Prop) : Prop where
  pool : c'.pool = c.pool
  other : ∀ j, j ≠ x → R.standing c'.server j = R.standing c.server j
  failed : refused → R.standing c'.server x = (R.standing c.server x).fail
  kept : ¬ refused → R.standing c'.server x = R.standing c.server x

variable {R} in
theorem Performed.of_iff {c c' : Client σ} {x : Nat} {p q : Prop} (h : Performed R c c' x p)
    (hpq : q ↔ p) : Performed R c c' x q :=
  ⟨h.pool, h.other, fun hq => h.failed (hpq.mp hq), fun hq => h.kept fun hp => hq (hpq.mpr hp)⟩

theorem encodeAll_error (i : Nat) (types : List ColumnType) (vs : List Value) {f : Fault}
    (h : encodeAll i types vs = .error f) : ∃ j, f = .encoding j := by
  induction types generalizing i vs with
  | nil => cases h
  | cons type types ih =>
    cases vs with
    | nil => cases h
    | cons v vs =>
      rw [encodeAll] at h
      split at h
      · cases h
        exact ⟨i, rfl⟩
      · split at h
        · cases h
          exact ih (i + 1) vs ‹_›
        · cases h

theorem perform_spec (c : Client σ) (x : Nat) (st : Statement) (h : ¬ R.controls st.sql) :
    Performed R c (c.perform S x st).2 x
      (∃ code detail, (c.perform S x st).1 = .error (.server code detail)) := by
  unfold perform
  have hother := R.prepare_other c.server x st.sql
  cases hp : S.prepare c.server x st.sql with
  | mk r s =>
    rw [hp] at hother
    cases r with
    | error f =>
      obtain ⟨⟨code, detail, rfl⟩, hs⟩ := R.prepare_error c.server x st.sql f (by rw [hp])
      rw [hp] at hs
      exact ⟨rfl, hother, fun _ => hs, fun hn => absurd ⟨code, detail, rfl⟩ hn⟩
    | ok d =>
      have hs := R.prepare_ok c.server x st.sql d (by rw [hp])
      rw [hp] at hs
      dsimp only
      split
      · refine ⟨rfl, hother, ?_, fun _ => hs⟩
        rintro ⟨code, detail, hr⟩
        cases hr
      · cases he : encodeAll 0 d.parameters st.args with
        | error f =>
          obtain ⟨j, rfl⟩ := encodeAll_error 0 _ _ he
          refine ⟨rfl, hother, ?_, fun _ => hs⟩
          rintro ⟨code, detail, hr⟩
          cases hr
        | ok cells =>
          have hother' : ∀ j, j ≠ x → R.standing (S.execute s x cells).2 j =
              R.standing c.server j := fun j hj =>
            (R.execute_other s x cells j hj).trans (hother j hj)
          cases hx : (S.execute s x cells).1 with
          | error f =>
            have hf := R.execute_error c.server x st.sql d cells f h (by rw [hp])
            rw [hp] at hf
            obtain ⟨⟨code, detail, rfl⟩, hs'⟩ := hf hx
            refine ⟨rfl, hother', fun _ => hs', fun hn => absurd ⟨code, detail, ?_⟩ hn⟩
            simp [hx, Except.map]
          | ok e =>
            have hok := R.execute_ok c.server x st.sql d cells e h (by rw [hp])
            rw [hp] at hok
            refine ⟨rfl, hother', ?_, fun _ => hok hx⟩
            rintro ⟨code, detail, hr⟩
            simp [hx, Except.map] at hr

theorem fetch_refused_iff (c : Client σ) (x : Nat) (st : Statement) (names : List String)
    (limit : Option Nat) : (∃ e, (c.fetch S x st names limit).1 = .error e ∧ IsRefusal e) ↔
      ∃ code detail, (c.perform S x st).1 = .error (.server code detail) := by
  unfold fetch
  cases hp : c.perform S x st with
  | mk r c' =>
    cases r with
    | error f =>
      constructor
      · rintro ⟨e, he, code, detail, rfl⟩
        cases he
        exact ⟨code, detail, rfl⟩
      · rintro ⟨code, detail, hr⟩
        cases hr
        exact ⟨_, rfl, code, detail, rfl⟩
    | ok p =>
      constructor
      · rintro ⟨e, he, hr⟩
        exact absurd hr (not_isRefusal_of_readWithin p.1 names limit 0 p.2.rows he)
      · rintro ⟨code, detail, hr⟩
        cases hr

theorem fetch_client (c : Client σ) (x : Nat) (st : Statement) (names : List String)
    (limit : Option Nat) : (c.fetch S x st names limit).2 = (c.perform S x st).2 := by
  unfold fetch
  cases c.perform S x st with
  | mk r c' => cases r <;> rfl

theorem map_refused_iff {α β : Type} (r : Except Failure α) (f : α → β) :
    (∃ e, r.map f = .error e ∧ IsRefusal e) ↔ ∃ e, r = .error e ∧ IsRefusal e := by
  cases r <;> simp [Except.map]

theorem run_client (c : Client σ) (x : Nat) (call : Call) (st : Statement) :
    (c.run S x call st).2 = (c.perform S x st).2 := by
  cases call with
  | first names => exact fetch_client c x st names (some 1)
  | every names => exact fetch_client c x st names none
  | affected => rfl

theorem run_refused_iff (c : Client σ) (x : Nat) (call : Call) (st : Statement) :
    (∃ e, (c.run S x call st).1 = .error e ∧ IsRefusal e) ↔
      ∃ code detail, (c.perform S x st).1 = .error (.server code detail) := by
  cases call with
  | first names => exact (map_refused_iff _ _).trans (fetch_refused_iff c x st names (some 1))
  | every names => exact fetch_refused_iff c x st names none
  | affected =>
    simp only [run]
    cases (c.perform S x st).1 with
    | error f =>
      constructor
      · rintro ⟨e, he, code, detail, rfl⟩
        cases he
        exact ⟨code, detail, rfl⟩
      · rintro ⟨code, detail, hf⟩
        cases hf
        exact ⟨_, rfl, code, detail, rfl⟩
    | ok e =>
      constructor
      · rintro ⟨f, hf, -⟩
        cases hf
      · rintro ⟨code, detail, hf⟩
        cases hf

theorem run_spec (c : Client σ) (x : Nat) (call : Call) (st : Statement)
    (h : ¬ R.controls st.sql) :
    Performed R c (c.run S x call st).2 x
      (∃ e, (c.run S x call st).1 = .error e ∧ IsRefusal e) := by
  rw [run_client]
  exact (perform_spec R c x st h).of_iff (run_refused_iff c x call st)

variable {R}

theorem finish_server (c : Client σ) (x : Nat) (sql action : String) :
    (c.finish S x sql action).2.server = (S.simple c.server x sql).2 := by
  simp only [finish, simple]
  cases (S.simple c.server x sql).1 <;> rfl

theorem finish_pool (c : Client σ) (x : Nat) (sql action : String) :
    (c.finish S x sql action).2.pool.idle = c.pool.idle ∧
      (c.finish S x sql action).2.pool.size = c.pool.size := by
  simp only [finish, simple]
  cases (S.simple c.server x sql).1 <;> exact ⟨rfl, rfl⟩

theorem finish_ok_iff (c : Client σ) (x : Nat) (sql action : String) :
    (c.finish S x sql action).1 = .ok () ↔ ∃ tag, (S.simple c.server x sql).1 = .ok tag := by
  simp only [finish, simple]
  cases (S.simple c.server x sql).1 <;> simp

theorem spares_finish {c : Client σ} (h : c.pool.Orderly) (x : Nat) (sql action : String) :
    Spares R c (c.finish S x sql action).2 x := by
  obtain ⟨hi, hn⟩ := finish_pool (S := S) c x sql action
  refine .of_pool h hi hn fun j hj => ?_
  rw [finish_server]
  exact R.simple_other _ _ _ _ hj

theorem spares_rollback {c : Client σ} (h : c.pool.Orderly) (x : Nat) :
    Spares R c (c.rollback S x).2 x :=
  (spares_finish h x "ROLLBACK" "rollback").trans
    (.of_pool (spares_finish (R := R) h x "ROLLBACK" "rollback").1 rfl rfl fun _ _ => rfl)

theorem busy_finish (c : Client σ) (x : Nat) (sql action : String) (j : Nat) :
    (c.finish S x sql action).2.pool.Busy j ↔ c.pool.Busy j := by
  obtain ⟨hi, hn⟩ := finish_pool (S := S) c x sql action
  rw [Pool.Busy, hi, hn]
  rfl

theorem spares_commit {c : Client σ} (h : c.pool.Orderly) (x : Nat) :
    Spares R c (c.commit S x).2 x := spares_finish h x "COMMIT" "commit"

theorem busy_commit (c : Client σ) (x j : Nat) :
    (c.commit S x).2.pool.Busy j ↔ c.pool.Busy j := busy_finish c x "COMMIT" "commit" j

theorem busy_rollback (c : Client σ) (x j : Nat) :
    (c.rollback S x).2.pool.Busy j ↔ c.pool.Busy j :=
  busy_finish c x "ROLLBACK" "rollback" j

theorem release_server (c : Client σ) (x : Nat) (runtime : Bool) :
    (c.release S x runtime).2.server = c.server ∨
      (c.release S x runtime).2.server = (S.simple c.server x "ROLLBACK").2 := by
  unfold release
  split
  · exact .inr rfl
  · exact .inl rfl

theorem spares_release {c : Client σ} (h : c.pool.Orderly) {x : Nat} (hx : c.pool.Busy x)
    (runtime : Bool) : Spares R c (c.release S x runtime).2 x := by
  obtain ⟨ho, hb⟩ := Pool.Orderly.giveBack (p := c.pool.settled x) ⟨h.nodup, h.known⟩ hx
  unfold release
  split
  · exact ⟨ho, fun j hj hbusy => ⟨hb j hj hbusy, R.simple_other _ _ _ _ hj⟩⟩
  · exact ⟨ho, fun j hj hbusy => ⟨hb j hj hbusy, rfl⟩⟩

theorem beginOn_spec {c : Client σ} {x : Nat} (h : c.pool.Orderly) (hx : c.pool.Busy x) :
    Spares R c (c.beginOn S x).2 x ∧ ∀ y, (c.beginOn S x).1 = .ok y →
      y = x ∧ (c.beginOn S x).2.pool.Busy x ∧
        (R.standing (c.beginOn S x).2.server x).block = .opened := by
  have hother := R.simple_other c.server x "BEGIN"
  have hb := R.begin_ok c.server x
  unfold beginOn simple
  cases hs : S.simple c.server x "BEGIN" with
  | mk r s =>
    rw [hs] at hother hb
    cases r with
    | ok tag =>
      refine ⟨.of_pool h rfl rfl hother, ?_⟩
      rintro y ⟨⟩
      exact ⟨rfl, hx, hb tag rfl⟩
    | error f =>
      obtain ⟨ho, hg⟩ := h.giveBack hx
      exact ⟨⟨ho, fun j hj hbusy => ⟨hg j hj hbusy, hother j hj⟩⟩, fun y hy => nomatch hy⟩

theorem begin_spec {c : Client σ} (h : c.pool.Orderly) :
    (c.begin S).2.2.pool.Orderly ∧
      (∀ j, c.pool.Busy j → (c.begin S).2.2.pool.Busy j ∧
        R.standing (c.begin S).2.2.server j = R.standing c.server j) ∧
      ∀ x, (c.begin S).1 = .ok x → ¬ c.pool.Busy x ∧ (c.begin S).2.2.pool.Busy x ∧
        (R.standing (c.begin S).2.2.server x).block = .opened := by
  have taken (i : Nat) (p : Pool) (hp : p.Orderly ∧ ¬ c.pool.Busy i ∧ p.Busy i ∧
      ∀ j, c.pool.Busy j → p.Busy j) :
      ({ c with pool := p }.beginOn S i).2.pool.Orderly ∧
        (∀ j, c.pool.Busy j → ({ c with pool := p }.beginOn S i).2.pool.Busy j ∧
          R.standing ({ c with pool := p }.beginOn S i).2.server j = R.standing c.server j) ∧
        ∀ x, ({ c with pool := p }.beginOn S i).1 = .ok x → ¬ c.pool.Busy x ∧
          ({ c with pool := p }.beginOn S i).2.pool.Busy x ∧
          (R.standing ({ c with pool := p }.beginOn S i).2.server x).block = .opened := by
    obtain ⟨ho, hfree, hbusy, hkept⟩ := hp
    obtain ⟨hs, hok⟩ := beginOn_spec (R := R) (c := { c with pool := p }) ho hbusy
    refine ⟨hs.1, fun j hj => ?_, fun x hx => ?_⟩
    · refine hs.2 j ?_ (hkept j hj)
      rintro rfl
      exact hfree hj
    · obtain ⟨rfl, hb, hblock⟩ := hok x hx
      exact ⟨hfree, hb, hblock⟩
  unfold begin
  cases ht : c.pool.take with
  | closed => exact ⟨h, fun j hj => ⟨hj, rfl⟩, fun x hx => nomatch hx⟩
  | exhausted => exact ⟨h, fun j hj => ⟨hj, rfl⟩, fun x hx => nomatch hx⟩
  | waiting i p => exact taken i p (h.take_waiting ht)
  | fresh i p => exact taken i p (h.take_fresh ht)

theorem close_spec (c : Client σ) :
    c.pool.close.Orderly ∧ ∀ j, c.pool.Busy j → c.pool.close.Busy j := by
  refine ⟨⟨List.nodup_nil, ?_⟩, fun j hj => ⟨hj.1, ?_⟩⟩
  · intro i hi
    cases hi
  · intro hm
    cases hm

end Client

def Ledger : Type := Nat → Standing

namespace Ledger

def initial : Ledger := fun _ => ⟨.none, 0, 0⟩

def set (s : Ledger) (i : Nat) (x : Standing) : Ledger := fun j => if j = i then x else s j

def inAborted : Fault := .server "25P02" "current transaction is aborted"

def simple (s : Ledger) (i : Nat) (sql : String) : Except Fault String × Ledger :=
  if sql = "BEGIN" then
    if (s i).block = .aborted then (.error inAborted, s)
    else (.ok "BEGIN", s.set i { s i with block := .opened })
  else if sql = "COMMIT" then (.ok (s i).commitTag, s.set i (s i).commit)
  else if sql = "ROLLBACK" then (.ok "ROLLBACK", s.set i (s i).rollback)
  else (.ok sql, s)

variable (refuses : String → Bool)

def prepare (s : Ledger) (i : Nat) (sql : String) : Except Fault Described × Ledger :=
  if (s i).block = .aborted then (.error inAborted, s)
  else if refuses sql then (.error (.server "42601" "syntax error"), s.set i (s i).fail)
  else (.ok ⟨[], []⟩, s)

def server : Server Ledger where
  simple := simple
  prepare := prepare refuses
  execute s _ _ := (.ok ⟨[], "SELECT 0"⟩, s)

theorem set_self (s : Ledger) (i : Nat) (x : Standing) : s.set i x i = x := if_pos rfl

theorem set_other (s : Ledger) {i j : Nat} (h : j ≠ i) (x : Standing) : s.set i x j = s j :=
  if_neg h

theorem begin_eq (s : Ledger) (i : Nat) : simple s i "BEGIN" =
    if (s i).block = .aborted then (.error inAborted, s)
    else (.ok "BEGIN", s.set i { s i with block := .opened }) := if_pos rfl

theorem commit_eq (s : Ledger) (i : Nat) :
    simple s i "COMMIT" = (.ok (s i).commitTag, s.set i (s i).commit) := by
  simp [simple]

theorem rollback_eq (s : Ledger) (i : Nat) :
    simple s i "ROLLBACK" = (.ok "ROLLBACK", s.set i (s i).rollback) := by
  simp [simple]

def rules : BlockRules (server refuses) where
  standing s := s
  controls sql := sql = "BEGIN" ∨ sql = "COMMIT" ∨ sql = "ROLLBACK"
  simple_other s i sql j h := by
    simp only [server, simple]
    split
    · split
      · rfl
      · exact set_other s h _
    · split
      · exact set_other s h _
      · split
        · exact set_other s h _
        · rfl
  prepare_other s i sql j h := by
    simp only [server, prepare]
    split
    · rfl
    · split
      · exact set_other s h _
      · rfl
  execute_other _ _ _ _ _ := rfl
  begin_ok s i tag h := by
    simp only [server, begin_eq] at h ⊢
    split
    · rw [if_pos ‹_›] at h
      cases h
    · simp [set_self]
  commit_ok s i tag h := by
    simp only [server, commit_eq] at h ⊢
    cases h
    exact ⟨rfl, set_self ..⟩
  commit_error s i f h := by
    simp only [server, commit_eq] at h
    cases h
  rollback_committed s i := by
    simp only [server, rollback_eq, set_self]
    cases hb : (s i).block <;> simp [Standing.rollback, hb]
  rollback_none s i h := by
    simp only [server, rollback_eq, set_self, Standing.rollback, h]
  prepare_ok s i sql d h := by
    simp only [server, prepare] at h ⊢
    split
    · rfl
    · rename_i ha
      rw [if_neg ha] at h
      split
      · rw [if_pos ‹_›] at h
        cases h
      · rfl
  prepare_error s i sql f h := by
    simp only [server, prepare] at h ⊢
    split
    · rename_i ha
      rw [if_pos ha] at h
      cases h
      exact ⟨⟨_, _, rfl⟩, by simp [Standing.fail, ha]⟩
    · rename_i ha
      rw [if_neg ha] at h
      split
      · rw [if_pos ‹_›] at h
        cases h
        exact ⟨⟨_, _, rfl⟩, set_self ..⟩
      · rw [if_neg ‹_›] at h
        cases h
  execute_ok s i sql d cells e hc hp he := by
    simp only [server, prepare] at hp ⊢
    split
    · rfl
    · rename_i ha
      rw [if_neg ha] at hp
      split
      · rw [if_pos ‹_›] at hp
        cases hp
      · rfl
  execute_error s i sql d cells f hc hp he := by
    simp only [server] at he
    cases he

end Ledger
end UnitOfWork.Postgres
