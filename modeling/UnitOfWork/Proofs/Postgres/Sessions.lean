import UnitOfWork.Proofs.Failure
import UnitOfWork.Proofs.Postgres.Blocks
import UnitOfWork.Proofs.Scene.Sound
import UnitOfWork.Proofs.Timeline

namespace UnitOfWork

namespace Postgres

def OfRefusal (e : Failure) : Prop := ∃ sql cause, e = .statement sql cause ∧ IsRefusal cause

theorem not_ofRefusal_of_answer {sql : String} {q : Request} {f : q.call.Result} {e : Failure}
    (h : q.answer sql f = .error e) : ¬ OfRefusal e := by
  rintro ⟨_, _, rfl, _, _, rfl⟩
  cases Request.answer_error h

variable {σ : Type} {S : Server σ}

def Refused (S : Server σ) (w : World (Client σ) Nat) (i : Nat) (q : Request) : Prop :=
  ∃ t e, w.session? i = some t ∧ (w.ask (Client.driver S) t q).1 = .error e ∧ OfRefusal e

theorem not_refused {w : World (Client σ) Nat} {i : Nat} {t : Session Nat} {q : Request}
    (ht : w.session? i = some t) {e : Failure} (h : (w.ask (Client.driver S) t q).1 = .error e)
    (he : ¬ OfRefusal e) : ¬ Refused S w i q := by
  rintro ⟨t', e', ht', he', hr⟩
  rw [ht] at ht'
  cases ht'
  rw [h] at he'
  cases he'
  exact he hr

theorem refused_iff {w : World (Client σ) Nat} {i : Nat} {t : Session Nat} {q : Request}
    (ht : w.session? i = some t) {sql : String} {r : Except Failure q.call.Result}
    (h : (w.ask (Client.driver S) t q).1 =
      (r.mapError (.statement sql)).bind (Request.answer sql q)) :
    Refused S w i q ↔ ∃ e, r = .error e ∧ IsRefusal e := by
  cases r with
  | error e =>
    constructor
    · rintro ⟨t', e', ht', he', sql', cause, rfl, hc⟩
      rw [ht] at ht'
      cases ht'
      rw [h] at he'
      cases he'
      exact ⟨e, rfl, hc⟩
    · rintro ⟨e', he, hc⟩
      cases he
      exact ⟨t, _, ht, h, sql, e, rfl, hc⟩
  | ok f =>
    constructor
    · rintro ⟨t', e, ht', he, hr⟩
      rw [ht] at ht'
      cases ht'
      rw [h] at he
      exact absurd hr (not_ofRefusal_of_answer he)
    · rintro ⟨e, he, -⟩
      cases he

theorem ask_ended {w : World (Client σ) Nat} {i : Nat} {t : Session Nat}
    (ht : w.session? i = some t) (hx : t.transaction = none) (q : Request) :
    (w.ask (Client.driver S) t q).2.sessions = w.sessions ∧
      (w.ask (Client.driver S) t q).2.databases = w.databases ∧ ¬ Refused S w i q := by
  cases hst : q.statement t.dialect with
  | error e =>
    have hask := World.ask_unstated (Client.driver S) w t q hst
    obtain ⟨detail, rfl⟩ := Request.statement_error hst
    rw [hask]
    refine ⟨rfl, rfl, not_refused ht (by rw [hask]) ?_⟩
    rintro ⟨_, _, hr, -⟩
    cases hr
  | ok st =>
    obtain ⟨hr, hs, hd⟩ := World.ask_ended (Client.driver S) w t q hst hx
    refine ⟨hs, hd, not_refused ht hr ?_⟩
    rintro ⟨_, _, he, -⟩
    cases he

theorem ask_performed (R : BlockRules S) {w : World (Client σ) Nat} {i : Nat} {t : Session Nat}
    (ht : w.session? i = some t) {x : Nat} (hx : t.transaction = some x) (q : Request)
    (hq : ∀ st, q.statement t.dialect = .ok st → ¬ R.controls st.sql) :
    (w.ask (Client.driver S) t q).2.sessions = w.sessions ∧
      Client.Performed R w.databases (w.ask (Client.driver S) t q).2.databases x
        (Refused S w i q) := by
  have still {w' : World (Client σ) Nat} (hd : w'.databases = w.databases)
      (hn : ¬ Refused S w i q) :
      Client.Performed R w.databases w'.databases x (Refused S w i q) := by
    rw [hd]
    exact ⟨rfl, fun _ _ => rfl, fun hr => absurd hr hn, fun _ => rfl⟩
  cases hst : q.statement t.dialect with
  | error e =>
    have hask := World.ask_unstated (Client.driver S) w t q hst
    obtain ⟨detail, rfl⟩ := Request.statement_error hst
    rw [hask]
    refine ⟨rfl, still rfl (not_refused ht (by rw [hask]) ?_)⟩
    rintro ⟨_, _, hr, -⟩
    cases hr
  | ok st =>
    cases hg : (w.timeline.guarded t.token t.deadline 0).1 with
    | error e =>
      obtain ⟨hr, hs, hd, -⟩ := World.ask_refused (Client.driver S) w t q hst hx hg
      refine ⟨hs, still hd (not_refused ht hr ?_)⟩
      rintro ⟨_, _, he, _, _, rfl⟩
      cases he
      cases Timeline.guarded_halts hg
    | ok =>
      obtain ⟨hr, hs, hd, -⟩ := World.ask_allowed (Client.driver S) w t q hst hx hg
      refine ⟨hs, ?_⟩
      rw [hd]
      exact (Client.run_spec R w.databases x q.call st (hq st hst)).of_iff (refused_iff ht hr)

end Postgres

namespace World

variable {δ τ : Type} {w w' : World δ τ}

def held (w : World δ τ) (i : Nat) : Option τ := (w.session? i).bind Session.transaction

theorem held_of_session? {i : Nat} {t : Session τ} (ht : w.session? i = some t) :
    w.held i = t.transaction := by
  rw [held, ht]
  rfl

theorem held_of_eq (h : w'.sessions = w.sessions) : w'.held = w.held := by
  funext i
  rw [held, session?_of_eq h]
  rfl

theorem held_of_set {i : Nat} {t : Session τ} {s : Option (Session τ)}
    (ht : w.session? i = some t) (h : w'.sessions = w.sessions.set i s) :
    w'.held = Function.update w.held i (s.bind Session.transaction) := by
  funext j
  rw [held, session?_of_set h (lt_of_session? ht), Function.update_apply]
  by_cases hj : j = i
  · rw [if_pos hj.symm, if_pos hj]
  · rw [if_neg (Ne.symm hj), if_neg hj]
    rfl

theorem held_of_append {s : Session τ} (h : w'.sessions = w.sessions ++ [some s]) :
    w'.held = Function.update w.held w.sessions.length s.transaction := by
  funext j
  rw [held, session?_of_append h, Function.update_apply]
  split <;> rfl

theorem held_of_same {i : Nat} {t t' : Session τ} (ht : w.session? i = some t)
    (h : w'.sessions = w.sessions.set i (some t')) (hx : t'.transaction = t.transaction) :
    w'.held = w.held := by
  rw [held_of_set ht h]
  exact Function.update_eq_self_iff.mpr (by rw [held_of_session? ht]; exact hx)

end World

namespace Postgres

variable {σ : Type} {S : Server σ} {R : BlockRules S}

structure Sited (R : BlockRules S) (failed : Nat → Prop) (held : Nat → Option Nat)
    (c : Client σ) : Prop where
  orderly : c.pool.Orderly
  busy : ∀ i x, held i = some x → c.pool.Busy x
  distinct : ∀ i j x, held i = some x → held j = some x → i = j
  aborted : ∀ i x, held i = some x → failed i → (R.standing c.server x).block = .aborted
  opened : ∀ i x, held i = some x → ¬ failed i → (R.standing c.server x).block = .opened

namespace Sited

variable {failed failed' : Nat → Prop} {held : Nat → Option Nat} {c c' : Client σ}

theorem of_iff (h : Sited R failed held c) (hf : ∀ i, failed' i ↔ failed i) :
    Sited R failed' held c :=
  ⟨h.orderly, h.busy, h.distinct, fun i x hx hi => h.aborted i x hx ((hf i).mp hi),
    fun i x hx hi => h.opened i x hx fun hfi => hi ((hf i).mpr hfi)⟩

theorem still (h : Sited R failed held c) (ho : c'.pool.Orderly)
    (hk : ∀ j, c.pool.Busy j → c'.pool.Busy j ∧ R.standing c'.server j = R.standing c.server j) :
    Sited R failed held c' := by
  refine ⟨ho, ?_, h.distinct, ?_, ?_⟩ <;> intro i x hx
  · exact (hk x (h.busy i x hx)).1
  · rw [(hk x (h.busy i x hx)).2]
    exact h.aborted i x hx
  · rw [(hk x (h.busy i x hx)).2]
    exact h.opened i x hx

theorem begun (h : Sited R failed held c) {n x : Nat} (hn : ¬ failed n) (ho : c'.pool.Orderly)
    (hk : ∀ j, c.pool.Busy j → c'.pool.Busy j ∧ R.standing c'.server j = R.standing c.server j)
    (hfree : ¬ c.pool.Busy x) (hx : c'.pool.Busy x)
    (hb : (R.standing c'.server x).block = .opened) :
    Sited R failed (Function.update held n (some x)) c' := by
  have hold : ∀ i y, Function.update held n (some x) i = some y →
      (i = n ∧ y = x) ∨ (i ≠ n ∧ held i = some y) := by
    intro i y hy
    rw [Function.update_apply] at hy
    split at hy
    · cases hy
      exact .inl ⟨‹_›, rfl⟩
    · exact .inr ⟨‹_›, hy⟩
  refine ⟨ho, ?_, ?_, ?_, ?_⟩
  · intro i y hy
    obtain ⟨rfl, rfl⟩ | ⟨-, hy⟩ := hold i y hy
    · exact hx
    · exact (hk y (h.busy i y hy)).1
  · intro i j y hi hj
    obtain ⟨rfl, rfl⟩ | ⟨-, hi'⟩ := hold i y hi
    · obtain ⟨rfl, -⟩ | ⟨-, hj'⟩ := hold j y hj
      · rfl
      · exact absurd (h.busy j y hj') hfree
    · obtain ⟨rfl, rfl⟩ | ⟨-, hj'⟩ := hold j y hj
      · exact absurd (h.busy i y hi') hfree
      · exact h.distinct i j y hi' hj'
  · intro i y hy hf
    obtain ⟨rfl, rfl⟩ | ⟨-, hy⟩ := hold i y hy
    · exact absurd hf hn
    · rw [(hk y (h.busy i y hy)).2]
      exact h.aborted i y hy hf
  · intro i y hy hf
    obtain ⟨rfl, rfl⟩ | ⟨-, hy⟩ := hold i y hy
    · exact hb
    · rw [(hk y (h.busy i y hy)).2]
      exact h.opened i y hy hf

theorem ended (h : Sited R failed held c) {i x : Nat} (hx : held i = some x)
    (hs : Client.Spares R c c' x) : Sited R failed (Function.update held i none) c' := by
  have hold : ∀ j y, Function.update held i none j = some y → held j = some y ∧ y ≠ x := by
    intro j y hy
    rw [Function.update_apply] at hy
    split at hy
    · cases hy
    · refine ⟨hy, ?_⟩
      rintro rfl
      exact ‹¬ j = i› (h.distinct j i y hy hx)
  have hk : ∀ j y, Function.update held i none j = some y →
      c'.pool.Busy y ∧ R.standing c'.server y = R.standing c.server y := by
    intro j y hy
    obtain ⟨hj, hne⟩ := hold j y hy
    exact hs.2 y hne (h.busy j y hj)
  refine ⟨hs.1, fun j y hy => (hk j y hy).1, ?_, ?_, ?_⟩
  · intro j k y hj hk
    exact h.distinct j k y (hold j y hj).1 (hold k y hk).1
  · intro j y hy hf
    rw [(hk j y hy).2]
    exact h.aborted j y (hold j y hy).1 hf
  · intro j y hy hf
    rw [(hk j y hy).2]
    exact h.opened j y (hold j y hy).1 hf

theorem performed (h : Sited R failed held c) {i x : Nat} (hx : held i = some x) {refused : Prop}
    (hp : Client.Performed R c c' x refused)
    (hf : ∀ j, failed' j ↔ failed j ∨ j = i ∧ refused) : Sited R failed' held c' := by
  have hbusy : ∀ j, c'.pool.Busy j ↔ c.pool.Busy j := by
    intro j
    rw [hp.pool]
  have hother : ∀ j y, j ≠ i → held j = some y →
      R.standing c'.server y = R.standing c.server y ∧ (failed' j ↔ failed j) := by
    intro j y hji hy
    refine ⟨hp.other y ?_, by rw [hf]; simp [hji]⟩
    rintro rfl
    exact hji (h.distinct j i y hy hx)
  refine ⟨by rw [hp.pool]; exact h.orderly, ?_, h.distinct, ?_, ?_⟩
  · intro j y hy
    exact (hbusy y).mpr (h.busy j y hy)
  · intro j y hy hfj
    by_cases hji : j = i
    · subst hji
      rw [hx] at hy
      cases hy
      by_cases hr : refused
      · rw [hp.failed hr]
        by_cases hj : failed j
        · simp [Standing.fail, h.aborted j x hx hj]
        · simp [Standing.fail, h.opened j x hx hj]
      · rw [hp.kept hr]
        obtain hj | ⟨-, hr'⟩ := (hf j).mp hfj
        · exact h.aborted j x hx hj
        · exact absurd hr' hr
    · obtain ⟨hs, hiff⟩ := hother j y hji hy
      rw [hs]
      exact h.aborted j y hy (hiff.mp hfj)
  · intro j y hy hfj
    by_cases hji : j = i
    · subst hji
      rw [hx] at hy
      cases hy
      rw [hp.kept fun hr => hfj ((hf j).mpr (.inr ⟨rfl, hr⟩))]
      exact h.opened j x hx fun hj => hfj ((hf j).mpr (.inl hj))
    · obtain ⟨hs, hiff⟩ := hother j y hji hy
      rw [hs]
      exact h.opened j y hy fun hj => hfj (hiff.mpr hj)

end Sited

def meanwhile {ε : Type} (f : ε → σ → σ) (x : ε) (c : Client σ) : Client σ :=
  { c with server := f x c.server }

variable {ε : Type} {f : ε → σ → σ}

theorem Sited.change {failed : Nat → Prop} {w w' : World (Client σ) Nat} {o : Operation ε}
    (h : Sited R failed w.held w.databases) (hn : ¬ failed w.sessions.length)
    (hf : ∀ x s j, R.standing (f x s) j = R.standing s j)
    (hc : Scene.Change (Client.driver S) (meanwhile f) w w' o) (ho : ∀ i q, o ≠ .ask i q) :
    Sited R failed w'.held w'.databases := by
  have same (hd : w'.databases = w.databases) (hh : w'.held = w.held) :
      Sited R failed w'.held w'.databases := by
    rw [hd, hh]
    exact h
  have ends {i x : Nat} {t : Session Nat} {s : Option (Session Nat)} {c : Client σ}
      {runtime : Bool} (ht : w.session? i = some t) (hx : t.transaction = some x)
      (hs : w'.sessions = w.sessions.set i s) (hnone : s.bind Session.transaction = none)
      (hd : w'.databases = (c.release S x runtime).2) (hc : Client.Spares R w.databases c x)
      (hb : c.pool.Busy x) : Sited R failed w'.held w'.databases := by
    rw [World.held_of_set ht hs, hnone, hd]
    have hheld := (World.held_of_session? ht).trans hx
    exact h.ended hheld (hc.trans (Client.spares_release hc.1 hb runtime))
  have hbusy {i x : Nat} {t : Session Nat} (ht : w.session? i = some t)
      (hx : t.transaction = some x) : w.databases.pool.Busy x :=
    h.busy i x ((World.held_of_session? ht).trans hx)
  cases hc with
  | quiet _ hs hd => exact same hd (World.held_of_eq hs)
  | closed k hs hd =>
    obtain ⟨ho, hb⟩ := Client.close_spec w.databases
    rw [hd, World.held_of_eq hs]
    exact h.still ho fun j hj => ⟨hb j hj, rfl⟩
  | directed x hs hd =>
    rw [hd, World.held_of_eq hs]
    exact h.still h.orderly fun j hj => ⟨hj, hf x _ j⟩
  | denied k c e hb hs hd =>
    obtain ⟨ho, hk, -⟩ := Client.begin_spec (R := R) h.orderly
    rw [hd, World.held_of_eq hs]
    exact h.still ho hk
  | begun k c x database depot context hb hs hd =>
    obtain ⟨ho, hk, hok⟩ := Client.begin_spec (R := R) h.orderly
    obtain ⟨hfree, hx, hblock⟩ := hok x hb
    rw [hd, World.held_of_append hs]
    exact h.begun hn ho hk hfree hx hblock
  | joined k c i t ht ha hs hd => exact same hd (World.held_of_same ht hs rfl)
  | marked i e t ht hs hd => exact same hd (World.held_of_same ht hs rfl)
  | asked i q t x st ht hx hst hs hd => exact absurd rfl (ho i q)
  | left i t ht ha he h1 hs hd => exact same hd (World.held_of_same ht hs rfl)
  | committed i t x ht ha he h1 hx hr hs hd =>
    exact ends ht hx hs rfl hd (Client.spares_commit h.orderly x)
      ((Client.busy_commit _ x x).mpr (hbusy ht hx))
  | commitFailed i t x e ht ha he h1 hx hr hs hd =>
    have hc : Client.Spares R w.databases (w.databases.commit S x).2 x :=
      Client.spares_commit h.orderly x
    exact ends ht hx hs rfl hd (hc.trans (Client.spares_rollback hc.1 x))
      ((Client.busy_rollback _ x x).mpr ((Client.busy_commit _ x x).mpr (hbusy ht hx)))
  | failed i t ht ha h1 hs hd => exact same hd (World.held_of_same ht hs rfl)
  | rolledBack i t x ht ha h1 hx hs hd =>
    exact ends ht hx hs rfl hd (Client.spares_rollback h.orderly x)
      ((Client.busy_rollback _ x x).mpr (hbusy ht hx))
  | dropped i runtime t ht hx hs hd =>
    refine same hd ?_
    rw [World.held_of_set ht hs]
    exact Function.update_eq_self_iff.mpr ((World.held_of_session? ht).trans hx).symm
  | droppedOpen i t x ht hx hs hd =>
    exact ends ht hx hs rfl hd (Client.spares_rollback h.orderly x)
      ((Client.busy_rollback _ x x).mpr (hbusy ht hx))
  | abandoned i t x ht hx hs hd =>
    exact ends ht hx hs rfl hd (.of_pool h.orderly rfl rfl fun _ _ => rfl) (hbusy ht hx)

def Failed (S : Server σ) (direct : ε → Client σ → Client σ) (s : Scene (Client σ) Nat)
    (ops : List (Operation ε)) (i : Nat) : Prop :=
  ∃ before q after, ops = before ++ .ask i q :: after ∧
    Refused S (s.run (Client.driver S) direct before).world i q

theorem failed_snoc {direct : ε → Client σ → Client σ} {s : Scene (Client σ) Nat}
    {ops : List (Operation ε)} {o : Operation ε} {i : Nat} :
    Failed S direct s (ops ++ [o]) i ↔ Failed S direct s ops i ∨
      ∃ q, o = .ask i q ∧ Refused S (s.run (Client.driver S) direct ops).world i q := by
  constructor
  · rintro ⟨before, q, after, he, hr⟩
    obtain rfl | ⟨rest, p, rfl⟩ := List.eq_nil_or_concat after
    · obtain ⟨rfl, hop⟩ := List.append_inj' he rfl
      cases hop
      exact .inr ⟨q, rfl, hr⟩
    · rw [List.concat_eq_append, ← List.cons_append, ← List.append_assoc] at he
      obtain ⟨rfl, -⟩ := List.append_inj' he rfl
      exact .inl ⟨before, q, rest, rfl, hr⟩
  · rintro (⟨before, q, after, rfl, hr⟩ | ⟨q, rfl, hr⟩)
    · exact ⟨before, q, after ++ [o], by simp, hr⟩
    · exact ⟨ops, q, [], rfl, hr⟩

theorem failed_snoc_ask {direct : ε → Client σ → Client σ} {s : Scene (Client σ) Nat}
    {ops : List (Operation ε)} {i j : Nat} {q : Request} :
    Failed S direct s (ops ++ [.ask i q]) j ↔ Failed S direct s ops j ∨
      j = i ∧ Refused S (s.run (Client.driver S) direct ops).world i q := by
  rw [failed_snoc]
  constructor
  · rintro (hj | ⟨_, ⟨⟩, hj⟩)
    · exact .inl hj
    · exact .inr ⟨rfl, hj⟩
  · rintro (hj | ⟨rfl, hj⟩)
    · exact .inl hj
    · exact .inr ⟨q, rfl, hj⟩

theorem failed_snoc_other {direct : ε → Client σ → Client σ} {s : Scene (Client σ) Nat}
    {ops : List (Operation ε)} {o : Operation ε} (ho : ∀ i q, o ≠ .ask i q) {i : Nat} :
    Failed S direct s (ops ++ [o]) i ↔ Failed S direct s ops i := by
  rw [failed_snoc]
  constructor
  · rintro (hi | ⟨q, hq, -⟩)
    · exact hi
    · exact absurd hq (ho i q)
  · exact .inl

def Plain (R : BlockRules S) (ops : List (Operation ε)) : Prop :=
  ∀ i q d st, .ask i q ∈ ops → q.statement d = .ok st → ¬ R.controls st.sql

theorem Sited.ask {w : World (Client σ) Nat} {failed failed' : Nat → Prop}
    (h : Sited R failed w.held w.databases) {i : Nat} {t : Session Nat}
    (ht : w.session? i = some t) {q : Request}
    (hq : ∀ st, q.statement t.dialect = .ok st → ¬ R.controls st.sql)
    (hf : ∀ j, failed' j ↔ failed j ∨ j = i ∧ Refused S w i q) :
    Sited R failed' (w.ask (Client.driver S) t q).2.held
      (w.ask (Client.driver S) t q).2.databases := by
  cases hx : t.transaction with
  | none =>
    obtain ⟨hs, hd, hn⟩ := ask_ended (S := S) ht hx q
    rw [World.held_of_eq hs, hd]
    exact h.of_iff fun j => by rw [hf]; simp [hn]
  | some x =>
    obtain ⟨hs, hp⟩ := ask_performed R ht hx q hq
    rw [World.held_of_eq hs]
    exact h.performed ((World.held_of_session? ht).trans hx) hp hf

theorem sited_run (hf : ∀ x s j, R.standing (f x s) j = R.standing s j) (c : Client σ)
    (hc : c.pool.Orderly) (depots : List Depot) (ops : List (Operation ε)) (hplain : Plain R ops) :
    let s := Scene.initial c depots
    let r := s.run (Client.driver S) (meanwhile f) ops
    Sited R (Failed S (meanwhile f) s ops) r.world.held r.world.databases ∧
      ∀ i, Failed S (meanwhile f) s ops i → i < r.world.sessions.length := by
  intro s r
  refine Scene.run_induction (P := fun ops r => Plain R ops →
    Sited R (Failed S (meanwhile f) s ops) r.world.held r.world.databases ∧
      ∀ i, Failed S (meanwhile f) s ops i → i < r.world.sessions.length)
    (Client.driver S) (meanwhile f) s ?_ ?_ ops hplain
  · intro _
    refine ⟨⟨hc, ?_, ?_, ?_, ?_⟩, ?_⟩
    · intro i x hx
      simp [s, Scene.initial, World.held, World.session?] at hx
    · intro i j x hx
      simp [s, Scene.initial, World.held, World.session?] at hx
    · intro i x hx
      simp [s, Scene.initial, World.held, World.session?] at hx
    · intro i x hx
      simp [s, Scene.initial, World.held, World.session?] at hx
    · rintro i ⟨before, q, after, he, -⟩
      simp at he
  · intro ops o ih hplain
    obtain ⟨hsited, hlt⟩ := ih fun i q d st hm => hplain i q d st (List.mem_append_left _ hm)
    have hchange := Scene.change_step (Client.driver S) (meanwhile f)
      (s.run (Client.driver S) (meanwhile f) ops) o
    generalize hr : s.run (Client.driver S) (meanwhile f) ops = r at *
    have hlen := Scene.length_le_of_change hchange
    constructor
    · by_cases ho : ∃ i q, o = .ask i q
      · obtain ⟨i, q, rfl⟩ := ho
        cases ht : r.world.session? i with
        | none =>
          have hstep : r.step (Client.driver S) (meanwhile f) (.ask i q) = r := by
            simp [Scene.step, Scene.onSession, ht]
          have hn : ¬ Refused S r.world i q := by
            rintro ⟨t, e, ht', -⟩
            rw [ht] at ht'
            cases ht'
          rw [hstep]
          exact hsited.of_iff fun j => by rw [failed_snoc_ask, hr]; simp [hn]
        | some t =>
          have hstep : (r.step (Client.driver S) (meanwhile f) (.ask i q)).world =
              (r.world.ask (Client.driver S) t q).2 := by
            simp [Scene.step, Scene.onSession, ht]
          rw [hstep]
          refine hsited.ask ht (fun st => hplain i q _ st (by simp)) fun j => ?_
          rw [failed_snoc_ask, hr]
      · have hne : ∀ i q, o ≠ .ask i q := fun i q h => ho ⟨i, q, h⟩
        have hnew : ¬ Failed S (meanwhile f) s ops r.world.sessions.length := fun hn =>
          Nat.lt_irrefl _ (hlt _ hn)
        exact (hsited.change hnew hf hchange hne).of_iff fun _ => failed_snoc_other hne
    · intro i hi
      obtain hold | ⟨q, rfl, t, e, ht, -⟩ := failed_snoc.mp hi
      · exact Nat.lt_of_lt_of_le (hlt i hold) hlen
      · rw [hr] at ht
        exact Nat.lt_of_lt_of_le (World.lt_of_session? ht) hlen

end Postgres

end UnitOfWork
