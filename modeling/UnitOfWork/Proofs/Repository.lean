import UnitOfWork.Proofs.Levels
import UnitOfWork.Proofs.Scene.Sound
import UnitOfWork.Stage

namespace UnitOfWork

namespace World

variable {δ τ : Type} (D : Driver δ τ)

def inSession {α : Type} (w : World δ τ) (i : Nat)
    (f : Session τ → Except Failure α × World δ τ) : Except Failure α × World δ τ :=
  match w.session? i with
  | some t => f t
  | none => (.error .transactionClosed, w)

def perform (w : World δ τ) (k : Nat) (depot : Depot) (c : Context) (q : Request) :
    Except Failure Unit × World δ τ :=
  match w.begin D k depot c with
  | (.error e, w) => (.error e, w)
  | (.ok (i, _), w) =>
    match w.inSession i fun t => w.ask D t q with
    | (.ok _, w) => w.inSession i fun t => w.commit D i t
    | (.error e, w) =>
      match w.inSession i fun t => w.rollback D i t with
      | (.ok (), w) => (.error e, w)
      | (.error f, w) => (.error f, w)

variable {D} {w w' : World δ τ} {i : Nat} {t : Session τ}

theorem inSession_of_session? {α : Type} (ht : w.session? i = some t)
    (f : Session τ → Except Failure α × World δ τ) : w.inSession i f = f t := by
  rw [inSession, ht]

theorem ask_of_level (hl : w'.timeline = w.timeline) (hd : w'.databases = w.databases)
    (t : Session τ) (depth : Nat) (q : Request) :
    (w'.ask D { t with depth := depth } q).1 = (w.ask D t q).1 ∧
      (w'.ask D { t with depth := depth } q).2.databases = (w.ask D t q).2.databases := by
  let t' : Session τ := { t with depth := depth }
  cases ask_case D w t q with
  | unstated e hst hr =>
    rw [hr, ask_unstated D w' t' q hst]
    exact ⟨rfl, hd⟩
  | ended st hst hx hr hs hb =>
    obtain ⟨hr', -, hb'⟩ := ask_ended D w' t' q hst hx
    exact ⟨hr'.trans hr.symm, by rw [hb, hb', hd]⟩
  | refused st x e hst hx hg hr hs hb =>
    obtain ⟨hr', -, hb', -⟩ := ask_refused D w' t' q hst hx (by rw [hl, hd]; exact hg)
    exact ⟨hr'.trans hr.symm, by rw [hb, hb', hd]⟩
  | allowed st x hst hx hg hr hs hb =>
    obtain ⟨hr', -, hb', -⟩ := ask_allowed D w' t' q hst hx (by rw [hl, hd]; exact hg)
    exact ⟨by rw [hr, hr', hd], by rw [hb, hb', hd]⟩

variable (D w t) in
inductive Returns (q : Request) : Except Failure Unit → Session τ → Prop where
  | committed {a : Answer} (h : (w.ask D t q).1 = .ok a) (he : t.error = none) :
    Returns q (.ok ()) t
  | failed {e : Failure} (h : (w.ask D t q).1 = .error e) :
    Returns q (.error e) { t with error := some (t.error.getD .rolledBack) }
  | refused {a : Answer} {e : Failure} (h : (w.ask D t q).1 = .ok a) (he : t.error = some e) :
    Returns q (.error (.poisoned e)) { t with depth := t.depth + 1 }

theorem perform_returns (ht : w.session? i = some t) (ha : t.status = .active) (h0 : 0 < t.depth)
    {c : Context} (hc : c.session = some i) (k : Nat) (depot : Depot) (q : Request) :
    ∃ t', (w.perform D k depot c q).2.session? i = some t' ∧
      Returns D w t q (w.perform D k depot c q).1 t' ∧
      (w.perform D k depot c q).2.databases = (w.ask D t q).2.databases := by
  let t₁ : Session τ := { t with depth := t.depth + 1 }
  have h1 : 1 < t₁.depth := Nat.lt_add_of_pos_left h0
  obtain ⟨hjoin, hs₁, hd₁, hl₁⟩ := join_active w i t ht ha
  have ht₁ : (w.join i).2.session? i = some t₁ := session?_of_set_self ht hs₁
  have hbegin : w.begin D k depot c = (.ok (i, c), (w.join i).2) := by
    simp only [begin, hc, hjoin]
    rfl
  obtain ⟨hanswer, hdatabases⟩ := ask_of_level (D := D) hl₁ hd₁ t (t.depth + 1) q
  have hs₂ := ask_sessions D (w.join i).2 t₁ q
  have hperform : w.perform D k depot c q =
      match (w.join i).2.ask D t₁ q with
      | (.ok _, w) => w.inSession i fun t => w.commit D i t
      | (.error e, w) =>
        match w.inSession i fun t => w.rollback D i t with
        | (.ok (), w) => (.error e, w)
        | (.error f, w) => (.error f, w) := by
    simp only [perform, hbegin, inSession_of_session? ht₁]
  rw [hperform, ← hdatabases]
  rcases hask : (w.join i).2.ask D t₁ q with ⟨answer, w₂⟩
  rw [hask] at hs₂ hanswer
  have ht₂ : w₂.session? i = some t₁ := by rw [session?_of_eq hs₂, ht₁]
  cases answer with
  | ok a =>
    simp only [inSession_of_session? ht₂]
    cases he : t.error with
    | none =>
      obtain ⟨hr, hs, hd⟩ := commit_nested D w₂ i t₁ ha he h1
      exact ⟨t, session?_of_set_self ht₂ hs, by rw [hr]; exact .committed hanswer.symm he, hd⟩
    | some e =>
      obtain ⟨hr, hs, hd⟩ := commit_of_error D w₂ i t₁ ha he
      refine ⟨t₁, by rw [session?_of_eq hs, ht₂], ?_, hd⟩
      rw [hr]
      exact .refused hanswer.symm he
  | error e =>
    obtain ⟨hr, hs, hd⟩ := rollback_nested D w₂ i t₁ ha h1
    simp only [inSession_of_session? ht₂]
    rcases hrollback : w₂.rollback D i t₁ with ⟨r, w₃⟩
    rw [hrollback] at hr hs hd
    subst hr
    exact ⟨_, session?_of_set_self ht₂ hs, .failed hanswer.symm, hd⟩

end World

inductive Act (ε : Type) where
  | perform (depot : Nat) (settings : Depot) (context : Context) (request : Request)
  | other (operation : Operation ε)

namespace Scene

variable {δ τ ε : Type} (D : Driver δ τ) (direct : ε → δ → δ)

def act (s : Scene δ τ) : Act ε → Scene δ τ
  | .perform k depot c q => { s with world := (s.world.perform D k depot c q).2 }
  | .other o => step D direct s o

def acts (s : Scene δ τ) (as : List (Act ε)) : Scene δ τ := as.foldl (act D direct) s

/-- Whether an act is a unit of a repository in a session, or no unit of work of this session begins
or ends in it. -/
def Contained (i : Nat) (s : Scene δ τ) : Act ε → Prop
  | .perform _ _ c _ => c.session = some i
  | .other o => joins D i s o = false ∧ o ≠ .commit i ∧ o ≠ .rollback i ∧ ∀ r, o ≠ .drop i r

def Inside (i : Nat) (s : Scene δ τ) : List (Act ε) → Prop
  | [] => True
  | a :: as => Contained D i s a ∧ Inside i (act D direct s a) as

def isRefused (i : Nat) (s : Scene δ τ) : Act ε → Bool
  | .perform _ _ _ q => (s.world.session? i).any fun t => t.isPoisoned && (s.world.ask D t q).1.isOk
  | .other _ => false

def refusals (i : Nat) (s : Scene δ τ) : List (Act ε) → Nat
  | [] => 0
  | a :: as => (isRefused D i s a).toNat + refusals i (act D direct s a) as

def Stands (i depth : Nat) (x : τ) (w : World δ τ) : Prop :=
  ∃ t, w.session? i = some t ∧ t.status = .active ∧ t.depth = depth ∧ t.transaction = some x

variable {D direct} {s : Scene δ τ} {i depth : Nat} {x : τ}

theorem Stands.of_set {w w' : World δ τ} (h : Stands i depth x w) {j : Nat}
    {u : Option (Session τ)} (hs : w'.sessions = w.sessions.set j u) (hj : j ≠ i) :
    Stands i depth x w' := by
  obtain ⟨t, ht, h⟩ := h
  refine ⟨t, ?_, h⟩
  rw [World.session?, hs, List.getElem?_set_ne hj]
  exact ht

theorem Stands.of_eq {w w' : World δ τ} (h : Stands i depth x w)
    (hs : w'.sessions = w.sessions) : Stands i depth x w' := by
  obtain ⟨t, ht, h⟩ := h
  exact ⟨t, by rw [World.session?_of_eq hs, ht], h⟩

theorem Stands.step (h : Stands i depth x s.world) {o : Operation ε}
    (ho : Contained D i s (.other o)) : Stands i depth x (Scene.step D direct s o).world := by
  obtain ⟨hjoins, hcommit, hrollback, hdrop⟩ := ho
  have hchange := change_step D direct s o
  by_cases hbegin : ∃ k c, o = .begin k c
  · obtain ⟨k, c, rfl⟩ := hbegin
    obtain ⟨t, ht, ha, hdepth, hx⟩ := h
    exact ⟨_, begin_level ht ha k c, ha, by simp [hjoins, hdepth], hx⟩
  · cases hchange with
    | quiet _ hs hd => exact h.of_eq hs
    | closed k hs hd => exact h.of_eq hs
    | directed y hs hd => exact h.of_eq hs
    | denied k c e hb hs hd => exact absurd ⟨k, c, rfl⟩ hbegin
    | begun k c y database depot context hb hs hd => exact absurd ⟨k, c, rfl⟩ hbegin
    | joined k c j t ht ha hs hd => exact absurd ⟨k, c, rfl⟩ hbegin
    | marked j e u hu hs hd =>
      by_cases hj : j = i
      · subst hj
        obtain ⟨t, ht, h⟩ := h
        rw [ht] at hu
        cases hu
        exact ⟨_, World.session?_of_set_self ht hs, h⟩
      · exact h.of_set hs hj
    | asked j q t y st ht hx hst hs hd => exact h.of_eq hs
    | left j t ht ha he h1 hs hd => exact h.of_set hs (by rintro rfl; exact hcommit rfl)
    | committed j t y ht ha he h1 hx hc hs hd =>
      exact h.of_set hs (by rintro rfl; exact hcommit rfl)
    | commitFailed j t y e ht ha he h1 hx hc hs hd =>
      exact h.of_set hs (by rintro rfl; exact hcommit rfl)
    | failed j t ht ha h1 hs hd => exact h.of_set hs (by rintro rfl; exact hrollback rfl)
    | rolledBack j t y ht ha h1 hx hs hd => exact h.of_set hs (by rintro rfl; exact hrollback rfl)
    | dropped j r t ht hx hs hd => exact h.of_set hs (by rintro rfl; exact hdrop r rfl)
    | droppedOpen j t y ht hx hs hd => exact h.of_set hs (by rintro rfl; exact hdrop true rfl)
    | abandoned j t y ht hx hs hd => exact h.of_set hs (by rintro rfl; exact hdrop false rfl)

theorem level_of_returns {w : World δ τ} {t t' : Session τ} {q : Request}
    {r : Except Failure Unit} (h : World.Returns D w t q r t') :
    t'.depth = t.depth + (t.isPoisoned && (w.ask D t q).1.isOk).toNat ∧ t'.status = t.status ∧
      t'.transaction = t.transaction := by
  cases h with
  | committed h he => simp [Session.isPoisoned, he]
  | failed h => simp [h, Except.isOk, Except.toBool]
  | refused h he => simp [Session.isPoisoned, h, he, Except.isOk, Except.toBool]

theorem Stands.act (h : Stands i depth x s.world) (h0 : 0 < depth) {a : Act ε}
    (ha : Contained D i s a) :
    Stands i (depth + (isRefused D i s a).toNat) x (Scene.act D direct s a).world := by
  cases a with
  | other o => exact h.step ha
  | perform k depot c q =>
    obtain ⟨t, ht, hactive, hdepth, hx⟩ := h
    obtain ⟨t', ht', hreturns, -⟩ :=
      World.perform_returns (D := D) ht hactive (by omega) ha k depot q
    obtain ⟨hlevel, hstatus, htransaction⟩ := level_of_returns hreturns
    refine ⟨t', ht', hstatus.trans hactive, ?_, htransaction.trans hx⟩
    simp [isRefused, ht, hlevel, hdepth]

theorem Stands.acts (h : Stands i depth x s.world) (h0 : 0 < depth) {as : List (Act ε)}
    (has : Inside D direct i s as) :
    Stands i (depth + refusals D direct i s as) x (Scene.acts D direct s as).world := by
  induction as generalizing s depth with
  | nil => exact h
  | cons a as ih =>
    have hrest := ih (h.act h0 has.1) (by omega) has.2
    rwa [Nat.add_assoc] at hrest

variable (D)

structure Reaches (w : World δ τ) (i : Nat) (t : Session τ) (x : τ) : Prop where
  answer : (w.rollback D i t).1 = (D.rollback w.databases x).1
  databases : (w.rollback D i t).2.databases = (D.release (D.rollback w.databases x).2 x true).2
  session : (w.rollback D i t).2.session? i = some (t.finished .rolledBack)

structure Misses (w : World δ τ) (i : Nat) (t : Session τ) : Prop where
  answer : (w.rollback D i t).1 = .ok ()
  databases : (w.rollback D i t).2.databases = w.databases
  session : ∃ t', (w.rollback D i t).2.session? i = some t' ∧ t'.status = .active

/-- In every run a unit of a repository gives its level back, unless it is answered although a
failure has been recorded. The rollback of the unit around any number of them is the driver's as
long as that has not happened, and no longer. -/
theorem level_given_back_iff (direct : ε → δ → δ) (d : δ) (depots : List Depot)
    (ops : List (Operation ε)) (i : Nat) (t : Session τ)
    (ht : (run D direct (initial d depots) ops).world.session? i = some t)
    (ha : t.status = .active) :
    let s := run D direct (initial d depots) ops
    (∀ k depot c q, c.session = some i →
      ∃ t', (s.world.perform D k depot c q).2.session? i = some t' ∧
        World.Returns D s.world t q (s.world.perform D k depot c q).1 t' ∧
        t'.status = .active ∧
        (t'.depth = t.depth ↔ ¬ (t.isPoisoned ∧ (s.world.ask D t q).1.isOk))) ∧
      (t.depth = 1 → ∀ as, Inside D direct i s as →
        ∃ t' x, (acts D direct s as).world.session? i = some t' ∧ t.transaction = some x ∧
          t'.depth = 1 + refusals D direct i s as ∧
          (refusals D direct i s as = 0 → Reaches D (acts D direct s as).world i t' x) ∧
          (0 < refusals D direct i s as → Misses D (acts D direct s as).world i t')) := by
  intro s
  have hsound := sound_run D direct d depots ops i t ht
  have h0 := hsound.active_iff_depth.mp ha
  refine ⟨?_, ?_⟩
  · intro k depot c q hc
    obtain ⟨t', ht', hreturns, -⟩ := World.perform_returns (D := D) ht ha h0 hc k depot q
    obtain ⟨hlevel, hstatus, -⟩ := level_of_returns hreturns
    refine ⟨t', ht', hreturns, hstatus.trans ha, ?_⟩
    rw [hlevel, ← Bool.and_eq_true]
    cases t.isPoisoned && (s.world.ask D t q).1.isOk <;> simp
  · intro h1 as has
    obtain ⟨x, hx⟩ := hsound.exists_transaction ha
    have hstands : Stands i 1 x s.world := ⟨t, ht, ha, h1, hx⟩
    obtain ⟨t', ht', ha', hdepth, hx'⟩ := hstands.acts Nat.one_pos has
    refine ⟨t', x, ht', hx, hdepth, ?_, ?_⟩
    · intro hnone
      obtain ⟨hr, hs, hd⟩ := World.rollback_outermost D (acts D direct s as).world i t' ha'
        (by omega) hx'
      exact ⟨hr, hd, World.session?_of_set_self ht' hs⟩
    · intro hsome
      obtain ⟨hr, hs, hd⟩ := World.rollback_nested D (acts D direct s as).world i t' ha' (by omega)
      exact ⟨hr, hd, _, World.session?_of_set_self ht' hs, ha'⟩

theorem level_given_back_iff_twice :
    let s := run Recording.driver Stage.Direction.apply
      (initial (.initial .default) [⟨.default, false⟩]) [.begin 0 0]
    let insert : Act Direction :=
      .perform 0 ⟨.default, false⟩ (Context.background.carrying 0) (.exec ⟨"insert", []⟩)
    let fail : Act Direction := .other (.setError 0 (some (.other "refused")))
    let good := acts Recording.driver Stage.Direction.apply s [insert, insert]
    let bad := acts Recording.driver Stage.Direction.apply s [insert, fail, insert]
    (∃ t, good.world.session? 0 = some t ∧ t.depth = 1 ∧
        Reaches Recording.driver good.world 0 t ()) ∧
      ∃ t, bad.world.session? 0 = some t ∧ t.depth = 2 ∧ Misses Recording.driver bad.world 0 t := by
  intro s insert fail good bad
  have hstatus : (s.world.session? 0).map Session.status = some .active := rfl
  have hdepth : (s.world.session? 0).map Session.depth = some 1 := rfl
  obtain ⟨t, ht, ha⟩ := Option.map_eq_some_iff.mp hstatus
  rw [ht] at hdepth
  have h1 : t.depth = 1 := Option.some.inj hdepth
  have hgood : refusals Recording.driver Stage.Direction.apply 0 s [insert, insert] = 0 := by
    decide +kernel
  have hbad : refusals Recording.driver Stage.Direction.apply 0 s [insert, fail, insert] = 1 := by
    decide +kernel
  have hfail : Contained Recording.driver 0 (act Recording.driver Stage.Direction.apply s insert)
      fail := ⟨rfl, nofun, nofun, nofun⟩
  obtain ⟨-, hacts⟩ := level_given_back_iff Recording.driver Stage.Direction.apply
    (.initial .default) [⟨.default, false⟩] [.begin 0 0] 0 t ht ha
  obtain ⟨u, x, hu, -, hdepth, hreaches, -⟩ :=
    hacts h1 [insert, insert] ⟨rfl, rfl, trivial⟩
  obtain ⟨v, -, hv, -, hdepth', -, hmisses⟩ :=
    hacts h1 [insert, fail, insert] ⟨rfl, hfail, rfl, trivial⟩
  rw [hgood] at hdepth
  rw [hbad] at hdepth'
  exact ⟨⟨u, hu, hdepth, hreaches hgood⟩, v, hv, hdepth', hmisses (by rw [hbad]; exact Nat.one_pos)⟩

/-- A nested unit has failed; a unit of a repository is answered, and refused. The level that it
keeps is the one that the rollback of the outermost unit takes: nothing is rolled back. -/
theorem outermost_rollback_missed :
    let s := run Recording.driver Stage.Direction.apply
      (initial (.initial .default) [⟨.default, false⟩]) [.begin 0 0, .begin 0 1, .rollback 0]
    let r := s.world.perform Recording.driver 0 ⟨.default, false⟩
      (Context.background.carrying 0) (.exec ⟨"insert", []⟩)
    let after := step Recording.driver Stage.Direction.apply ⟨r.2, s.contexts⟩ (.rollback 0)
    (s.world.session? 0).map Session.depth = some 1 ∧ r.1 = .error (.poisoned .rolledBack) ∧
      (r.2.session? 0).map Session.depth = some 2 ∧
      (after.world.session? 0).map Session.status = some .active ∧
      after.world.databases.rollbacks = 0 := ⟨rfl, rfl, rfl, rfl, rfl⟩

end Scene

end UnitOfWork
