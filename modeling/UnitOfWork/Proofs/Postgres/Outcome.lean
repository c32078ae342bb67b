import UnitOfWork.Proofs.Postgres.Sessions

namespace UnitOfWork.Postgres

variable {σ ε : Type} {S : Server σ} {R : BlockRules S}

def Reaches (w : World (Client σ) Nat) (t : Session Nat) : Prop :=
  t.error = none ∧ w.timeline.check t.token t.deadline = .ok ()

def SeemsCommitted (w : World (Client σ) Nat) (i : Nat) : Prop :=
  ∃ t, w.session? i = some t ∧ t.status = .committed

structure Honest (R : BlockRules S) (w : World (Client σ) Nat) (i : Nat) (t : Session Nat)
    (x : Nat) : Prop where
  committed : (w.commit (Client.driver S) i t).1 = .ok () →
    SeemsCommitted (w.commit (Client.driver S) i t).2 i →
    (R.standing (w.commit (Client.driver S) i t).2.databases.server x).committed =
      (R.standing w.databases.server x).committed + 1
  discarded : (R.standing w.databases.server x).discarded <
      (R.standing (w.commit (Client.driver S) i t).2.databases.server x).discarded →
    (w.commit (Client.driver S) i t).1 ≠ .ok () ∧
      ¬ SeemsCommitted (w.commit (Client.driver S) i t).2 i

theorem standing_release (c : Client σ) (x : Nat) (h : (R.standing c.server x).block = .none)
    (runtime : Bool) :
    R.standing (c.release S x runtime).2.server x = R.standing c.server x := by
  obtain hs | hs := Client.release_server (S := S) c x runtime
  · rw [hs]
  · rw [hs, R.rollback_none _ _ h]

theorem block_commit (s : Standing) : s.commit.block = .none := by
  obtain ⟨block, committed, discarded⟩ := s
  cases block <;> rfl

variable {w : World (Client σ) Nat} {i x : Nat} {t : Session Nat}

theorem commit_answered (ht : w.session? i = some t) (ha : t.status = .active) (h1 : t.depth = 1)
    (hx : t.transaction = some x) (hr : Reaches w t) {tag : String}
    (hs : (S.simple w.databases.server x "COMMIT").1 = .ok tag) :
    (w.commit (Client.driver S) i t).1 = .ok () ∧
      SeemsCommitted (w.commit (Client.driver S) i t).2 i ∧
      R.standing (w.commit (Client.driver S) i t).2.databases.server x =
        (R.standing w.databases.server x).commit := by
  have hok : ((Client.driver S).commit w.databases x).1 = .ok () :=
    (Client.finish_ok_iff w.databases x "COMMIT" "commit").mpr ⟨tag, hs⟩
  have hserver : ((Client.driver S).commit w.databases x).2.server =
      (S.simple w.databases.server x "COMMIT").2 :=
    Client.finish_server w.databases x "COMMIT" "commit"
  obtain ⟨-, hcommit⟩ := R.commit_ok _ _ _ hs
  rw [World.commit_outermost _ w i t ha hr.1 (by omega) hr.2 hx]
  obtain ⟨ho, hsess, hd⟩ := World.commitTransaction_ok (Client.driver S) w i t x hok
  refine ⟨ho, ⟨_, World.session?_of_set_self ht hsess, rfl⟩, ?_⟩
  rw [← hserver] at hcommit
  rw [hd]
  refine (standing_release _ x ?_ true).trans hcommit
  rw [hcommit, block_commit]

theorem commit_unanswered (ht : w.session? i = some t) (ha : t.status = .active)
    (h1 : t.depth = 1) (hx : t.transaction = some x) (hr : Reaches w t) {f : Fault}
    (hs : (S.simple w.databases.server x "COMMIT").1 = .error f) :
    (w.commit (Client.driver S) i t).1 ≠ .ok () ∧
      ¬ SeemsCommitted (w.commit (Client.driver S) i t).2 i := by
  have herr : ∃ e, ((Client.driver S).commit w.databases x).1 = .error e := by
    cases he : ((Client.driver S).commit w.databases x).1 with
    | error e => exact ⟨e, rfl⟩
    | ok =>
      obtain ⟨tag, htag⟩ := (Client.finish_ok_iff w.databases x "COMMIT" "commit").mp he
      rw [hs] at htag
      cases htag
  obtain ⟨e, he⟩ := herr
  rw [World.commit_outermost _ w i t ha hr.1 (by omega) hr.2 hx]
  obtain ⟨ho, hsess, -⟩ := World.commitTransaction_error (Client.driver S) w i t x he
  refine ⟨by rw [ho]; simp, ?_⟩
  rintro ⟨t', ht', hc⟩
  rw [World.session?_of_set_self ht hsess] at ht'
  cases ht'
  cases hc

theorem commit_unreached (ha : t.status = .active) (h1 : t.depth = 1) (hr : ¬ Reaches w t) :
    (w.commit (Client.driver S) i t).1 ≠ .ok () ∧
      (w.commit (Client.driver S) i t).2.databases = w.databases := by
  cases he : t.error with
  | some e =>
    obtain ⟨ho, -, hd⟩ := World.commit_of_error (Client.driver S) w i t ha he
    exact ⟨by rw [ho]; simp, hd⟩
  | none =>
    cases hc : w.timeline.check t.token t.deadline with
    | ok => exact absurd ⟨he, hc⟩ hr
    | error e =>
      rw [World.commit_refused (Client.driver S) w i t ha he (by omega) hc]
      exact ⟨by simp, rfl⟩

theorem honest_of_unreached (ha : t.status = .active) (h1 : t.depth = 1) (hr : ¬ Reaches w t) :
    Honest R w i t x := by
  obtain ⟨hne, hd⟩ := commit_unreached (S := S) (i := i) ha h1 hr
  constructor
  · intro hok
    exact absurd hok hne
  · intro hlt
    rw [hd] at hlt
    exact absurd hlt (Nat.lt_irrefl _)

theorem honest_of_opened (ht : w.session? i = some t) (ha : t.status = .active)
    (h1 : t.depth = 1) (hx : t.transaction = some x) (hr : Reaches w t)
    (hb : (R.standing w.databases.server x).block = .opened) : Honest R w i t x := by
  cases hs : (S.simple w.databases.server x "COMMIT").1 with
  | ok tag =>
    obtain ⟨-, -, hstanding⟩ := commit_answered (R := R) ht ha h1 hx hr hs
    simp only [Standing.commit, hb] at hstanding
    constructor
    · intro _ _
      rw [hstanding]
    · intro hlt
      rw [hstanding] at hlt
      exact absurd hlt (Nat.lt_irrefl _)
  | error f =>
    have hno := commit_unanswered ht ha h1 hx hr hs
    exact ⟨fun hok => absurd hok hno.1, fun _ => hno⟩

theorem commit_of_aborted (ht : w.session? i = some t) (ha : t.status = .active)
    (h1 : t.depth = 1) (hx : t.transaction = some x) (hr : Reaches w t)
    (hb : (R.standing w.databases.server x).block = .aborted) :
    (S.simple w.databases.server x "COMMIT").1 = .ok "ROLLBACK" ∧
      (w.commit (Client.driver S) i t).1 = .ok () ∧
      SeemsCommitted (w.commit (Client.driver S) i t).2 i ∧
      (R.standing (w.commit (Client.driver S) i t).2.databases.server x).committed =
        (R.standing w.databases.server x).committed ∧
      (R.standing (w.commit (Client.driver S) i t).2.databases.server x).discarded =
        (R.standing w.databases.server x).discarded + 1 := by
  cases hs : (S.simple w.databases.server x "COMMIT").1 with
  | error f => exact absurd hb (R.commit_error _ _ f hs).1
  | ok tag =>
    obtain ⟨rfl, -⟩ := R.commit_ok _ _ tag hs
    obtain ⟨hok, hseems, hstanding⟩ := commit_answered (R := R) ht ha h1 hx hr hs
    simp only [Standing.commit, hb] at hstanding
    refine ⟨by rw [Standing.commitTag, if_pos hb], hok, hseems, ?_, ?_⟩ <;> rw [hstanding]

/-- In every run the outermost commit of a session is told as it has happened, but for one case: a
statement of the session has been refused by the server, and the commit is sent all the same. Then
the server discards the block, and says so by its tag alone. -/
theorem commit_honest_iff (R : BlockRules S) (f : ε → σ → σ)
    (hf : ∀ x s j, R.standing (f x s) j = R.standing s j) (endpoint : Endpoint) (server : σ)
    (limit : Nat) (depots : List Depot) (ops : List (Operation ε)) (hplain : Plain R ops) (i : Nat)
    (t : Session Nat) :
    let s := Scene.initial (Client.mk endpoint server (.initial limit)) depots
    let w := (s.run (Client.driver S) (meanwhile f) ops).world
    w.session? i = some t → t.status = .active → t.depth = 1 →
    ∃ x, t.transaction = some x ∧
      (Honest R w i t x ↔ ¬ (Failed S (meanwhile f) s ops i ∧ Reaches w t)) ∧
      (Reaches w t → (Failed S (meanwhile f) s ops i ↔
        (S.simple w.databases.server x "COMMIT").1 = .ok "ROLLBACK")) ∧
      (Failed S (meanwhile f) s ops i → Reaches w t →
        (w.commit (Client.driver S) i t).1 = .ok () ∧
        SeemsCommitted (w.commit (Client.driver S) i t).2 i ∧
        (R.standing (w.commit (Client.driver S) i t).2.databases.server x).discarded =
          (R.standing w.databases.server x).discarded + 1) := by
  intro s w ht ha h1
  have hsound := Scene.sound_run (Client.driver S) (meanwhile f)
    (Client.mk endpoint server (.initial limit)) depots ops i t ht
  obtain ⟨x, hx⟩ := hsound.exists_transaction ha
  obtain ⟨hsited, -⟩ := sited_run hf (Client.mk endpoint server (.initial limit))
    (Pool.orderly_initial limit) depots ops hplain
  have hheld : w.held i = some x := (World.held_of_session? ht).trans hx
  refine ⟨x, hx, ?_, ?_, ?_⟩
  · constructor
    · rintro hhonest ⟨hfailed, hr⟩
      obtain ⟨-, hok, hseems, hsame, -⟩ :=
        commit_of_aborted ht ha h1 hx hr (hsited.aborted i x hheld hfailed)
      have hcommitted := hhonest.committed hok hseems
      omega
    · intro hn
      by_cases hr : Reaches w t
      · exact honest_of_opened ht ha h1 hx hr (hsited.opened i x hheld fun hfl => hn ⟨hfl, hr⟩)
      · exact honest_of_unreached ha h1 hr
  · intro hr
    constructor
    · intro hfailed
      exact (commit_of_aborted ht ha h1 hx hr (hsited.aborted i x hheld hfailed)).1
    · intro hs
      by_contra hn
      have htag := (R.commit_ok _ _ _ hs).1
      rw [Standing.commitTag, hsited.opened i x hheld hn] at htag
      exact absurd htag (by decide)
  · intro hfailed hr
    obtain ⟨-, hok, hseems, -, hmore⟩ :=
      commit_of_aborted ht ha h1 hx hr (hsited.aborted i x hheld hfailed)
    exact ⟨hok, hseems, hmore⟩

theorem commit_honest_insert :
    let S := Ledger.server fun _ => false
    let s : Scene (Client Ledger) Nat :=
      Scene.initial ⟨.initial, .initial, .initial 1⟩ [⟨.postgres, false⟩]
    let w := (s.run (Client.driver S) (meanwhile fun (_ : Empty) l => l)
      [.begin 0 0, .ask 0 (.exec ⟨"insert", []⟩)]).world
    ∃ t, w.session? 0 = some t ∧ Honest (Ledger.rules fun _ => false) w 0 t 0 := by
  intro S s w
  let t : Session Nat := ⟨.postgres, .postgres, false, 0, none, 1, none, .active, some 0⟩
  have hplain : Plain (Ledger.rules fun _ => false)
      ([.begin 0 0, .ask 0 (.exec ⟨"insert", []⟩)] : List (Operation Empty)) := by
    intro i q d st hm hst
    simp at hm
    obtain ⟨rfl, rfl⟩ := hm
    cases hst
    simp [Ledger.rules]
  have ht : w.session? 0 = some t := rfl
  obtain ⟨x, hx, hiff, htag, -⟩ := commit_honest_iff (Ledger.rules fun _ => false)
    (fun (_ : Empty) l => l) (fun _ _ _ => rfl) .initial .initial 1 [⟨.postgres, false⟩] _
    hplain 0 t ht rfl rfl
  cases hx
  refine ⟨t, ht, hiff.mpr ?_⟩
  rintro ⟨hfailed, hr⟩
  have hs : (S.simple w.databases.server 0 "COMMIT").1 = .ok "ROLLBACK" := (htag hr).mp hfailed
  have hs' : (S.simple w.databases.server 0 "COMMIT").1 = .ok "COMMIT" := rfl
  rw [hs'] at hs
  exact absurd (Except.ok.inj hs) (by decide)

/-- A session whose insert is refused, and which commits all the same: it is told that this went
well. -/
theorem discarded_block_committed :
    let S := Ledger.server fun _ => true
    let s : Scene (Client Ledger) Nat :=
      Scene.initial ⟨.initial, .initial, .initial 1⟩ [⟨.postgres, false⟩]
    let w := (s.run (Client.driver S) (meanwhile fun (_ : Empty) l => l)
      [.begin 0 0, .ask 0 (.exec ⟨"insert", []⟩)]).world
    let r := s.run (Client.driver S) (meanwhile fun (_ : Empty) l => l)
      [.begin 0 0, .ask 0 (.exec ⟨"insert", []⟩), .commit 0]
    (w.session? 0).map (fun t => (w.commit (Client.driver S) 0 t).1.isOk) = some true ∧
      (r.world.session? 0).map Session.status = some .committed ∧
      r.world.databases.server 0 = ⟨.none, 0, 1⟩ := ⟨rfl, rfl, rfl⟩

end UnitOfWork.Postgres
