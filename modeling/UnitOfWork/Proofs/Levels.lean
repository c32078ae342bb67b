import UnitOfWork.Proofs.Scene.Fate

namespace UnitOfWork

namespace World

variable {δ τ : Type} (D : Driver δ τ) {w : World δ τ} {i : Nat} {t : Session τ}

theorem start_session? (ht : w.session? i = some t) (k : Nat) (depot : Depot) (c : Context) :
    (w.start D k depot c).2.session? i = some t := by
  cases start_case D w k depot c with
  | refused e hg hr =>
    rw [hr]
    exact ht
  | denied e hg hb hr hs hd => rw [session?_of_eq hs, ht]
  | begun x hg hb hr hs hd =>
    rw [session?_of_append hs, if_neg (Nat.ne_of_lt (lt_of_session? ht)), ht]

theorem join_session? (ht : w.session? i = some t) {j : Nat} (hj : j ≠ i) :
    (w.join j).2.session? i = some t := by
  by_cases h : ∃ u, w.session? j = some u ∧ u.status = .active
  · obtain ⟨u, hu, ha⟩ := h
    rw [session?_of_set (join_active w j u hu ha).2.1 (lt_of_session? hu), if_neg hj, ht]
  · rw [join_ended w j fun u hu ha => h ⟨u, hu, ha⟩, ht]

theorem begin_level (ht : w.session? i = some t) (ha : t.status = .active) (k : Nat) (depot : Depot)
    (c : Context) : (w.begin D k depot c).2.session? i = some { t with
      depth := t.depth + (c.session = some i && (w.begin D k depot c).1.isOk).toNat } := by
  unfold begin
  cases hc : c.session with
  | none => simpa using start_session? D ht k depot c
  | some j =>
    by_cases hj : j = i
    · subst hj
      obtain ⟨hr, hs, -⟩ := join_active w j t ht ha
      simp [session?_of_set_self ht hs, hr, Except.map, Except.isOk, Except.toBool]
    · simpa [hj] using join_session? ht hj

end World

namespace Scene

open Traced

variable {δ τ ε : Type}

section counts

variable (D : Driver δ τ) (direct : ε → δ → δ)

def joins (i : Nat) (s : Scene δ τ) : Operation ε → Bool
  | .begin k c =>
    match s.contexts[c]?, s.world.depots[k]? with
    | some x, some depot => x.session = some i && (s.world.begin D k depot x).1.isOk
    | _, _ => false
  | _ => false

def leaves (i : Nat) (s : Scene δ τ) : Operation ε → Bool
  | .commit j =>
    j = i && (s.world.session? i).any fun t => 1 < t.depth && (s.world.commit D i t).1.isOk
  | _ => false

def fails (i : Nat) (s : Scene δ τ) : Operation ε → Bool
  | .rollback j => j = i && (s.world.session? i).any fun t => 1 < t.depth
  | _ => false

def tally (p : Scene δ τ → Operation ε → Bool) (s : Scene δ τ) : List (Operation ε) → Nat
  | [] => 0
  | o :: ops => (p s o).toNat + tally p (step D direct s o) ops

theorem tally_snoc (p : Scene δ τ → Operation ε → Bool) (s : Scene δ τ) (ops : List (Operation ε))
    (o : Operation ε) :
    tally D direct p s (ops ++ [o]) =
      tally D direct p s ops + (p (run D direct s ops) o).toNat := by
  induction ops generalizing s with
  | nil => simp [tally, run]
  | cons o' ops ih =>
    simp only [List.cons_append, tally, ih, Nat.add_assoc]
    rfl

variable {D direct} {s : Scene δ τ} {i : Nat} {t : Session τ}

theorem begin_level (ht : s.world.session? i = some t) (ha : t.status = .active) (k c : Nat) :
    (step D direct s (.begin k c)).world.session? i =
      some { t with depth := t.depth + (joins (ε := ε) D i s (.begin k c)).toNat } := by
  cases hx : s.contexts[c]? with
  | none => simp [step, onContext, joins, hx, ht]
  | some x =>
    cases hdepot : s.world.depots[k]? with
    | none => simp [step, onContext, joins, hx, begin, hdepot, ht]
    | some depot =>
      simp only [step_begin D direct hx hdepot, joins, hx, hdepot]
      exact World.begin_level D ht ha k depot x

theorem leaves_iff (ht : s.world.session? i = some t) (ha : t.status = .active) (j : Nat) :
    leaves (ε := ε) D i s (.commit j) = true ↔ j = i ∧ t.error = none ∧ 1 < t.depth := by
  simp only [leaves, ht, Option.any_some, Bool.and_eq_true, decide_eq_true_eq]
  cases he : t.error with
  | some e => simp [(World.commit_of_error D s.world i t ha he).1, Except.isOk, Except.toBool]
  | none =>
    by_cases h1 : 1 < t.depth
    · simp [h1, (World.commit_nested D s.world i t ha he h1).1, Except.isOk, Except.toBool]
    · simp [h1]

theorem fails_iff (ht : s.world.session? i = some t) (j : Nat) :
    fails (ε := ε) i s (.rollback j) = true ↔ j = i ∧ 1 < t.depth := by
  simp [fails, ht]

end counts

variable {D : Driver δ τ} {direct : ε → δ → δ} {s : Scene (Traced δ) (Nat × τ)} {i : Nat}

theorem level_step (hk : Kept s.world) (o : Operation ε) {t t' : Session (Nat × τ)}
    (ht : s.world.session? i = some t) (ha : t.status = .active)
    (ht' : (step D.traced (lift direct) s o).world.session? i = some t')
    (ha' : t'.status = .active) :
    t'.depth + (leaves D.traced i s o).toNat + (fails i s o).toNat =
      t.depth + (joins D.traced i s o).toNat := by
  have hresult := hk.result (change_step D.traced (lift direct) s o) (World.lt_of_session? ht)
  -- the level stays where the operation is not counted
  have hsame (hother : ∀ t us, s.world.session? i = some t → Fate t i o us (some t') →
      t'.depth = t.depth) : t'.depth = t.depth := by
    cases hresult with
    | alone hs hu =>
      rw [hs, ht] at ht'
      rw [Option.some.inj ht']
    | made u us hu hf _ =>
      rw [ht'] at hf
      rw [hother u us hu hf]
      rw [ht] at hu
      rw [Option.some.inj hu]
  cases o with
  | begin k c =>
    rw [begin_level ht ha k c] at ht'
    cases ht'
    rfl
  | commit j =>
    have hcount := leaves_iff (ε := ε) (D := D.traced) ht ha j
    by_cases hl : j = i ∧ t.error = none ∧ 1 < t.depth
    · rw [hcount.mpr hl]
      obtain ⟨rfl, he, h1⟩ := hl
      have hs := (World.commit_nested D.traced s.world j t ha he h1).2.1
      rw [step_commit D.traced (lift direct) ht, World.session?_of_set_self ht hs] at ht'
      cases ht'
      change t.depth - 1 + 1 + 0 = t.depth + 0
      omega
    · rw [Bool.eq_false_iff.mpr fun h => hl (hcount.mp h)]
      refine hsame fun u us hu hf => ?_
      rw [ht] at hu
      cases hu
      cases hf with
      | left _ he h1 => exact absurd ⟨rfl, he, h1⟩ hl
      | committed _ _ status _ _ hs => exact absurd ha' hs
  | rollback j =>
    have hcount := fails_iff (ε := ε) ht j
    by_cases hl : j = i ∧ 1 < t.depth
    · rw [hcount.mpr hl]
      obtain ⟨rfl, h1⟩ := hl
      have hs := (World.rollback_nested D.traced s.world j t ha h1).2.1
      rw [step_rollback D.traced (lift direct) ht, World.session?_of_set_self ht hs] at ht'
      cases ht'
      change t.depth - 1 + 0 + 1 = t.depth + 0
      omega
    · rw [Bool.eq_false_iff.mpr fun h => hl (hcount.mp h)]
      refine hsame fun u us hu hf => ?_
      rw [ht] at hu
      cases hu
      cases hf with
      | failed _ h1 => exact absurd ⟨rfl, h1⟩ hl
      | rolledBack _ _ ok => cases ha'
  | _ => exact hsame fun u us hu hf => by cases hf <;> rfl

theorem depth_of_new {w w' : World δ τ} {D : Driver δ τ} {direct : ε → δ → δ} {o : Operation ε}
    (h : Change D direct w w' o) {i : Nat} (hi : w.sessions.length ≤ i) {t : Session τ}
    (ht : w'.session? i = some t) : t.depth = 1 := by
  have hlt := World.lt_of_session? ht
  cases h with
  | begun k c x database depot context hb hs hd =>
    rw [World.session?_of_append hs] at ht
    split at ht
    · cases ht
      rfl
    · rw [World.session?, List.getElem?_eq_none hi] at ht
      cases ht
  | _ => simp_all; omega

theorem uncounted {D : Driver δ τ} {s : Scene δ τ} {i : Nat} (h : s.world.session? i = none)
    (o : Operation ε) : joins D i s o = false ∧ leaves D i s o = false ∧ fails i s o = false := by
  cases o with
  | begin k c =>
    refine ⟨?_, rfl, rfl⟩
    have hj := World.join_ended s.world i (by simp [h])
    simp only [joins]
    split
    · rename_i x depot _ _
      by_cases hx : x.session = some i
      · simp [World.begin, hx, hj, Except.map, Except.isOk, Except.toBool]
      · simp [hx]
    · rfl
  | commit j => simp [joins, leaves, fails, h]
  | rollback j => simp [joins, leaves, fails, h]
  | _ => exact ⟨rfl, rfl, rfl⟩

structure Levelled (i joined left failed : Nat) (w : World δ τ) : Prop where
  depth : ∀ t, w.session? i = some t → t.status = .active → t.depth + left + failed = 1 + joined
  unbegun : w.sessions.length ≤ i → joined = 0 ∧ left = 0 ∧ failed = 0

theorem Levelled.step {joined left failed : Nat} (h : Levelled i joined left failed s.world)
    (hk : Kept s.world) (o : Operation ε) :
    Levelled i (joined + (joins D.traced i s o).toNat) (left + (leaves D.traced i s o).toNat)
      (failed + (fails i s o).toNat) (Scene.step D.traced (lift direct) s o).world := by
  have hc := change_step D.traced (lift direct) s o
  have hnone (hi : s.world.sessions.length ≤ i) : s.world.session? i = none := by
    rw [World.session?, List.getElem?_eq_none hi, Option.join_none]
  constructor
  · intro t' ht' ha'
    by_cases hi : s.world.sessions.length ≤ i
    · obtain ⟨hj, hl, hf⟩ := h.unbegun hi
      obtain ⟨hj', hl', hf'⟩ := uncounted (D := D.traced) (hnone hi) o
      rw [hj, hl, hf, hj', hl', hf', depth_of_new hc hi ht']
      rfl
    · have hbegun := Nat.lt_of_not_le hi
      obtain ⟨t, ht, ha⟩ : ∃ t, s.world.session? i = some t ∧ t.status = .active := by
        by_contra hn
        have hended : Ended i s.world := ⟨hbegun, fun t ht ha => hn ⟨t, ht, ha⟩⟩
        exact (hended.change hk hc).ended.inactive t' ht' ha'
      have hlevel := level_step hk o ht ha ht' ha'
      have hdepth := h.depth t ht ha
      omega
  · intro hi
    have hold := Nat.le_trans (length_le_of_change hc) hi
    obtain ⟨hj, hl, hf⟩ := h.unbegun hold
    obtain ⟨hj', hl', hf'⟩ := uncounted (D := D.traced) (hnone hold) o
    rw [hj, hl, hf, hj', hl', hf']
    exact ⟨rfl, rfl, rfl⟩

theorem levelled_run (D : Driver δ τ) (direct : ε → δ → δ) (d : δ) (depots : List Depot) (i : Nat)
    (ops : List (Operation ε)) :
    let start := initial (.initial d) depots
    Levelled i (tally D.traced (lift direct) (joins D.traced i) start ops)
      (tally D.traced (lift direct) (leaves D.traced i) start ops)
      (tally D.traced (lift direct) (fails i) start ops)
      (run D.traced (lift direct) start ops).world := by
  intro start
  refine run_induction (P := fun ops s => Levelled i
      (tally D.traced (lift direct) (joins D.traced i) start ops)
      (tally D.traced (lift direct) (leaves D.traced i) start ops)
      (tally D.traced (lift direct) (fails i) start ops) s.world)
    D.traced (lift direct) start ?_ ?_ ops
  · refine ⟨?_, fun _ => ⟨rfl, rfl, rfl⟩⟩
    intro t ht
    simp [start, initial, World.session?] at ht
  · intro ops o h
    rw [tally_snoc, tally_snoc, tally_snoc]
    exact h.step (kept_run D direct d depots ops) o

structure Alive (joined left failed : Nat) (t : Session τ) : Prop where
  depth_iff : t.status = .active ↔ 1 ≤ t.depth
  transaction_iff : t.status = .active ↔ t.transaction.isSome
  depth_eq : t.status = .active → t.depth + left + failed = 1 + joined

structure Final (D : Driver (Traced δ) (Nat × τ)) (i : Nat) (t : Session (Nat × τ))
    (w w' : World (Traced δ) (Nat × τ)) : Prop where
  calls : uses i w'.databases.log = uses i w.databases.log
  session : ∀ t', w'.session? i = some t' → t'.depth = 0 ∧ t'.status = t.status
  commit : ∀ t', w'.session? i = some t' → w'.commit D i t' = (.error .transactionClosed, w')
  rollback : ∀ t', w'.session? i = some t' → w'.rollback D i t' = (.ok (), w')
  begin : ∀ k depot c, c.session = some i →
    w'.begin D k depot c = (.error .transactionClosed, w')
  ask : ∀ t' q, w'.session? i = some t' →
    (∃ e, (w'.ask D t' q).1 = .error e) ∧ (w'.ask D t' q).2.databases = w'.databases

/-- In every run the depth of a session counts its units of work as long as it is active, and once
it has ended it has for ever. -/
theorem alive_then_final (D : Driver δ τ) (direct : ε → δ → δ) (d : δ) (depots : List Depot)
    (before after : List (Operation ε)) (i : Nat) (t : Session (Nat × τ))
    (ht : (run D.traced (lift direct) (initial (.initial d) depots) before).world.session? i =
      some t) :
    let start := initial (.initial d) depots
    let s := run D.traced (lift direct) start before
    let r := run D.traced (lift direct) start (before ++ after)
    run D direct (initial d depots) (before ++ after) = r.image Traced.inner Prod.snd ∧
      Alive (tally D.traced (lift direct) (joins D.traced i) start before)
        (tally D.traced (lift direct) (leaves D.traced i) start before)
        (tally D.traced (lift direct) (fails i) start before) t ∧
      (t.status ≠ .active → Final D.traced i t s.world r.world) := by
  intro start s r
  have hk : Kept s.world := kept_run D direct d depots before
  have hk' : Kept r.world := kept_run D direct d depots (before ++ after)
  have hsound := hk.sound i t ht
  refine ⟨run_traced D direct d depots _, ⟨hsound.active_iff_depth, hsound.active_iff_open,
    (levelled_run D direct d depots i before).depth t ht⟩, ?_⟩
  intro ha
  have hended : Ended i s.world := by
    refine ⟨World.lt_of_session? ht, fun u hu => ?_⟩
    rw [ht] at hu
    rwa [← Option.some.inj hu]
  have hr : r = run D.traced (lift direct) s after := run_append ..
  have hsettled : Settled i s.world r.world := by
    rw [hr]
    exact hended.run hk after
  have hinactive := hsettled.ended.inactive
  refine ⟨hsettled.calls, ?_, ?_, ?_, ?_, ?_⟩
  · intro t' ht'
    have hdepth := (hk'.sound i t' ht').active_iff_depth.not.mp (hinactive t' ht')
    obtain ⟨u, hu, hstatus⟩ := hsettled.status t' ht'
    rw [ht] at hu
    rw [Option.some.inj hu]
    exact ⟨by omega, hstatus⟩
  · exact fun t' ht' => World.commit_of_ended D.traced r.world i t' (hinactive t' ht')
  · exact fun t' ht' => World.rollback_of_ended D.traced r.world i t' (hinactive t' ht')
  · intro k depot c hc
    rw [World.begin, hc]
    simp only [World.join_ended r.world i hinactive, Except.map]
  · intro t' q ht'
    have hx : t'.transaction = none := by
      have hopen := (hk'.sound i t' ht').active_iff_open.not.mp (hinactive t' ht')
      simpa using hopen
    cases World.ask_case D.traced r.world t' q with
    | unstated e hst hr =>
      rw [hr]
      exact ⟨⟨e, rfl⟩, rfl⟩
    | ended st hst hx hr hs hd => exact ⟨⟨_, hr⟩, hd⟩
    | refused st x e hst hopen | allowed st x hst hopen =>
      rw [hx] at hopen
      cases hopen

theorem alive_then_final_nested :
    let ops : List (Operation Direction) :=
      [.begin 0 0, .begin 0 1, .begin 0 1, .commit 0, .rollback 0]
    let ended : List (Operation Direction) :=
      [.begin 0 0, .begin 0 1, .begin 0 1, .commit 0, .rollback 0, .rollback 0]
    let more : List (Operation Direction) :=
      [.begin 0 1, .setError 0 none, .ask 0 (.exec ⟨"insert", []⟩), .commit 0]
    let start := initial (.initial (.initial .default)) [⟨.default, false⟩]
    let s := run Recording.driver.traced (lift Stage.Direction.apply) start ops
    let s' := run Recording.driver.traced (lift Stage.Direction.apply) start ended
    let r := run Recording.driver.traced (lift Stage.Direction.apply) start (ended ++ more)
    (∃ t, s.world.session? 0 = some t ∧ t.status = .active ∧ Alive 2 1 1 t) ∧
      ∃ t, s'.world.session? 0 = some t ∧ t.status = .rolledBack ∧
        Final Recording.driver.traced 0 t s'.world r.world := by
  intro ops ended more start s s' r
  have hcounts :
      tally Recording.driver.traced (lift Stage.Direction.apply)
          (joins Recording.driver.traced 0) start ops = 2 ∧
        tally Recording.driver.traced (lift Stage.Direction.apply)
          (leaves Recording.driver.traced 0) start ops = 1 ∧
        tally Recording.driver.traced (lift Stage.Direction.apply) (fails 0) start ops = 1 := by
    decide +kernel
  have hactive : (s.world.session? 0).map Session.status = some .active := by decide +kernel
  have hover : (s'.world.session? 0).map Session.status = some .rolledBack := by decide +kernel
  obtain ⟨t, ht, ha⟩ := Option.map_eq_some_iff.mp hactive
  obtain ⟨t', ht', ha'⟩ := Option.map_eq_some_iff.mp hover
  obtain ⟨-, halive, -⟩ := alive_then_final Recording.driver Stage.Direction.apply
    (.initial .default) [⟨.default, false⟩] ops [] 0 t ht
  rw [hcounts.1, hcounts.2.1, hcounts.2.2] at halive
  obtain ⟨-, -, hfinal⟩ := alive_then_final Recording.driver Stage.Direction.apply
    (.initial .default) [⟨.default, false⟩] ended more 0 t' ht'
  exact ⟨⟨t, ht, ha, halive⟩, t', ht', ha', hfinal (by simp [ha'])⟩

end Scene

end UnitOfWork
