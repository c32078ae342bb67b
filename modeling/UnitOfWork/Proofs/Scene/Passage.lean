import UnitOfWork.Proofs.Scene
import UnitOfWork.Proofs.Timeline.Later

namespace UnitOfWork

namespace World

open Timeline

variable {δ τ : Type} (D : Driver δ τ)

theorem waited_commit (w : World δ τ) (i : Nat) (t : Session τ) :
    w.timeline.Waited (w.commit D i t).2.timeline := by
  have hcommit (x : τ) : w.timeline.Waited (w.commitTransaction D i t x).2.timeline := by
    refine .inr ⟨w.timeline.now + D.delay w.databases x, ?_⟩
    simp only [commitTransaction]
    split
    · rfl
    · split <;> rfl
  unfold commit
  split
  · split
    · exact .inl rfl
    · split
      · exact .inl rfl
      · split
        · exact .inl rfl
        · exact .inl rfl
        · exact hcommit _
  · exact .inl rfl

theorem waited_rollback (w : World δ τ) (i : Nat) (t : Session τ) :
    w.timeline.Waited (w.rollback D i t).2.timeline := by
  unfold rollback
  split
  · split
    · exact .inl rfl
    · split <;> exact .inl rfl
  · exact .inl rfl

theorem waited_ask (w : World δ τ) (t : Session τ) (q : Request) :
    w.timeline.Waited (w.ask D t q).2.timeline := by
  cases ask_case D w t q with
  | unstated e hst hr => exact .inl (by rw [hr])
  | ended st hst hx hr hs hd hl => exact .inl hl
  | refused st x e hst hx hg hr hs hd hl | allowed st x hst hx hg hr hs hd hl =>
    rw [hl]
    exact .of_guarded ..

theorem waited_drop (w : World δ τ) (i : Nat) (t : Session τ) (runtime : Bool) :
    w.timeline.Waited (w.drop D i t runtime).timeline := by
  unfold drop
  split
  · exact .inl rfl
  · split
    · dsimp only
      split <;> exact .inl rfl
    · exact .inl rfl

theorem waited_start (w : World δ τ) (k : Nat) (depot : Depot) (c : Context) :
    w.timeline.Waited (w.start D k depot c).2.timeline := by
  cases hg : (w.timeline.guarded c.token c.deadline (D.beginDelay w.databases k)).1 with
  | error e =>
    rw [start_refused D w k depot c hg]
    exact .of_guarded ..
  | ok =>
    have hstart : (w.start D k depot c).2.timeline =
        (w.timeline.guarded c.token c.deadline (D.beginDelay w.databases k)).2 := by
      simp only [start, guarded, hg]
      split <;> rfl
    rw [hstart]
    exact .of_guarded ..

theorem waited_begin (w : World δ τ) (k : Nat) (depot : Depot) (c : Context) :
    w.timeline.Waited (w.begin D k depot c).2.timeline := by
  unfold begin
  split
  · unfold join
    split
    · exact .inl rfl
    · split <;> exact .inl rfl
  · exact waited_start D w k depot c

theorem begin_context (w : World δ τ) (k : Nat) (depot : Depot) (c : Context) {i : Nat}
    {c' : Context} (h : (w.begin D k depot c).1 = .ok (i, c')) : c' = c.carrying i := by
  cases begin_case D w k depot c with
  | refused e hr hs => cases hr.symm.trans h
  | joined j hc hr hs =>
    cases hr.symm.trans h
    rw [Context.carrying, ← hc]
  | started x database hc hr hs =>
    cases hr.symm.trans h
    rfl

end World

namespace Scene

variable {δ τ ε : Type} (D : Driver δ τ) (direct : ε → δ → δ)

inductive Passage (s s' : Scene δ τ) : Operation ε → Prop where
  | waited (o : Operation ε) (hc : s'.contexts = s.contexts)
      (ht : s.world.timeline.Waited s'.world.timeline) : Passage s s' o
  | derived (c : Nat) (x : Context) (d : Derivation) (hx : s.contexts[c]? = some x)
      (hc : s'.contexts = s.contexts ++ [(x.derive s.world.timeline d).1])
      (ht : s'.world.timeline = (x.derive s.world.timeline d).2) : Passage s s' (.derive c d)
  | cancelled (c : Nat) (x : Context) (hx : s.contexts[c]? = some x)
      (hc : s'.contexts = s.contexts)
      (ht : s'.world.timeline = s.world.timeline.cancel x.token) : Passage s s' (.cancel c)
  | alarmed (c ms : Nat) (x : Context) (hx : s.contexts[c]? = some x)
      (hc : s'.contexts = s.contexts)
      (ht : s'.world.timeline = s.world.timeline.cancelAfter x.token ms) :
    Passage s s' (.cancelAfter c ms)
  | begun (k c i : Nat) (x : Context) (hx : s.contexts[c]? = some x)
      (hc : s'.contexts = s.contexts ++ [x.carrying i])
      (ht : s.world.timeline.Waited s'.world.timeline) : Passage s s' (.begin k c)

theorem context_of_prefix {xs ys : List Context} (h : xs <+: ys) {c : Nat} {x : Context}
    (hx : xs[c]? = some x) : ys[c]? = some x := by
  obtain ⟨more, rfl⟩ := h
  rw [List.getElem?_append_left (List.getElem?_eq_some_iff.mp hx).1, hx]

theorem passage_begin (s : Scene δ τ) (k c : Nat) (x : Context) (hx : s.contexts[c]? = some x) :
    Passage (ε := ε) s (s.begin D k x) (.begin k c) := by
  unfold begin
  split
  · exact .waited _ rfl (.of_eq rfl)
  · rename_i depot _
    have ht := World.waited_begin D s.world k depot x
    cases hr : (s.world.begin D k depot x).1 with
    | ok r =>
      have hc := World.begin_context D s.world k depot x hr
      simp only [hr]
      exact .begun k c r.1 x hx (by rw [hc]) ht
    | error e =>
      simp only [hr]
      exact .waited _ rfl ht

theorem passage_step (s : Scene δ τ) (o : Operation ε) : Passage s (step D direct s o) o := by
  have onContext (c : Nat) (f : Context → Scene δ τ)
      (hf : ∀ x, s.contexts[c]? = some x → Passage s (f x) o) :
      Passage s (s.onContext c f) o := by
    unfold Scene.onContext
    split
    · exact hf _ ‹_›
    · exact .waited _ rfl (.of_eq rfl)
  have onSession (i : Nat) (f : Session τ → World δ τ)
      (hf : ∀ t, s.world.timeline.Waited (f t).timeline) : Passage s (s.onSession i f) o := by
    unfold Scene.onSession
    split
    · exact .waited _ rfl (hf _)
    · exact .waited _ rfl (.of_eq rfl)
  cases o with
  | derive c d => exact onContext _ _ fun x hx => .derived c x d hx rfl rfl
  | cancel c => exact onContext _ _ fun x hx => .cancelled c x hx rfl rfl
  | cancelAfter c ms => exact onContext _ _ fun x hx => .alarmed c ms x hx rfl rfl
  | wait ms => exact .waited _ rfl (.inr ⟨_, rfl⟩)
  | begin k c => exact onContext _ _ fun x hx => passage_begin D s k c x hx
  | commit i => exact onSession _ _ fun t => World.waited_commit D s.world i t
  | rollback i => exact onSession _ _ fun t => World.waited_rollback D s.world i t
  | setError i e => exact onSession _ _ fun t => by cases e <;> exact .of_eq rfl
  | ask i q => exact onSession _ _ fun t => World.waited_ask D s.world t q
  | drop i runtime => exact onSession _ _ fun t => World.waited_drop D s.world i t runtime
  | close k => exact .waited _ rfl (.of_eq rfl)
  | direct x => exact .waited _ rfl (.of_eq rfl)

structure Rooted (s : Scene δ τ) : Prop where
  sound : s.world.timeline.Sound
  known : ∀ x ∈ s.contexts, x.token < s.world.timeline.lineages.length

variable {D direct}

theorem Passage.later {s s' : Scene δ τ} {o : Operation ε} (h : Passage s s' o) :
    s.world.timeline.Later s'.world.timeline := by
  cases h with
  | waited _ hc ht => exact ht.later
  | derived c x d hx hc ht =>
    rw [ht]
    cases d <;> first | exact .of_child _ _ | exact .refl _
  | cancelled c x hx hc ht =>
    rw [ht]
    exact .of_cancel _ _
  | alarmed c ms x hx hc ht =>
    rw [ht]
    exact .of_cancelAfter _ _ _
  | begun k c i x hx hc ht => exact ht.later

theorem Passage.contexts {s s' : Scene δ τ} {o : Operation ε} (h : Passage s s' o) :
    s.contexts <+: s'.contexts := by
  cases h <;> simp [*]

theorem Rooted.passage {s s' : Scene δ τ} {o : Operation ε} (h : Rooted s)
    (hp : Passage s s' o) : Rooted s' := by
  have hl := hp.later
  have hold : ∀ x ∈ s.contexts, x.token < s'.world.timeline.lineages.length :=
    fun x hx => Nat.lt_of_lt_of_le (h.known x hx) hl.lineages
  cases hp with
  | waited _ hc ht => exact ⟨ht.sound h.sound, by rwa [hc]⟩
  | derived c x d hx hc ht =>
    have hknown := h.known x (List.mem_of_getElem? hx)
    have hnew : (x.derive s.world.timeline d).2.Sound ∧
        (x.derive s.world.timeline d).1.token <
          (x.derive s.world.timeline d).2.lineages.length := by
      cases d with
      | copy => exact ⟨h.sound, hknown⟩
      | _ =>
        refine ⟨h.sound.child hknown, ?_⟩
        simp [Context.derive, Context.below, Timeline.child]
    refine ⟨by rw [ht]; exact hnew.1, ?_⟩
    intro y hy
    rw [hc] at hy
    obtain hy | hy := List.mem_append.mp hy
    · exact hold y hy
    · rw [List.mem_singleton.mp hy, ht]
      exact hnew.2
  | cancelled c x hx hc ht => exact ⟨by rw [ht]; exact h.sound.cancel _, by rwa [hc]⟩
  | alarmed c ms x hx hc ht => exact ⟨by rw [ht]; exact h.sound.cancelAfter _ _, by rwa [hc]⟩
  | begun k c i x hx hc ht =>
    refine ⟨ht.sound h.sound, ?_⟩
    intro y hy
    rw [hc] at hy
    obtain hy | hy := List.mem_append.mp hy
    · exact hold y hy
    · rw [List.mem_singleton.mp hy]
      exact hold x (List.mem_of_getElem? hx)

variable (D direct)

theorem rooted_run (d : δ) (depots : List Depot) (ops : List (Operation ε)) :
    Rooted (run D direct (initial d depots) ops) := by
  refine run_induction (P := fun _ s => Rooted s) D direct _ ?_ ?_ ops
  · refine ⟨.initial, ?_⟩
    intro x hx
    rw [List.mem_singleton.mp hx]
    exact Nat.one_pos
  · intro ops o h
    exact h.passage (passage_step D direct _ o)

theorem later_run (s : Scene δ τ) (ops : List (Operation ε)) :
    s.world.timeline.Later (run D direct s ops).world.timeline := by
  refine run_induction (P := fun _ r => s.world.timeline.Later r.world.timeline) D direct s
    (.refl _) ?_ ops
  intro ops o h
  exact h.trans (passage_step D direct _ o).later

theorem contexts_run (s : Scene δ τ) (ops : List (Operation ε)) :
    s.contexts <+: (run D direct s ops).contexts := by
  refine run_induction (P := fun _ r => s.contexts <+: r.contexts) D direct s
    (List.prefix_refl _) ?_ ops
  intro ops o h
  exact h.trans (passage_step D direct _ o).contexts

end Scene

end UnitOfWork
