import Mathlib.Logic.Relation
import UnitOfWork.Proofs.Scene.Passage

namespace UnitOfWork

variable {δ τ ε : Type}

def Operation.source? : Operation ε → Option Nat
  | .derive c _ | .begin _ c => some c
  | _ => none

def Operation.forks : Operation ε → Bool
  | .derive _ .copy => false
  | .derive _ _ => true
  | _ => false

namespace Scene

variable (D : Driver δ τ) (direct : ε → δ → δ)

structure Made (s : Scene δ τ) (ops : List (Operation ε)) (o : Operation ε) (p n : Nat) : Prop where
  source : o.source? = some p
  made : ∃ before after, ops = before ++ o :: after ∧
    (run D direct s before).contexts.length = n ∧
    (step D direct (run D direct s before) o).contexts.length = n + 1

inductive Link (s : Scene δ τ) (ops : List (Operation ε)) : Nat → Nat → Prop where
  | down {o : Operation ε} {p n : Nat} (h : Made D direct s ops o p n) : Link s ops p n
  | up {o : Operation ε} {p n : Nat} (h : Made D direct s ops o p n) (ho : o.forks = false) :
    Link s ops n p

def Governs (s : Scene δ τ) (ops : List (Operation ε)) : Nat → Nat → Prop :=
  Relation.ReflTransGen (Link D direct s ops)

def Above (s : Scene δ τ) (a b : Nat) : Prop :=
  ∃ x y, s.contexts[a]? = some x ∧ s.contexts[b]? = some y ∧
    x.token ∈ s.world.timeline.lineage y.token

variable {D direct}

theorem Above.passage {s s' : Scene δ τ} {a b : Nat} (h : Above s a b)
    (hc : s.contexts <+: s'.contexts) (hl : s.world.timeline.Later s'.world.timeline) :
    Above s' a b := by
  obtain ⟨x, y, hx, hy, hm⟩ := h
  exact ⟨x, y, context_of_prefix hc hx, context_of_prefix hc hy, hl.lineage _ hm⟩

theorem Above.trans {s : Scene δ τ} (hs : s.world.timeline.Sound) {a b c : Nat}
    (h : Above s a b) (h' : Above s b c) : Above s a c := by
  obtain ⟨x, y, hx, hy, hm⟩ := h
  obtain ⟨y', z, hy', hz, hm'⟩ := h'
  obtain rfl : y = y' := by
    rw [hy] at hy'
    exact Option.some.inj hy'
  exact ⟨x, z, hx, hz, hs.closed _ _ hm' hm⟩

theorem Above.refl {s : Scene δ τ} (hs : s.world.timeline.Sound) {a : Nat}
    (ha : a < s.contexts.length) : Above s a a :=
  ⟨_, _, List.getElem?_eq_getElem ha, List.getElem?_eq_getElem ha, hs.self _⟩

theorem Passage.made {s s' : Scene δ τ} {o : Operation ε} (h : Passage s s' o)
    (hs : s.world.timeline.Sound) {p : Nat} (hp : o.source? = some p)
    (hnew : s'.contexts.length = s.contexts.length + 1) :
    Above s' p s.contexts.length ∧ (o.forks = false → Above s' s.contexts.length p) := by
  have hold {x : Context} (hx : s.contexts[p]? = some x) : s'.contexts[p]? = some x :=
    context_of_prefix h.contexts hx
  have hself {x : Context} : x.token ∈ s'.world.timeline.lineage x.token :=
    h.later.lineage _ (hs.self _)
  cases h with
  | waited _ hc ht =>
    rw [hc] at hnew
    omega
  | cancelled c x hx hc ht => cases hp
  | alarmed c ms x hx hc ht => cases hp
  | derived c x d hx hc ht =>
    cases hp
    have hn : s'.contexts[s.contexts.length]? = some (x.derive s.world.timeline d).1 := by
      simp [hc]
    cases d with
    | copy => exact ⟨⟨x, x, hold hx, hn, hself⟩, fun _ => ⟨x, x, hn, hold hx, hself⟩⟩
    | _ =>
      refine ⟨⟨x, _, hold hx, hn, ?_⟩, fun ho => nomatch ho⟩
      rw [ht]
      change x.token ∈ (s.world.timeline.child x.token).2.lineage s.world.timeline.lineages.length
      rw [Timeline.lineage_child, if_pos rfl]
      exact List.mem_cons_of_mem _ (hs.self _)
  | begun k c i x hx hc ht =>
    cases hp
    have hn : s'.contexts[s.contexts.length]? = some (x.carrying i) := by
      simp [hc]
    exact ⟨⟨x, _, hold hx, hn, hself⟩, fun _ => ⟨_, x, hn, hold hx, hself⟩⟩

variable (D direct)

theorem above_of_made (d : δ) (depots : List Depot) (ops : List (Operation ε)) {o : Operation ε}
    {p n : Nat} (h : Made D direct (initial d depots) ops o p n) :
    Above (run D direct (initial d depots) ops) p n ∧
      (o.forks = false → Above (run D direct (initial d depots) ops) n p) := by
  obtain ⟨before, after, rfl, hn, hnew⟩ := h.made
  have hs := (rooted_run D direct d depots before).sound
  obtain ⟨hdown, hup⟩ := (passage_step D direct (run D direct (initial d depots) before) o).made hs
    h.source (by rw [hn, hnew])
  rw [hn] at hdown hup
  have hrest := run_append D direct (initial d depots) before (o :: after)
  have hc := contexts_run D direct (step D direct (run D direct (initial d depots) before) o) after
  have hl := later_run D direct (step D direct (run D direct (initial d depots) before) o) after
  rw [hrest]
  exact ⟨hdown.passage hc hl, fun ho => (hup ho).passage hc hl⟩

theorem above_of_governs (d : δ) (depots : List Depot) (ops : List (Operation ε)) {a b : Nat}
    (h : Governs D direct (initial d depots) ops a b)
    (ha : a < (run D direct (initial d depots) ops).contexts.length) :
    Above (run D direct (initial d depots) ops) a b := by
  have hs := (rooted_run D direct d depots ops).sound
  induction h with
  | refl => exact .refl hs ha
  | tail _ hlink ih =>
    refine ih.trans hs ?_
    cases hlink with
    | down hm => exact (above_of_made D direct d depots ops hm).1
    | up hm ho => exact (above_of_made D direct d depots ops hm).2 ho

end Scene

end UnitOfWork
