import UnitOfWork.Proofs.Timeline

/-!
What stays as time goes on. Main statement: what is refused because of a cancellation or a deadline
is refused for ever.
-/
namespace UnitOfWork.Timeline

theorem lineage_child (tl : Timeline) (p k : Nat) :
    (tl.child p).2.lineage k =
      if k = tl.lineages.length then tl.lineages.length :: tl.lineage p else tl.lineage k := by
  simp only [lineage, child]
  by_cases hk : k = tl.lineages.length
  · simp [hk]
  · rw [if_neg hk]
    by_cases hl : k < tl.lineages.length
    · rw [List.getElem?_append_left hl]
    · rw [List.getElem?_eq_none (by simp; omega), List.getElem?_eq_none (by omega)]

structure Later (tl tl' : Timeline) : Prop where
  now : tl.now ≤ tl'.now
  lineages : tl.lineages.length ≤ tl'.lineages.length
  known : ∀ k < tl.lineages.length, tl'.lineage k = tl.lineage k
  lineage : ∀ k, tl.lineage k ⊆ tl'.lineage k
  cancelled : tl.cancelled ⊆ tl'.cancelled
  alarms : ∀ a ∈ tl.alarms, a ∈ tl'.alarms ∨ a.token ∈ tl'.cancelled

namespace Later

variable {tl tl' tl'' : Timeline}

theorem refl (tl : Timeline) : tl.Later tl :=
  ⟨Nat.le_refl _, Nat.le_refl _, fun _ _ => rfl, fun _ => List.Subset.refl _, List.Subset.refl _,
    fun _ ha => .inl ha⟩

theorem trans (h : tl.Later tl') (h' : tl'.Later tl'') : tl.Later tl'' := by
  refine ⟨Nat.le_trans h.now h'.now, Nat.le_trans h.lineages h'.lineages, ?_, ?_,
    List.Subset.trans h.cancelled h'.cancelled, ?_⟩
  · intro k hk
    rw [h'.known k (Nat.lt_of_lt_of_le hk h.lineages), h.known k hk]
  · exact fun k => List.Subset.trans (h.lineage k) (h'.lineage k)
  · intro a ha
    obtain ha | ha := h.alarms a ha
    · exact h'.alarms a ha
    · exact .inr (h'.cancelled ha)

theorem of_child (tl : Timeline) (p : Nat) : tl.Later (tl.child p).2 := by
  refine ⟨Nat.le_refl _, by simp [child], ?_, ?_, List.Subset.refl _, fun a ha => .inl ha⟩
  · intro k hk
    rw [lineage_child, if_neg (Nat.ne_of_lt hk)]
  · intro k
    rw [lineage_child]
    split
    · -- a token that has not been made yet is known by itself alone
      rw [Timeline.lineage, List.getElem?_eq_none (by omega), Option.getD_none]
      simp [*]
    · exact List.Subset.refl _

theorem of_cancel (tl : Timeline) (token : Nat) : tl.Later (tl.cancel token) :=
  ⟨Nat.le_refl _, Nat.le_refl _, fun _ _ => rfl, fun _ => List.Subset.refl _,
    List.subset_cons_self _ _, fun _ ha => .inl ha⟩

theorem of_cancelAfter (tl : Timeline) (token ms : Nat) : tl.Later (tl.cancelAfter token ms) := by
  unfold cancelAfter
  split
  · exact of_cancel tl token
  · exact ⟨Nat.le_refl _, Nat.le_refl _, fun _ _ => rfl, fun _ => List.Subset.refl _,
      List.Subset.refl _, fun _ ha => .inl (List.mem_append_left _ ha)⟩

theorem of_advance (tl : Timeline) (instant : Nat) : tl.Later (tl.advance instant) := by
  refine ⟨Nat.le_max_left _ _, Nat.le_refl _, fun _ _ => rfl, fun _ => List.Subset.refl _,
    List.subset_append_right _ _, ?_⟩
  intro a ha
  by_cases hdue : a.due ≤ instant
  · exact .inr (List.mem_append_left _
      (List.mem_map_of_mem (List.mem_filter.mpr ⟨ha, decide_eq_true hdue⟩)))
  · exact .inl (List.mem_filter.mpr ⟨ha, decide_eq_true (Nat.lt_of_not_le hdue)⟩)

theorem isCancelled (h : tl.Later tl') {token : Nat} (hc : tl.isCancelled token = true) :
    tl'.isCancelled token = true := by
  simp only [Timeline.isCancelled, List.any_eq_true, List.contains_iff_mem] at hc ⊢
  obtain ⟨t, ht, hm⟩ := hc
  exact ⟨t, h.lineage token ht, h.cancelled hm⟩

end Later

def Refuses (tl : Timeline) (token : Nat) (deadline : Option Nat) : Prop :=
  tl.isCancelled token = true ∨ ∃ d, deadline = some d ∧ d ≤ tl.now

theorem Refuses.later {tl tl' : Timeline} {token : Nat} {deadline : Option Nat}
    (h : tl.Refuses token deadline) (hl : tl.Later tl') : tl'.Refuses token deadline := by
  obtain hc | ⟨d, hd, hnow⟩ := h
  · exact .inl (hl.isCancelled hc)
  · exact .inr ⟨d, hd, Nat.le_trans hnow hl.now⟩

def refusal (tl : Timeline) (token : Nat) : Failure :=
  if tl.isCancelled token then .cancelled else .deadlineExceeded

theorem check_error_iff (tl : Timeline) (token : Nat) (deadline : Option Nat) (e : Failure) :
    tl.check token deadline = .error e ↔
      tl.Refuses token deadline ∧ e = tl.refusal token := by
  unfold check refusal Refuses
  cases hc : tl.isCancelled token with
  | true => simp [eq_comm]
  | false =>
    cases deadline with
    | none => simp
    | some d => by_cases hd : d ≤ tl.now <;> simp [hd, eq_comm]

theorem Refuses.check {tl : Timeline} {token : Nat} {deadline : Option Nat}
    (h : tl.Refuses token deadline) : tl.check token deadline = .error (tl.refusal token) :=
  (check_error_iff tl token deadline _).mpr ⟨h, rfl⟩

theorem Refuses.guarded {tl : Timeline} {token : Nat} {deadline : Option Nat}
    (h : tl.Refuses token deadline) (ms : Nat) :
    tl.guarded token deadline ms = (.error (tl.refusal token), tl) := by
  simp only [Timeline.guarded, h.check]

theorem check_ok_iff (tl : Timeline) (token : Nat) (deadline : Option Nat) :
    tl.check token deadline = .ok () ↔ ¬ tl.Refuses token deadline := by
  cases hc : tl.check token deadline with
  | ok => exact ⟨fun _ h => (nomatch h.check.symm.trans hc), fun _ => rfl⟩
  | error e => simp [((check_error_iff tl token deadline e).mp hc).1]

structure Undisturbed (tl : Timeline) (token : Nat) (deadline : Option Nat) (ms : Nat) : Prop where
  silent : ∀ a ∈ tl.alarms, a.token ∈ tl.lineage token → tl.now + ms ≤ a.due
  ample : ∀ d, deadline = some d → tl.now < d → tl.now + ms < d

theorem Undisturbed.guarded {tl : Timeline} {token : Nat} {deadline : Option Nat} {ms : Nat}
    (h : tl.Undisturbed token deadline ms) (hc : tl.check token deadline = .ok ()) :
    tl.guarded token deadline ms = (.ok (), tl.wait ms) := by
  have hlate : ∀ d, deadline = some d → ¬ d ≤ tl.now + ms := by
    intro d hd hfinish
    by_cases hnow : d ≤ tl.now
    · exact (check_ok_iff ..).mp hc (.inr ⟨d, hd, hnow⟩)
    · exact absurd (h.ample d hd (by omega)) (by omega)
  have hcancel : ∀ instant, tl.nextCancel? token = some instant → ¬ instant < tl.now + ms := by
    intro instant hnext
    obtain ⟨a, ha, htoken, rfl⟩ := exists_alarm_of_nextCancel? hnext
    exact Nat.not_lt_of_le (h.silent a ha htoken)
  have hending : tl.ending token deadline ms = (.ok (), tl.now + ms) := by
    unfold ending
    extract_lets finish latest
    have hlatest : latest = (.ok (), tl.now + ms) := by
      cases deadline with
      | none => rfl
      | some d => exact if_neg (hlate d rfl)
    rw [hlatest]
    cases hnext : tl.nextCancel? token with
    | none => rfl
    | some instant => exact if_neg (hcancel instant hnext)
  simp only [Timeline.guarded, hc, hending, wait]

structure Sound (tl : Timeline) : Prop where
  self : ∀ k, k ∈ tl.lineage k
  bounded : ∀ k < tl.lineages.length, ∀ b ∈ tl.lineage k, b < tl.lineages.length
  closed : ∀ k, ∀ b ∈ tl.lineage k, tl.lineage b ⊆ tl.lineage k
  waiting : ∀ a ∈ tl.alarms, tl.now < a.due

namespace Sound

variable {tl : Timeline}

theorem initial : Timeline.initial.Sound := by
  have hself (k : Nat) : Timeline.initial.lineage k = [k] := by
    cases k <;> rfl
  refine ⟨?_, ?_, ?_, by simp [Timeline.initial]⟩
  · intro k
    rw [hself]
    exact List.mem_singleton.mpr rfl
  · intro k hk b hb
    rw [hself, List.mem_singleton] at hb
    rw [hb]
    exact hk
  · intro k b hb
    rw [hself, List.mem_singleton] at hb
    rw [hb]
    exact List.Subset.refl _

theorem cancel (h : tl.Sound) (token : Nat) : (tl.cancel token).Sound :=
  ⟨h.self, h.bounded, h.closed, h.waiting⟩

theorem cancelAfter (h : tl.Sound) (token ms : Nat) : (tl.cancelAfter token ms).Sound := by
  unfold Timeline.cancelAfter
  split
  · exact h.cancel token
  · refine ⟨h.self, h.bounded, h.closed, ?_⟩
    intro a ha
    obtain ha | ha := List.mem_append.mp ha
    · exact h.waiting a ha
    · rw [List.mem_singleton.mp ha]
      change tl.now < tl.now + ms
      omega

theorem advance (h : tl.Sound) (instant : Nat) : (tl.advance instant).Sound := by
  refine ⟨h.self, h.bounded, h.closed, ?_⟩
  intro a ha
  obtain ⟨ha, hdue⟩ := List.mem_filter.mp ha
  exact Nat.max_lt.mpr ⟨h.waiting a ha, of_decide_eq_true hdue⟩

theorem child (h : tl.Sound) {p : Nat} (hp : p < tl.lineages.length) : (tl.child p).2.Sound := by
  have hlength : (tl.child p).2.lineages.length = tl.lineages.length + 1 := by
    simp [Timeline.child]
  have hold (k b : Nat) (hk : k ≠ tl.lineages.length) (hb : b ∈ tl.lineage k) :
      b ≠ tl.lineages.length := by
    by_cases hl : k < tl.lineages.length
    · exact Nat.ne_of_lt (h.bounded k hl b hb)
    · rw [lineage, List.getElem?_eq_none (by omega)] at hb
      rw [List.mem_singleton.mp hb]
      exact hk
  refine ⟨?_, ?_, ?_, h.waiting⟩
  · intro k
    rw [lineage_child]
    split
    · rw [‹k = _›]
      exact List.mem_cons_self
    · exact h.self k
  · intro k hk b hb
    rw [hlength] at hk ⊢
    rw [lineage_child] at hb
    split at hb
    · obtain rfl | hb := List.mem_cons.mp hb
      · omega
      · exact Nat.lt_succ_of_lt (h.bounded p hp b hb)
    · exact Nat.lt_succ_of_lt (h.bounded k (by omega) b hb)
  · intro k b hb
    rw [lineage_child] at hb ⊢
    rw [lineage_child]
    by_cases hk : k = tl.lineages.length
    · rw [if_pos hk] at hb ⊢
      obtain rfl | hb := List.mem_cons.mp hb
      · rw [if_pos rfl]
        exact List.Subset.refl _
      · rw [if_neg (hold p b (Nat.ne_of_lt hp) hb)]
        exact List.subset_cons_of_subset _ (h.closed p b hb)
    · rw [if_neg hk] at hb ⊢
      rw [if_neg (hold k b hk hb)]
      exact h.closed k b hb

theorem guarded_at_once (h : tl.Sound) {token : Nat} {deadline : Option Nat}
    (hc : tl.check token deadline = .ok ()) : tl.guarded token deadline 0 = (.ok (), tl) := by
  have hundisturbed : tl.Undisturbed token deadline 0 :=
    ⟨fun a ha _ => Nat.le_of_lt (h.waiting a ha), fun _ _ hd => hd⟩
  have hwait : tl.wait 0 = tl := by
    have hnone : tl.alarms.filter (fun a => a.due ≤ tl.now) = [] := by
      rw [List.filter_eq_nil_iff]
      intro a ha hdue
      exact absurd (of_decide_eq_true hdue) (Nat.not_le_of_lt (h.waiting a ha))
    have hall : tl.alarms.filter (fun a => tl.now < a.due) = tl.alarms := by
      rw [List.filter_eq_self]
      exact fun a ha => decide_eq_true (h.waiting a ha)
    rw [wait, Timeline.advance, Nat.add_zero, hnone, hall, Nat.max_self]
    rfl
  rw [hundisturbed.guarded hc, hwait]

end Sound

def Waited (tl tl' : Timeline) : Prop := tl' = tl ∨ ∃ instant, tl' = tl.advance instant

namespace Waited

variable {tl tl' : Timeline}

theorem of_eq (h : tl' = tl) : tl.Waited tl' := .inl h

theorem of_guarded (tl : Timeline) (token : Nat) (deadline : Option Nat) (ms : Nat) :
    tl.Waited (tl.guarded token deadline ms).2 := by
  unfold guarded
  split
  · exact .inl rfl
  · exact .inr ⟨_, rfl⟩

theorem later (h : tl.Waited tl') : tl.Later tl' := by
  obtain rfl | ⟨instant, rfl⟩ := h
  · exact .refl _
  · exact .of_advance tl instant

theorem sound (h : tl.Waited tl') (hs : tl.Sound) : tl'.Sound := by
  obtain rfl | ⟨instant, rfl⟩ := h
  · exact hs
  · exact hs.advance instant

end Waited

end UnitOfWork.Timeline
