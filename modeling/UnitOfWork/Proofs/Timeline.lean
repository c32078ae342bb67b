import UnitOfWork.Timeline

namespace UnitOfWork.Timeline

structure Calm (tl : Timeline) (token : Nat) : Prop where
  clear : tl.isCancelled token = false
  silent : ∀ a ∈ tl.alarms, a.token ∉ tl.lineage token

namespace Calm

variable {tl : Timeline} {token : Nat}

theorem advance (h : tl.Calm token) (instant : Nat) : (tl.advance instant).Calm token := by
  constructor
  · have hclear := h.clear
    simp only [isCancelled, List.any_eq_false, List.contains_iff_mem] at hclear ⊢
    intro t ht hm
    obtain hf | hm := List.mem_append.mp hm
    · obtain ⟨a, ha, rfl⟩ := List.mem_map.mp hf
      exact h.silent a (List.mem_filter.mp ha).1 ht
    · exact hclear t ht hm
  · intro a ha
    exact h.silent a (List.mem_filter.mp ha).1

theorem check (h : tl.Calm token) : tl.check token none = .ok () := by
  simp [Timeline.check, h.clear]

theorem nextCancel? (h : tl.Calm token) : tl.nextCancel? token = none := by
  have hf : (tl.alarms.filter fun a => (tl.lineage token).contains a.token) = [] := by
    apply List.filter_eq_nil_iff.mpr
    intro a ha hm
    exact h.silent a ha (List.contains_iff_mem.mp hm)
  rw [Timeline.nextCancel?, hf]
  rfl

theorem guarded (h : tl.Calm token) (ms : Nat) :
    (tl.guarded token none ms).1 = .ok () ∧ (tl.guarded token none ms).2.Calm token := by
  simp only [Timeline.guarded, h.check, ending, h.nextCancel?]
  exact ⟨trivial, h.advance _⟩

end Calm

inductive Halts (tl : Timeline) (token : Nat) (deadline : Option Nat) : Failure → Prop where
  | cancelled (h : tl.isCancelled token = true) : Halts tl token deadline .cancelled
  | late (d : Nat) (hd : deadline = some d) (h : d ≤ tl.now) :
    Halts tl token deadline .deadlineExceeded

variable {tl : Timeline} {token : Nat} {deadline : Option Nat} {e : Failure}

theorem check_halts (h : tl.check token deadline = .error e) : tl.Halts token deadline e := by
  unfold check at h
  split at h
  · cases h
    exact .cancelled ‹_›
  · split at h
    · cases h
      obtain ⟨d, hd, hnow⟩ := (Option.any_eq_true ..).mp ‹_›
      exact .late d hd (of_decide_eq_true hnow)
    · cases h

theorem Halts.kind (h : tl.Halts token deadline e) : e = .cancelled ∨ e = .deadlineExceeded := by
  cases h with
  | cancelled => exact .inl rfl
  | late => exact .inr rfl

theorem le_due_of_nextCancel? {instant : Nat} (h : tl.nextCancel? token = some instant) :
    ∀ a ∈ tl.alarms, a.token ∈ tl.lineage token → instant ≤ a.due := by
  intro a ha htoken
  exact (List.min?_eq_some_iff.mp h).2 a.due (List.mem_map_of_mem
    (List.mem_filter.mpr ⟨ha, List.contains_iff_mem.mpr htoken⟩))

theorem exists_alarm_of_nextCancel? {instant : Nat} (h : tl.nextCancel? token = some instant) :
    ∃ a ∈ tl.alarms, a.token ∈ tl.lineage token ∧ a.due = instant := by
  obtain ⟨a, ha, hdue⟩ := List.mem_map.mp (List.min?_mem h)
  obtain ⟨ha, htoken⟩ := List.mem_filter.mp ha
  exact ⟨a, ha, List.contains_iff_mem.mp htoken, hdue⟩

theorem isCancelled_of_nextCancel? {instant : Nat} (h : tl.nextCancel? token = some instant) :
    (tl.advance instant).isCancelled token = true := by
  obtain ⟨a, ha, htoken, hdue⟩ := exists_alarm_of_nextCancel? h
  have hfired : a.token ∈ (tl.advance instant).cancelled :=
    List.mem_append_left _
      (List.mem_map_of_mem (List.mem_filter.mpr ⟨ha, decide_eq_true (Nat.le_of_eq hdue)⟩))
  exact List.any_eq_true.mpr ⟨a.token, htoken, List.contains_iff_mem.mpr hfired⟩

theorem ending_halts {ms : Nat} (h : (tl.ending token deadline ms).1 = .error e) :
    (tl.advance (tl.ending token deadline ms).2).Halts token deadline e := by
  unfold ending at h ⊢
  extract_lets finish latest at h
  extract_lets
  have hlatest : latest.1 = .error e → (tl.advance latest.2).Halts token deadline e := by
    intro he
    cases deadline with
    | none => cases he
    | some d =>
      by_cases hd : d ≤ finish
      · simp only [latest, hd, if_true] at he ⊢
        cases he
        exact .late d rfl (Nat.le_max_right _ _)
      · simp only [latest, hd, if_false] at he
        cases he
  cases hcancel : tl.nextCancel? token with
  | none =>
    simp only [hcancel] at h ⊢
    exact hlatest h
  | some instant =>
    simp only [hcancel] at h ⊢
    by_cases hfirst : instant < latest.2
    · rw [if_pos hfirst] at h ⊢
      cases h
      exact .cancelled (isCancelled_of_nextCancel? hcancel)
    · rw [if_neg hfirst] at h ⊢
      exact hlatest h

theorem guarded_halts {ms : Nat} (h : (tl.guarded token deadline ms).1 = .error e) :
    (tl.guarded token deadline ms).2.Halts token deadline e := by
  unfold guarded at h ⊢
  split at h
  · cases h
    exact check_halts ‹_›
  · exact ending_halts h

end UnitOfWork.Timeline
