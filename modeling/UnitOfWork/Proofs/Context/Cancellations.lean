import UnitOfWork.Proofs.Context.Tokens

namespace UnitOfWork

namespace Timeline

variable (tl : Timeline) (token : Nat) (deadline : Option Nat) (ms : Nat)

theorem exists_nextCancel? {a : Alarm} (ha : a ∈ tl.alarms) (htoken : a.token ∈ tl.lineage token) :
    ∃ instant, tl.nextCancel? token = some instant := by
  cases h : tl.nextCancel? token with
  | some instant => exact ⟨instant, rfl⟩
  | none =>
    have hnil := List.map_eq_nil_iff.mp (List.min?_eq_none_iff.mp h)
    exact absurd (List.contains_iff_mem.mpr htoken) (List.filter_eq_nil_iff.mp hnil a ha)

theorem ending_error_iff : (∃ e, (tl.ending token deadline ms).1 = .error e) ↔
    (∃ a ∈ tl.alarms, a.token ∈ tl.lineage token ∧ a.due < tl.now + ms) ∨
      ∃ d, deadline = some d ∧ d ≤ tl.now + ms := by
  unfold ending
  extract_lets finish latest
  -- the deadline is what the wait ends with if it does not come after the end
  have hlatest : (∃ d, deadline = some d ∧ d ≤ finish ∧ latest = (.error .deadlineExceeded, d)) ∨
      (∀ d, deadline = some d → ¬ d ≤ finish) ∧ latest = (.ok (), finish) := by
    cases deadline with
    | none => exact .inr ⟨nofun, rfl⟩
    | some d =>
      by_cases hd : d ≤ finish
      · exact .inl ⟨d, rfl, hd, by simp only [latest, hd, if_true]⟩
      · refine .inr ⟨?_, by simp only [latest, hd, if_false]⟩
        rintro d' ⟨⟩
        exact hd
  cases hnext : tl.nextCancel? token with
  | none =>
    have hnone : ¬ ∃ a ∈ tl.alarms, a.token ∈ tl.lineage token ∧ a.due < tl.now + ms := by
      rintro ⟨a, ha, htoken, -⟩
      obtain ⟨instant, hinstant⟩ := exists_nextCancel? tl token ha htoken
      cases hnext.symm.trans hinstant
    obtain ⟨d, hd, hle, hl⟩ | ⟨hlate, hl⟩ := hlatest
    · simp only [hl]
      exact ⟨fun _ => .inr ⟨d, hd, hle⟩, fun _ => ⟨_, rfl⟩⟩
    · simp only [hl]
      refine ⟨by rintro ⟨e, ⟨⟩⟩, ?_⟩
      rintro (halarm | ⟨d, hd, hle⟩)
      · exact absurd halarm hnone
      · exact absurd hle (hlate d hd)
  | some instant =>
    obtain ⟨a, ha, htoken, hdue⟩ := exists_alarm_of_nextCancel? hnext
    obtain ⟨d, hd, hle, hl⟩ | ⟨hlate, hl⟩ := hlatest
    · simp only [hl]
      refine ⟨fun _ => .inr ⟨d, hd, hle⟩, fun _ => ?_⟩
      split <;> exact ⟨_, rfl⟩
    · simp only [hl]
      by_cases hfirst : instant < finish
      · rw [if_pos hfirst]
        exact ⟨fun _ => .inl ⟨a, ha, htoken, hdue ▸ hfirst⟩, fun _ => ⟨_, rfl⟩⟩
      · rw [if_neg hfirst]
        refine ⟨by rintro ⟨e, ⟨⟩⟩, ?_⟩
        rintro (⟨b, hb, hbtoken, hbdue⟩ | ⟨d, hd, hle⟩)
        · have hmin := le_due_of_nextCancel? hnext b hb hbtoken
          exact absurd (Nat.lt_of_le_of_lt hmin hbdue) hfirst
        · exact absurd hle (hlate d hd)

theorem guarded_error_iff : (∃ e, (tl.guarded token deadline ms).1 = .error e) ↔
    tl.isCancelled token = true ∨
      (∃ a ∈ tl.alarms, a.token ∈ tl.lineage token ∧ a.due < tl.now + ms) ∨
      ∃ d, deadline = some d ∧ d ≤ tl.now + ms := by
  by_cases h : tl.Refuses token deadline
  · rw [h.guarded]
    refine ⟨fun _ => ?_, fun _ => ⟨_, rfl⟩⟩
    obtain hc | ⟨d, hd, hnow⟩ := h
    · exact .inl hc
    · exact .inr (.inr ⟨d, hd, Nat.le_add_right_of_le hnow⟩)
  · simp only [guarded, (check_ok_iff ..).mpr h]
    rw [ending_error_iff]
    exact (or_iff_right fun hc => h (.inl hc)).symm

end Timeline

def Cancellation.Concerns (e : Cancellation) (contexts : List Context) (token : Nat) : Prop :=
  ∃ x, contexts[e.context]? = some x ∧ x.token = token

namespace Chronicle

structure Called (tl : Timeline) (contexts : List Context) (h : Chronicle) : Prop where
  known : ∀ e ∈ h.cancellations, e.context < contexts.length
  cancelled : ∀ k, k ∈ tl.cancelled ↔
    ∃ e ∈ h.cancellations, e.instant ≤ tl.now ∧ e.Concerns contexts k
  alarms : ∀ due k, ⟨due, k⟩ ∈ tl.alarms ↔
    ∃ e ∈ h.cancellations, e.instant = due ∧ tl.now < due ∧ e.Concerns contexts k

namespace Called

variable {tl tl' : Timeline} {contexts : List Context} {h h' : Chronicle} {x : Context} {c : Nat}

theorem initial : Called .initial [.background] .initial := by
  constructor <;> simp [Timeline.initial, Chronicle.initial]

theorem waited (hc : Called tl contexts h) (hw : tl.Waited tl') : Called tl' contexts h := by
  obtain rfl | ⟨instant, rfl⟩ := hw
  · exact hc
  refine ⟨hc.known, ?_, ?_⟩
  · intro k
    constructor
    · intro hk
      obtain hfired | hk := List.mem_append.mp hk
      · obtain ⟨⟨due, k⟩, ha, rfl⟩ := List.mem_map.mp hfired
        obtain ⟨ha, hdue⟩ := List.mem_filter.mp ha
        obtain ⟨e, he, rfl, -, hconcerns⟩ := (hc.alarms due k).mp ha
        exact ⟨e, he, Nat.le_trans (of_decide_eq_true hdue) (Nat.le_max_right _ _), hconcerns⟩
      · obtain ⟨e, he, hle, hconcerns⟩ := (hc.cancelled k).mp hk
        exact ⟨e, he, Nat.le_trans hle (Nat.le_max_left _ _), hconcerns⟩
    · rintro ⟨e, he, hle, hconcerns⟩
      by_cases hnow : e.instant ≤ tl.now
      · exact List.mem_append_right _ ((hc.cancelled k).mpr ⟨e, he, hnow, hconcerns⟩)
      · have ha := (hc.alarms e.instant k).mpr ⟨e, he, rfl, Nat.lt_of_not_le hnow, hconcerns⟩
        have hdue : e.instant ≤ instant := by
          change e.instant ≤ max tl.now instant at hle
          omega
        exact List.mem_append_left _
          (List.mem_map_of_mem (List.mem_filter.mpr ⟨ha, decide_eq_true hdue⟩))
  · intro due k
    rw [Timeline.advance, List.mem_filter, hc.alarms]
    constructor
    · rintro ⟨⟨e, he, hdue, hnow, hconcerns⟩, hlater⟩
      exact ⟨e, he, hdue, Nat.max_lt.mpr ⟨hnow, of_decide_eq_true hlater⟩, hconcerns⟩
    · rintro ⟨e, he, hdue, hlater, hconcerns⟩
      obtain ⟨hnow, hlater⟩ := Nat.max_lt.mp hlater
      exact ⟨⟨e, he, hdue, hnow, hconcerns⟩, decide_eq_true hlater⟩

theorem snoc (hc : Called tl contexts h) (hnow : tl'.now = tl.now)
    (hcancelled : tl'.cancelled = tl.cancelled) (halarms : tl'.alarms = tl.alarms)
    (hcalls : h'.cancellations = h.cancellations) (x : Context) :
    Called tl' (contexts ++ [x]) h' := by
  have hconcerns (e : Cancellation) (he : e ∈ h.cancellations) (k : Nat) :
      e.Concerns (contexts ++ [x]) k ↔ e.Concerns contexts k := by
    simp only [Cancellation.Concerns, List.getElem?_append_left (hc.known e he)]
  refine ⟨?_, ?_, ?_⟩
  · intro e he
    rw [hcalls] at he
    simpa using Nat.lt_succ_of_lt (hc.known e he)
  · intro k
    rw [hcancelled, hnow, hcalls, hc.cancelled]
    exact exists_congr fun e => and_congr_right fun he => and_congr_right fun _ => (hconcerns e he k).symm
  · intro due k
    rw [halarms, hnow, hcalls, hc.alarms]
    exact exists_congr fun e => and_congr_right fun he => and_congr_right fun _ =>
      and_congr_right fun _ => (hconcerns e he k).symm

theorem cancelAfter (hc : Called tl contexts h) (hx : contexts[c]? = some x) (ms : Nat) :
    Called (tl.cancelAfter x.token ms) contexts (h.cancel c (tl.now + ms)) := by
  have hnew (instant k : Nat) : Cancellation.Concerns ⟨c, instant⟩ contexts k ↔ k = x.token := by
    simp [Cancellation.Concerns, hx, eq_comm]
  have hknown : ∀ e ∈ (h.cancel c (tl.now + ms)).cancellations, e.context < contexts.length := by
    intro e he
    obtain rfl | he := List.mem_cons.mp he
    · exact (List.getElem?_eq_some_iff.mp hx).1
    · exact hc.known e he
  unfold Timeline.cancelAfter
  split
  · subst ms
    refine ⟨hknown, ?_, ?_⟩
    · intro k
      simp only [Timeline.cancel, Chronicle.cancel, List.mem_cons, or_and_right, exists_or,
        exists_eq_left, hnew, hc.cancelled]
      simp
    · intro due k
      simp only [Timeline.cancel, Chronicle.cancel, List.mem_cons, or_and_right, exists_or,
        exists_eq_left, hnew, hc.alarms]
      refine (or_iff_right ?_).symm
      omega
  · refine ⟨hknown, ?_, ?_⟩
    · intro k
      simp only [Chronicle.cancel, List.mem_cons, or_and_right, exists_or, exists_eq_left, hnew,
        hc.cancelled]
      refine (or_iff_right ?_).symm
      omega
    · intro due k
      simp only [Chronicle.cancel, List.mem_append, List.mem_cons, List.not_mem_nil, or_false,
        Alarm.mk.injEq, or_and_right, exists_or, exists_eq_left, hnew, hc.alarms]
      rw [or_comm]
      refine or_congr ?_ Iff.rfl
      omega

end Called

variable {owners : List Nat} {tl : Timeline} {contexts : List Context} {h : Chronicle}
  {x : Context} {c : Nat}

theorem isCancelled_iff (hl : h.Linked) (ht : Tokens owners tl contexts h)
    (hc : Called tl contexts h) (hx : contexts[c]? = some x) :
    tl.isCancelled x.token = true ↔
      ∃ e ∈ h.cancellations, e.instant ≤ tl.now ∧ h.Governs e.context c := by
  simp only [Timeline.isCancelled, List.any_eq_true, List.contains_iff_mem]
  constructor
  · rintro ⟨k, hk, hcancelled⟩
    obtain ⟨e, he, hnow, y, hy, rfl⟩ := (hc.cancelled k).mp hcancelled
    exact ⟨e, he, hnow, (ht.governs_iff hl hy hx).mpr hk⟩
  · rintro ⟨e, he, hnow, hg⟩
    have hy := List.getElem?_eq_getElem (hc.known e he)
    exact ⟨_, (ht.governs_iff hl hy hx).mp hg, (hc.cancelled _).mpr ⟨e, he, hnow, _, hy, rfl⟩⟩

theorem exists_min?_le {instants : List Nat} {instant : Nat} (h : instant ∈ instants) :
    ∃ d, instants.min? = some d ∧ d ≤ instant := by
  cases hmin : instants.min? with
  | none =>
    rw [List.min?_eq_none_iff.mp hmin] at h
    cases h
  | some d => exact ⟨d, rfl, (List.min?_eq_some_iff.mp hmin).2 instant h⟩

theorem stops_iff (hl : h.Linked) (ht : Tokens owners tl contexts h) (hc : Called tl contexts h)
    (hx : contexts[c]? = some x) (ms : Nat) :
    (∃ e, (tl.guarded x.token x.deadline ms).1 = .error e) ↔ h.Stops tl.now ms c := by
  obtain ⟨line, hline, hfits⟩ := ht.exists_line hx
  rw [Timeline.guarded_error_iff]
  constructor
  · rintro (hcancelled | ⟨⟨due, k⟩, ha, hk, hdue⟩ | ⟨d, hd, hle⟩)
    · obtain ⟨e, he, hnow, hg⟩ := (isCancelled_iff hl ht hc hx).mp hcancelled
      exact .cancelled e he hg (.inl hnow)
    · obtain ⟨e, he, rfl, -, y, hy, rfl⟩ := (hc.alarms due k).mp ha
      exact .cancelled e he ((ht.governs_iff hl hy hx).mpr hk) (.inr hdue)
    · exact .late line d hline (List.min?_mem (hfits.deadline.symm.trans hd)) hle
  · rintro (⟨e, he, hg, hi⟩ | ⟨line', instant, hline', hd, hle⟩)
    · by_cases hnow : e.instant ≤ tl.now
      · exact .inl ((isCancelled_iff hl ht hc hx).mpr ⟨e, he, hnow, hg⟩)
      · have hy := List.getElem?_eq_getElem (hc.known e he)
        have ha := (hc.alarms e.instant _).mpr ⟨e, he, rfl, Nat.lt_of_not_le hnow, _, hy, rfl⟩
        exact .inr (.inl ⟨_, ha, (ht.governs_iff hl hy hx).mp hg, hi.resolve_left hnow⟩)
    · obtain rfl : line = line' := Option.some.inj (hline.symm.trans hline')
      obtain ⟨d, hmin, hleast⟩ := exists_min?_le hd
      exact .inr (.inr ⟨d, hfits.deadline.trans hmin, Nat.le_trans hleast hle⟩)

theorem refuses_iff (hl : h.Linked) (ht : Tokens owners tl contexts h) (hc : Called tl contexts h)
    (hx : contexts[c]? = some x) : tl.Refuses x.token x.deadline ↔ h.Stops tl.now 0 c := by
  rw [← stops_iff hl ht hc hx 0, Timeline.guarded_error_iff]
  constructor
  · rintro (hcancelled | hlate)
    · exact .inl hcancelled
    · exact .inr (.inr hlate)
  · rintro (hcancelled | ⟨⟨due, k⟩, ha, -, hdue⟩ | hlate)
    · exact .inl hcancelled
    · obtain ⟨e, -, -, hnow, -⟩ := (hc.alarms due k).mp ha
      exact absurd hdue (Nat.lt_asymm hnow)
    · exact .inr hlate

end Chronicle

end UnitOfWork
