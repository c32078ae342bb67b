import UnitOfWork.Proofs.Context.Captures
import UnitOfWork.Recording

namespace UnitOfWork

variable {δ τ ε : Type}

namespace Chronicle

structure Derived (s : Scene δ τ) (h : Chronicle) : Prop where
  lines : h.lines.length = s.contexts.length
  token : ∀ (a c : Nat) (y x : Context), s.contexts[a]? = some y → s.contexts[c]? = some x →
    (y.token = x.token ↔ h.owner? a = h.owner? c)
  cancelled : ∀ (c : Nat) (x : Context), s.contexts[c]? = some x →
    (s.world.timeline.isCancelled x.token = true ↔
      ∃ e ∈ h.cancellations, e.instant ≤ s.world.timeline.now ∧ h.Governs e.context c)
  self : ∀ (c : Nat) (x : Context), s.contexts[c]? = some x → h.Above c c
  apart : ∀ a c, h.owner? a = some a → h.Governs a c → h.Above a c
  deadline : ∀ (c : Nat) (x : Context) (line : Line), s.contexts[c]? = some x →
    h.lines[c]? = some line → x.deadline = line.instants.min?
  earlier : ∀ (b c : Nat) (y x : Context), s.contexts[b]? = some y → s.contexts[c]? = some x →
    h.Above b c → ∀ e, y.deadline = some e → ∃ d, x.deadline = some d ∧ d ≤ e
  session : ∀ (c : Nat) (x : Context) (line : Line), s.contexts[c]? = some x →
    h.lines[c]? = some line → x.session = line.session?

theorem Told.derived {s : Scene δ τ} {h : Chronicle} (ht : Told s h) : Derived s h := by
  obtain ⟨owners, htokens⟩ := ht.tokens
  constructor
  case lines => exact htokens.lines
  case token => exact fun a c y x hy hx => htokens.token_eq_iff hy hx
  case cancelled => exact fun c x hx => isCancelled_iff ht.linked htokens ht.called hx
  case self =>
    intro c x hx
    obtain ⟨line, hline, -⟩ := htokens.exists_line hx
    exact ht.linked.above_self hline
  case apart =>
    rintro a c hself ⟨b, ⟨line, hline, o, ho, rfl⟩, howner⟩
    obtain ⟨n, hn, ha⟩ :=
      (ht.linked.governs_iff hline).mp ⟨o.context, ⟨line, hline, o, ho, rfl⟩, howner⟩
    cases hself.symm.trans ha
    exact (ht.linked.owner?_of_mem hline hn).1
  case deadline => exact fun c x line hx hline => (htokens.fits c x line hx hline).deadline
  case earlier =>
    rintro b c y x hy hx ⟨line, hline, o, ho, rfl⟩ e he
    obtain ⟨rest, hrest, hsuffix⟩ := ht.linked.above c line hline o ho
    rw [(htokens.fits _ y _ hy hrest).deadline] at he
    have hmem : e ∈ line.instants := (hsuffix.filterMap _).subset (List.min?_mem he)
    obtain ⟨d, hd, hle⟩ := exists_min?_le hmem
    exact ⟨d, (htokens.fits c x line hx hline).deadline.trans hd, hle⟩
  case session => exact fun c x line hx hline => (htokens.fits c x line hx hline).session

/-- What is refused to sessions, by what is told of the contexts that they have been begun with.
Other contexts that carry a session make no difference to it, whatever they have come to. -/
structure Governed (D : Driver δ τ) (s : Scene δ τ) (h : Chronicle) : Prop where
  sessions : h.acquisitions.map Acquisition.session = List.range s.world.sessions.length
  bare : ∀ e ∈ h.acquisitions, ∃ x, s.contexts[e.context]? = some x ∧ x.session = none
  captured : ∀ e ∈ h.acquisitions, ∀ t x, s.world.session? e.session = some t →
    s.contexts[e.context]? = some x → t.token = x.token ∧ t.deadline = x.deadline
  ask : ∀ e ∈ h.acquisitions, ∀ t q st y, s.world.session? e.session = some t →
    q.statement t.dialect = .ok st → t.transaction = some y →
    (h.Stops s.world.timeline.now (D.delay s.world.databases y) e.context →
      ∃ f, (f = .cancelled ∨ f = .deadlineExceeded) ∧
        (s.world.ask D t q).1 = .error (.statement st.sql f) ∧
        (s.world.ask D t q).2.databases = s.world.databases) ∧
    (¬ h.Stops s.world.timeline.now (D.delay s.world.databases y) e.context →
      (s.world.ask D t q).1 =
        ((D.run s.world.databases y q.call st).1.mapError (.statement st.sql)).bind
          (q.answer st.sql) ∧
      (s.world.ask D t q).2.databases = (D.run s.world.databases y q.call st).2)
  commit : ∀ e ∈ h.acquisitions, ∀ t y, s.world.session? e.session = some t →
    t.status = .active → t.error = none → ¬ 1 < t.depth → t.transaction = some y →
    (h.Stops s.world.timeline.now 0 e.context →
      ∃ f, (f = .cancelled ∨ f = .deadlineExceeded) ∧
        s.world.commit D e.session t = (.error f, s.world)) ∧
    (¬ h.Stops s.world.timeline.now 0 e.context →
      s.world.commit D e.session t = s.world.commitTransaction D e.session t y)
  nested : ∀ i t, s.world.session? i = some t → t.status = .active → 1 < t.depth →
    (t.error = none → (s.world.commit D i t).1 = .ok ()) ∧ (s.world.rollback D i t).1 = .ok ()
  rollback : ∀ i t y, s.world.session? i = some t → t.status = .active → ¬ 1 < t.depth →
    t.transaction = some y →
      (s.world.rollback D i t).1 = (D.rollback s.world.databases y).1
  join : ∀ i k k' depot depot' x y, x.session = some i → y.session = some i →
    (s.world.begin D k depot x).2 = (s.world.begin D k' depot' y).2 ∧
      ((s.world.begin D k depot x).1.isOk = true ↔
        ∃ t, s.world.session? i = some t ∧ t.status = .active)

variable {D : Driver δ τ} {s : Scene δ τ} {h : Chronicle}

theorem Told.stops_iff (ht : Told s h) {e : Acquisition} (he : e ∈ h.acquisitions) {t : Session τ}
    (hs : s.world.session? e.session = some t) (ms : Nat) :
    (∃ f, (s.world.timeline.guarded t.token t.deadline ms).1 = .error f) ↔
      h.Stops s.world.timeline.now ms e.context := by
  obtain ⟨owners, htokens⟩ := ht.tokens
  have hx := List.getElem?_eq_getElem (ht.captures.known e he)
  obtain ⟨htoken, hdeadline⟩ := ht.captures.captured e he t _ hs hx
  rw [htoken, hdeadline]
  exact Chronicle.stops_iff ht.linked htokens ht.called hx ms

theorem Told.refuses_iff (ht : Told s h) {e : Acquisition} (he : e ∈ h.acquisitions)
    {t : Session τ} (hs : s.world.session? e.session = some t) :
    s.world.timeline.Refuses t.token t.deadline ↔ h.Stops s.world.timeline.now 0 e.context := by
  obtain ⟨owners, htokens⟩ := ht.tokens
  have hx := List.getElem?_eq_getElem (ht.captures.known e he)
  obtain ⟨htoken, hdeadline⟩ := ht.captures.captured e he t _ hs hx
  rw [htoken, hdeadline]
  exact Chronicle.refuses_iff ht.linked htokens ht.called hx

theorem Told.governed (ht : Told s h) (D : Driver δ τ) : Governed D s h := by
  constructor
  case sessions => exact ht.captures.sessions
  case bare =>
    intro e he
    have hx := List.getElem?_eq_getElem (ht.captures.known e he)
    exact ⟨_, hx, ht.captures.bare e he _ hx⟩
  case captured => exact ht.captures.captured
  case ask =>
    intro e he t q st y hs hst hy
    rw [← ht.stops_iff he hs]
    constructor
    · rintro ⟨f, hf⟩
      obtain ⟨hr, -, hd, -⟩ := World.ask_refused D s.world t q hst hy hf
      exact ⟨f, (Timeline.guarded_halts hf).kind, hr, hd⟩
    · intro hfree
      have hg : (s.world.timeline.guarded t.token t.deadline
          (D.delay s.world.databases y)).1 = .ok () := by
        cases hr : (s.world.timeline.guarded t.token t.deadline
            (D.delay s.world.databases y)).1 with
        | ok => rfl
        | error f => exact absurd ⟨f, hr⟩ hfree
      obtain ⟨hr, -, hd, -⟩ := World.ask_allowed D s.world t q hst hy hg
      exact ⟨hr, hd⟩
  case commit =>
    intro e he t y hs ha herror h1 hy
    rw [← ht.refuses_iff he hs]
    constructor
    · intro hstops
      exact ⟨_, (Timeline.check_halts hstops.check).kind,
        World.commit_refused D s.world e.session t ha herror h1 hstops.check⟩
    · intro hfree
      exact World.commit_outermost D s.world e.session t ha herror h1
        ((Timeline.check_ok_iff ..).mpr hfree) hy
  case nested =>
    intro i t _ ha h1
    exact ⟨fun herror => (World.commit_nested D s.world i t ha herror h1).1,
      (World.rollback_nested D s.world i t ha h1).1⟩
  case rollback =>
    intro i t y _ ha h1 hy
    exact (World.rollback_outermost D s.world i t ha h1 hy).1
  case join =>
    intro i k k' depot depot' x y hx hy
    rw [World.begin_joining hx, World.begin_joining hy]
    refine ⟨rfl, ?_⟩
    by_cases hactive : ∃ t, s.world.session? i = some t ∧ t.status = .active
    · obtain ⟨t, ht, ha⟩ := hactive
      rw [(World.join_active s.world i t ht ha).1]
      exact ⟨fun _ => ⟨t, ht, ha⟩, fun _ => rfl⟩
    · rw [World.join_ended s.world i fun t ht ha => hactive ⟨t, ht, ha⟩]
      exact ⟨nofun, fun hjoined => absurd hjoined hactive⟩

structure Continued (r r' : Scene δ τ × Chronicle) : Prop where
  contexts : r.1.contexts <+: r'.1.contexts
  lines : r.2.lines <+: r'.2.lines
  cancellations : r.2.cancellations <:+ r'.2.cancellations
  acquisitions : r.2.acquisitions <+: r'.2.acquisitions

theorem onLine_induction {P : Chronicle → Prop} (hself : P h) {c : Nat} {f : Line → Chronicle}
    (hf : ∀ line, P (f line)) : P (h.onLine c f) := by
  unfold onLine
  split
  · exact hf _
  · exact hself

theorem continued_note (D : Driver δ τ) (s : Scene δ τ) (h : Chronicle) (a : Action ε) :
    h.lines <+: (h.note D s a).lines ∧ h.cancellations <:+ (h.note D s a).cancellations ∧
      h.acquisitions <+: (h.note D s a).acquisitions := by
  let P (h' : Chronicle) : Prop := h.lines <+: h'.lines ∧ h.cancellations <:+ h'.cancellations ∧
    h.acquisitions <+: h'.acquisitions
  have hself : P h := ⟨List.prefix_rfl, List.suffix_rfl, List.prefix_rfl⟩
  have hadd (line : Line) (m : Making) : P (h.add line m) :=
    ⟨List.prefix_append _ _, List.suffix_rfl, List.prefix_rfl⟩
  have hcancel (c instant : Nat) : P (h.cancel c instant) :=
    ⟨List.prefix_rfl, List.suffix_cons _ _, List.prefix_rfl⟩
  change P (h.note D s a)
  cases a with
  | background => exact hadd _ _
  | operation o =>
    cases o with
    | derive c d => exact onLine_induction hself fun line => hadd line _
    | cancel c | cancelAfter c ms => exact onLine_induction hself fun line => hcancel c _
    | begin k c =>
      refine onLine_induction hself fun line => ?_
      split
      · refine ⟨?_, ?_, enter_acquisitions h line _ c⟩
        · rw [add, enter_lines]
          exact List.prefix_append _ _
        · exact (enter_cancellations h line _ c).symm ▸ List.suffix_rfl
      · exact hself
    | _ => exact hself

theorem Continued.refl (r : Scene δ τ × Chronicle) : Continued r r :=
  ⟨List.prefix_rfl, List.prefix_rfl, List.suffix_rfl, List.prefix_rfl⟩

theorem Continued.trans {r r' r'' : Scene δ τ × Chronicle} (h : Continued r r')
    (h' : Continued r' r'') : Continued r r'' :=
  ⟨h.contexts.trans h'.contexts, h.lines.trans h'.lines, h.cancellations.trans h'.cancellations,
    h.acquisitions.trans h'.acquisitions⟩

variable (D : Driver δ τ) (direct : ε → δ → δ)

theorem continued_tell (r : Scene δ τ × Chronicle) (a : Action ε) :
    Continued r (Scene.tell D direct r a) := by
  obtain ⟨hlines, hcancellations, hacquisitions⟩ := continued_note D r.1 r.2 a
  refine ⟨?_, hlines, hcancellations, hacquisitions⟩
  cases a with
  | background => exact List.prefix_append _ _
  | operation o => exact (Scene.passage_step D direct r.1 o).contexts

theorem continued_run (r : Scene δ τ × Chronicle) (actions : List (Action ε)) :
    Continued r (actions.foldl (Scene.tell D direct) r) := by
  induction actions generalizing r with
  | nil => exact .refl r
  | cons a actions ih => exact (continued_tell D direct r a).trans (ih _)

theorem told_run {r : Scene δ τ × Chronicle} (ht : Told r.1 r.2) (actions : List (Action ε)) :
    Told (actions.foldl (Scene.tell D direct) r).1 (actions.foldl (Scene.tell D direct) r).2 := by
  induction actions generalizing r with
  | nil => exact ht
  | cons a actions ih => exact ih (r := Scene.tell D direct r a) (ht.enact a)

end Chronicle

open Chronicle

/-- Whatever actions there are in a run, in whatever order: contexts are what their derivations make
of them, and sessions are under the contexts that they have been begun with for as long as the run
goes on. -/
theorem derivations_govern (D : Driver δ τ) (direct : ε → δ → δ) (d : δ) (depots : List Depot)
    (actions more : List (Action ε)) :
    let r := Scene.told D direct d depots actions
    let r' := Scene.told D direct d depots (actions ++ more)
    Derived r.1 r.2 ∧ Governed D r.1 r.2 ∧ Continued r r' := by
  intro r r'
  have htold : Told r.1 r.2 := told_run D direct (.initial d depots) actions
  have hrest : r' = more.foldl (Scene.tell D direct) r := List.foldl_append
  refine ⟨htold.derived, htold.governed D, ?_⟩
  rw [hrest]
  exact continued_run D direct r more

example :
    let r := Scene.told Recording.driver (fun (_ : Unit) d => d) (.initial .default)
      [⟨.default, false⟩] [.operation (.begin 0 0), .operation (.derive 1 .cancellation),
        .operation (.cancel 2), .background]
    r.1.contexts.map (fun x => (x.session, r.1.world.timeline.isCancelled x.token)) =
      [(none, false), (some 0, false), (some 0, true), (none, false)] := by decide +kernel

end UnitOfWork
