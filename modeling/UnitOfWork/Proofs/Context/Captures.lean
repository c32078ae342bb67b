import UnitOfWork.Proofs.Context.Cancellations
import UnitOfWork.Proofs.Scene.Passage

namespace UnitOfWork

variable {δ τ ε : Type}

namespace Chronicle

structure Captures (w : World δ τ) (contexts : List Context) (h : Chronicle) : Prop where
  sessions : h.acquisitions.map Acquisition.session = List.range w.sessions.length
  known : ∀ e ∈ h.acquisitions, e.context < contexts.length
  bare : ∀ e ∈ h.acquisitions, ∀ x, contexts[e.context]? = some x → x.session = none
  captured : ∀ e ∈ h.acquisitions, ∀ t x, w.session? e.session = some t →
    contexts[e.context]? = some x → t.token = x.token ∧ t.deadline = x.deadline

namespace Captures

variable {w w' : World δ τ} {contexts contexts' : List Context} {h h' : Chronicle}

theorem session_lt (hc : Captures w contexts h) {e : Acquisition} (he : e ∈ h.acquisitions) :
    e.session < w.sessions.length := by
  have hmem := List.mem_map_of_mem (f := Acquisition.session) he
  rw [hc.sessions] at hmem
  exact List.mem_range.mp hmem

theorem of_known (hc : Captures w contexts h) (hcontexts : contexts <+: contexts')
    {e : Acquisition} (he : e ∈ h.acquisitions) :
    e.context < contexts'.length ∧ contexts'[e.context]? = contexts[e.context]? := by
  have hlt := hc.known e he
  obtain ⟨more, rfl⟩ := hcontexts
  exact ⟨by simp; omega, List.getElem?_append_left hlt⟩

theorem keep (hc : Captures w contexts h) (hcontexts : contexts <+: contexts')
    (hlength : w'.sessions.length = w.sessions.length)
    (hold : ∀ i < w.sessions.length, ∀ t', w'.session? i = some t' →
      ∃ t, w.session? i = some t ∧ t'.token = t.token ∧ t'.deadline = t.deadline)
    (hacquisitions : h'.acquisitions = h.acquisitions) : Captures w' contexts' h' := by
  refine ⟨?_, ?_, ?_, ?_⟩
  · rw [hacquisitions, hlength, hc.sessions]
  · intro e he
    rw [hacquisitions] at he
    exact (hc.of_known hcontexts he).1
  · intro e he x hx
    rw [hacquisitions] at he
    rw [(hc.of_known hcontexts he).2] at hx
    exact hc.bare e he x hx
  · intro e he t' x ht' hx
    rw [hacquisitions] at he
    obtain ⟨t, ht, htoken, hdeadline⟩ := hold e.session (hc.session_lt he) t' ht'
    rw [(hc.of_known hcontexts he).2] at hx
    obtain ⟨htoken', hdeadline'⟩ := hc.captured e he t x ht hx
    exact ⟨htoken.trans htoken', hdeadline.trans hdeadline'⟩

theorem start (hc : Captures w contexts h) (hcontexts : contexts <+: contexts') {c : Nat}
    {x : Context} (hx : contexts[c]? = some x) (hbare : x.session = none) {t : Session τ}
    (hs : w'.sessions = w.sessions ++ [some t]) (htoken : t.token = x.token)
    (hdeadline : t.deadline = x.deadline)
    (hacquisitions : h'.acquisitions = h.acquisitions ++ [⟨w.sessions.length, c⟩]) :
    Captures w' contexts' h' := by
  have hx' := Scene.context_of_prefix hcontexts hx
  refine ⟨?_, ?_, ?_, ?_⟩
  · simp [hacquisitions, hs, hc.sessions, List.range_succ]
  · intro e he
    rw [hacquisitions] at he
    obtain he | he := List.mem_append.mp he
    · exact (hc.of_known hcontexts he).1
    · obtain rfl := List.mem_singleton.mp he
      exact (List.getElem?_eq_some_iff.mp hx').1
  · intro e he y hy
    rw [hacquisitions] at he
    obtain he | he := List.mem_append.mp he
    · rw [(hc.of_known hcontexts he).2] at hy
      exact hc.bare e he y hy
    · obtain rfl := List.mem_singleton.mp he
      cases hx'.symm.trans hy
      exact hbare
  · intro e he t' y ht' hy
    rw [hacquisitions] at he
    rw [World.session?_of_append hs] at ht'
    obtain he | he := List.mem_append.mp he
    · rw [if_neg (Nat.ne_of_lt (hc.session_lt he))] at ht'
      rw [(hc.of_known hcontexts he).2] at hy
      exact hc.captured e he t' y ht' hy
    · obtain rfl := List.mem_singleton.mp he
      rw [if_pos rfl] at ht'
      cases ht'
      cases hx'.symm.trans hy
      exact ⟨htoken, hdeadline⟩

end Captures

structure Told (s : Scene δ τ) (h : Chronicle) : Prop where
  linked : h.Linked
  tokens : ∃ owners, Tokens owners s.world.timeline s.contexts h
  called : Called s.world.timeline s.contexts h
  captures : Captures s.world s.contexts h

namespace Told

variable {D : Driver δ τ} {direct : ε → δ → δ} {s s' : Scene δ τ} {h : Chronicle}

theorem initial (d : δ) (depots : List Depot) :
    Told (Scene.initial (τ := τ) d depots) .initial := by
  refine ⟨.initial, ⟨[0], ?_⟩, .initial, ?_⟩
  · refine ⟨by simp, rfl, ?_, rfl, ?_⟩
    · simp [Scene.initial]
    · intro c x line hx hline
      obtain rfl : c = 0 := by
        have hc := (List.getElem?_eq_some_iff.mp hx).1
        simpa [Scene.initial] using hc
      cases hx
      cases hline
      exact ⟨Nat.zero_lt_one, rfl, rfl, rfl, rfl⟩
  · exact ⟨rfl, nofun, nofun, nofun⟩

theorem onContext (ht : Told s h) (c : Nat) {f : Context → Scene δ τ} {g : Line → Chronicle}
    (hfg : ∀ x line, s.contexts[c]? = some x → h.lines[c]? = some line →
      x.session = line.session? → Told (f x) (g line)) :
    Told (s.onContext c f) (h.onLine c g) := by
  obtain ⟨owners, htokens⟩ := ht.tokens
  unfold Scene.onContext onLine
  cases hx : s.contexts[c]? with
  | none =>
    have hline : h.lines[c]? = none := by
      rw [List.getElem?_eq_none_iff, htokens.lines]
      exact List.getElem?_eq_none_iff.mp hx
    rw [hline]
    exact ht
  | some x =>
    obtain ⟨line, hline, hfits⟩ := htokens.exists_line hx
    rw [hline]
    exact hfg x line hx hline hfits.session

theorem quiet (ht : Told s h) (hcontexts : s'.contexts = s.contexts)
    (hw : s.world.timeline.Waited s'.world.timeline)
    (hlength : s'.world.sessions.length = s.world.sessions.length)
    (hold : ∀ i < s.world.sessions.length, ∀ t', s'.world.session? i = some t' →
      ∃ t, s.world.session? i = some t ∧ t'.token = t.token ∧ t'.deadline = t.deadline) :
    Told s' h := by
  obtain ⟨owners, htokens⟩ := ht.tokens
  have hlineages : s'.world.timeline.lineages = s.world.timeline.lineages := by
    obtain heq | ⟨instant, heq⟩ := hw <;> rw [heq]
    rfl
  refine ⟨ht.linked, ⟨owners, ?_⟩, ?_, ?_⟩
  · rw [hcontexts]
    exact htokens.of_lineages hlineages rfl
  · rw [hcontexts]
    exact ht.called.waited hw
  · rw [hcontexts]
    exact ht.captures.keep List.prefix_rfl hlength hold rfl

theorem derive (ht : Told s h) {c : Nat} {x : Context} {line : Line}
    (hx : s.contexts[c]? = some x) (hline : h.lines[c]? = some line) (d : Derivation) :
    Told { s.withTimeline (x.derive s.world.timeline d).2 with
        contexts := s.contexts ++ [(x.derive s.world.timeline d).1] }
      (h.add line (.ofDerivation s.world.timeline.now d)) := by
  obtain ⟨owners, htokens⟩ := ht.tokens
  refine ⟨ht.linked.add (.inr ⟨c, hline⟩), htokens.derive hx hline d, ?_, ?_⟩
  · apply ht.called.snoc
    all_goals cases d <;> rfl
  · exact ht.captures.keep (List.prefix_append _ _) rfl (fun i _ t' ht' => ⟨t', ht', rfl, rfl⟩) rfl

theorem cancelAfter (ht : Told s h) {c : Nat} {x : Context} (hx : s.contexts[c]? = some x)
    (ms : Nat) : Told (s.withTimeline (s.world.timeline.cancelAfter x.token ms))
      (h.cancel c (s.world.timeline.now + ms)) := by
  obtain ⟨owners, htokens⟩ := ht.tokens
  refine ⟨ht.linked.of_lines rfl, ⟨owners, htokens.of_lineages ?_ rfl⟩,
    ht.called.cancelAfter hx ms,
    ht.captures.keep List.prefix_rfl rfl (fun i _ t' ht' => ⟨t', ht', rfl, rfl⟩) rfl⟩
  simp only [Scene.withTimeline, Timeline.cancelAfter]
  split <;> rfl

theorem begun (ht : Told s h) {c i : Nat} {x : Context} {line : Line} {w : World δ τ}
    (hx : s.contexts[c]? = some x) (hline : h.lines[c]? = some line)
    (hw : s.world.timeline.Waited w.timeline)
    (hcaptures : Captures w (s.contexts ++ [x.carrying i]) (h.enter line i c)) :
    Told ⟨w, s.contexts ++ [x.carrying i]⟩ ((h.enter line i c).add line (.begun i)) := by
  obtain ⟨owners, htokens⟩ := ht.tokens
  have hlines := enter_lines h line i c
  have hlineages : w.timeline.lineages = s.world.timeline.lineages := by
    obtain heq | ⟨instant, heq⟩ := hw <;> rw [heq]
    rfl
  have hline' : (h.enter line i c).lines[c]? = some line := by rw [hlines, hline]
  refine ⟨(ht.linked.of_lines hlines).add (.inr ⟨c, hline'⟩), ⟨owners, ?_⟩, ?_, ?_⟩
  · exact (htokens.of_lineages hlineages hlines).share hx hline' (m := .begun i) rfl rfl rfl
  · refine (ht.called.waited hw).snoc rfl rfl rfl ?_ _
    exact enter_cancellations h line i c
  · exact ⟨hcaptures.sessions, hcaptures.known, hcaptures.bare, hcaptures.captured⟩

variable (D) in
theorem begin (ht : Told s h) (direct : ε → δ → δ) {c : Nat} {x : Context} {line : Line}
    (hx : s.contexts[c]? = some x) (hline : h.lines[c]? = some line)
    (hsession : x.session = line.session?) (k : Nat) :
    Told (s.begin D k x) (match s.begun? D k c with
      | some i => (h.enter line i c).add line (.begun i)
      | none => h) := by
  cases hdepot : s.world.depots[k]? with
  | none =>
    simp only [Scene.begun?, hx, hdepot, Scene.begin]
    exact ht
  | some depot =>
    have hw := World.waited_begin D s.world k depot x
    have hchange := Scene.change_begin D direct s k c x
    cases World.begin_case D s.world k depot x with
    | refused e hr hs =>
      have hscene : s.begin D k x = ⟨(s.world.begin D k depot x).2, s.contexts⟩ := by
        simp only [Scene.begin, hdepot, hr]
      have hbegun : s.begun? D k c = none := by
        simp only [Scene.begun?, hx, hdepot, hr]
        rfl
      rw [hscene] at hchange ⊢
      rw [hbegun]
      exact ht.quiet rfl hw (by rw [hs]) fun i hi t' => hchange.captured hi
    | joined i hc hr hlength =>
      have hcarrying : x = x.carrying i := by rw [Context.carrying, ← hc]
      have hscene : s.begin D k x =
          ⟨(s.world.begin D k depot x).2, s.contexts ++ [x.carrying i]⟩ := by
        rw [← hcarrying]
        simp only [Scene.begin, hdepot, hr]
      have hbegun : s.begun? D k c = some i := by
        simp only [Scene.begun?, hx, hdepot, hr]
        rfl
      have henter : h.enter line i c = h := by simp only [enter, ← hsession, hc]
      rw [hscene] at hchange ⊢
      rw [hbegun]
      refine ht.begun hx hline hw ?_
      rw [henter]
      exact ht.captures.keep (List.prefix_append _ _) hlength (fun j hj t' => hchange.captured hj)
        rfl
    | started y database hc hr hs =>
      have hscene : s.begin D k x = ⟨(s.world.begin D k depot x).2,
          s.contexts ++ [x.carrying s.world.sessions.length]⟩ := by
        simp only [Scene.begin, hdepot, hr]
      have hbegun : s.begun? D k c = some s.world.sessions.length := by
        simp only [Scene.begun?, hx, hdepot, hr]
        rfl
      rw [hscene, hbegun]
      refine ht.begun hx hline hw (ht.captures.start (List.prefix_append _ _) hx hc hs rfl rfl ?_)
      simp only [enter, ← hsession, hc]

theorem background (ht : Told s h) :
    Told (s.enact D direct .background) (h.add [] .background) := by
  obtain ⟨owners, htokens⟩ := ht.tokens
  refine ⟨ht.linked.add (.inl ⟨rfl, rfl⟩), ⟨_, htokens.background⟩, ?_, ?_⟩
  · change Called s.world.timeline.apart.2 (s.contexts ++ [_]) (h.add [] .background)
    refine ht.called.snoc ?_ ?_ ?_ ?_ _ <;> rfl
  · exact ht.captures.keep (List.prefix_append _ _) rfl (fun i _ t' ht' => ⟨t', ht', rfl, rfl⟩) rfl

theorem enact (ht : Told s h) (a : Action ε) : Told (s.enact D direct a) (h.note D s a) := by
  cases a with
  | background => exact ht.background
  | operation o =>
    have hchange := Scene.change_step D direct s o
    have hpassage := Scene.passage_step D direct s o
    cases o with
    | derive c d => exact ht.onContext c fun x line hx hline _ => ht.derive hx hline d
    | cancel c => exact ht.onContext c fun x line hx _ _ => ht.cancelAfter hx 0
    | cancelAfter c ms => exact ht.onContext c fun x line hx _ _ => ht.cancelAfter hx ms
    | begin k c =>
      exact ht.onContext c fun x line hx hline hsession => ht.begin D direct hx hline hsession k
    | _ =>
      -- what is left makes no context; time may pass, and sessions may change
      cases hpassage with
      | waited _ hcontexts hw =>
        have hlength := hchange.length_eq (by rintro k c ⟨⟩)
        exact ht.quiet hcontexts hw hlength fun i hi t' => hchange.captured hi

end Told

end Chronicle

end UnitOfWork
