import UnitOfWork.Proofs.Scene.Sound
import UnitOfWork.Proofs.Sqlite.Content
import UnitOfWork.Proofs.Timeline

namespace UnitOfWork

def Operation.isOrdinary : Operation Empty → Bool
  | .close _ => false
  | .ask _ (.exec st) => Sqlite.isOrdinary st.sql
  | _ => true

namespace Sqlite

open Scene (AllSound Change length_le_of_change)

def statusOf (w : World Client Nat) (n : Nat) : Option Status := (w.session? n).map Session.status

def step (s : Scene Client Nat) (o : Operation Empty) : Scene Client Nat :=
  s.step Client.driver Empty.elim o

def play (s : Scene Client Nat) (v : List (Operation Empty)) : Scene Client Nat := v.foldl step s

def carriedOut (w : World Client Nat) (n : Nat) : Operation Empty → Option Statement
  | .ask i q =>
    match w.session? i with
    | none => none
    | some t =>
      match q.statement t.dialect, (w.ask Client.driver t q).1 with
      | .ok st, .ok (.affected _) => if i = n then some st else none
      | _, _ => none
  | _ => none

def writes (n : Nat) (s : Scene Client Nat) : List (Operation Empty) → List Statement
  | [] => []
  | o :: v => (carriedOut s.world n o).toList ++ writes n (step s o) v

def commits (n : Nat) (s : Scene Client Nat) : List (Operation Empty) → Bool
  | [] => statusOf s.world n == some .committed
  | o :: v => statusOf s.world n == some .committed || commits n (step s o) v

def abandonsNow (w : World Client Nat) (n : Nat) : Operation Empty → Bool
  | .drop i false => i == n && statusOf w n == some .active
  | _ => false

def abandons (n : Nat) (s : Scene Client Nat) : List (Operation Empty) → Bool
  | [] => false
  | o :: v => abandonsNow s.world n o || abandons n (step s o) v

structure Complete (s : Scene Client Nat) (v : List (Operation Empty)) : Prop where
  ordinary : ∀ o ∈ v, o.isOrdinary = true
  one : (play s v).world.sessions.length = s.world.sessions.length + 1
  ended : statusOf (play s v).world s.world.sessions.length ≠ some .active

def outcome (s : Scene Client Nat) (c : Catalog) (v : List (Operation Empty)) : Catalog :=
  if commits s.world.sessions.length s v then
    (writes s.world.sessions.length s v).foldl Catalog.after c
  else c

structure NoneOpen (w : World Client Nat) : Prop where
  sound : AllSound w
  idle : ∀ i t, w.session? i = some t → t.transaction = none

structure Quiet (w : World Client Nat) (c : Catalog) : Prop where
  closed : NoneOpen w
  client : w.databases.AtRest c

structure Lost (w : World Client Nat) (c₀ : Catalog) : Prop where
  closed : NoneOpen w
  client : ∃ c, w.databases.Stuck c₀ c

structure Busy (w : World Client Nat) (n : Nat) (c₀ c : Catalog) : Prop where
  sound : AllSound w
  client : w.databases.InUse c₀ c
  own : ∃ t, w.session? n = some t ∧ t.transaction = some 0
  others : ∀ i t, w.session? i = some t → i ≠ n → t.transaction = none

variable {w w' : World Client Nat} {o : Operation Empty} {n : Nat} {c₀ c : Catalog}

theorem changes (s : Scene Client Nat) (o : Operation Empty) :
    Change Client.driver Empty.elim s.world (step s o).world o :=
  Scene.change_step Client.driver Empty.elim s o

namespace NoneOpen

theorem inactive (h : NoneOpen w) {i : Nat} {t : Session Nat} (ht : w.session? i = some t) :
    t.status ≠ .active := by
  intro ha
  obtain ⟨x, hx⟩ := (h.sound i t ht).exists_transaction ha
  rw [h.idle i t ht] at hx
  cases hx

theorem of_eq (h : NoneOpen w) (hsound : AllSound w') (hs : w'.sessions = w.sessions) :
    NoneOpen w' ∧ ∀ i, statusOf w' i = statusOf w i ∨ statusOf w' i = none := by
  refine ⟨⟨hsound, ?_⟩, ?_⟩
  · intro i t ht
    rw [World.session?_of_eq hs] at ht
    exact h.idle i t ht
  · intro i
    rw [statusOf, World.session?_of_eq hs]
    exact .inl rfl

theorem of_set (h : NoneOpen w) (hsound : AllSound w') {j : Nat} {t : Session Nat}
    {x : Option (Session Nat)} (ht : w.session? j = some t)
    (hs : w'.sessions = w.sessions.set j x)
    (hx : ∀ t', x = some t' → t'.transaction = none ∧ t'.status = t.status) :
    NoneOpen w' ∧ ∀ i, statusOf w' i = statusOf w i ∨ statusOf w' i = none := by
  have hsession := World.session?_of_set hs (World.lt_of_session? ht)
  refine ⟨⟨hsound, ?_⟩, ?_⟩
  · intro i t' ht'
    rw [hsession] at ht'
    split at ht'
    · exact (hx t' ht').1
    · exact h.idle i t' ht'
  · intro i
    rw [statusOf, hsession]
    split
    · subst_vars
      cases x with
      | none => exact .inr rfl
      | some t' =>
        rw [statusOf, ht, Option.map_some, Option.map_some, (hx t' rfl).2]
        exact .inl rfl
    · exact .inl rfl

theorem change (h : NoneOpen w) (hc : Change Client.driver Empty.elim w w' o)
    (ho : o.isOrdinary = true) (hlength : w'.sessions.length = w.sessions.length) :
    NoneOpen w' ∧
      (w'.databases = w.databases ∨
        ∃ e, w.databases.begin.1 = .error e ∧ w'.databases = w.databases.begin.2.2) ∧
      ∀ i, statusOf w' i = statusOf w i ∨ statusOf w' i = none := by
  have hsound' := h.sound.change hc
  cases hc with
  | quiet _ hs hd =>
    obtain ⟨hnone, hstatus⟩ := h.of_eq hsound' hs
    exact ⟨hnone, .inl hd, hstatus⟩
  | closed k hs hd => cases ho
  | directed x hs hd => cases x
  | denied k c e hb hs hd =>
    obtain ⟨hnone, hstatus⟩ := h.of_eq hsound' hs
    exact ⟨hnone, .inr ⟨e, hb, hd⟩, hstatus⟩
  | begun k c x database depot context hb hs hd =>
    rw [hs, List.length_append, List.length_singleton] at hlength
    omega
  | joined k c i t ht ha hs hd => exact absurd ha (h.inactive ht)
  | marked i e t ht hs hd =>
    obtain ⟨hnone, hstatus⟩ := h.of_set hsound' ht hs (by
      rintro _ ⟨⟩
      exact ⟨h.idle i t ht, rfl⟩)
    exact ⟨hnone, .inl hd, hstatus⟩
  | dropped i runtime t ht hx hs hd =>
    obtain ⟨hnone, hstatus⟩ := h.of_set hsound' ht hs (by rintro _ ⟨⟩)
    exact ⟨hnone, .inl hd, hstatus⟩
  | left i t ht ha he h1 hs hd => exact absurd ha (h.inactive ht)
  | committed i t x ht ha he h1 hx hc hs hd => exact absurd ha (h.inactive ht)
  | commitFailed i t x e ht ha he h1 hx hc hs hd => exact absurd ha (h.inactive ht)
  | failed i t ht ha h1 hs hd => exact absurd ha (h.inactive ht)
  | rolledBack i t x ht ha h1 hx hs hd => exact absurd ha (h.inactive ht)
  | asked i q t x st ht hx hst hs hd =>
    rw [h.idle i t ht] at hx
    cases hx
  | droppedOpen i t x ht hx hs hd =>
    rw [h.idle i t ht] at hx
    cases hx
  | abandoned i t x ht hx hs hd =>
    rw [h.idle i t ht] at hx
    cases hx

theorem status (h : NoneOpen w) (n : Nat) : statusOf w n ≠ some .active := by
  intro ha
  obtain ⟨t, ht, ha⟩ := Option.map_eq_some_iff.mp ha
  exact h.inactive ht ha

theorem abandonsNow (h : NoneOpen w) (n : Nat) (o : Operation Empty) :
    abandonsNow w n o = false := by
  unfold Sqlite.abandonsNow
  split
  · simp [h.status n]
  · rfl

theorem carriedOut (h : NoneOpen w) (n : Nat) (o : Operation Empty) :
    carriedOut w n o = none := by
  cases o with
  | ask i q =>
    cases ht : w.session? i with
    | none => simp only [Sqlite.carriedOut, ht]
    | some t =>
      cases hst : q.statement t.dialect with
      | error e => simp only [Sqlite.carriedOut, ht, hst]
      | ok st =>
        have hclosed := (World.ask_ended Client.driver w t q hst (h.idle i t ht)).1
        simp only [Sqlite.carriedOut, ht, hst, hclosed]
  | _ => rfl

end NoneOpen

theorem length_le_play (s : Scene Client Nat) (v : List (Operation Empty)) :
    s.world.sessions.length ≤ (play s v).world.sessions.length := by
  induction v generalizing s with
  | nil => exact Nat.le_refl _
  | cons o v ih =>
    have hstep := length_le_of_change (changes s o)
    exact Nat.le_trans hstep (ih (step s o))

theorem NoneOpen.run {P : Client → Prop}
    (hP : ∀ x e, P x → x.begin.1 = .error e → P x.begin.2.2) {s : Scene Client Nat}
    (h : NoneOpen s.world) (hx : P s.world.databases) {v : List (Operation Empty)}
    (hv : ∀ o ∈ v, o.isOrdinary = true)
    (hlength : (play s v).world.sessions.length = s.world.sessions.length) (n : Nat) :
    NoneOpen (play s v).world ∧ P (play s v).world.databases ∧ writes n s v = [] ∧
      abandons n s v = false ∧ commits n s v = (statusOf s.world n == some .committed) := by
  induction v generalizing s with
  | nil => exact ⟨h, hx, rfl, rfl, rfl⟩
  | cons o v ih =>
    have ho := hv o List.mem_cons_self
    have hc := changes s o
    have hstep := length_le_of_change hc
    have hrest := length_le_play (step s o) v
    have hplay : play s (o :: v) = play (step s o) v := rfl
    rw [hplay] at hlength ⊢
    have hsame : (step s o).world.sessions.length = s.world.sessions.length := by omega
    obtain ⟨hclosed, hdatabases, hstatus⟩ := h.change hc ho hsame
    have hx' : P (step s o).world.databases := by
      obtain hd | ⟨e, he, hd⟩ := hdatabases
      · exact hd ▸ hx
      · exact hd ▸ hP _ e hx he
    obtain ⟨hclosed', hx'', hwrites, habandons, hcommits⟩ := ih hclosed hx'
      (fun p hp => hv p (List.mem_cons_of_mem o hp)) (by omega)
    refine ⟨hclosed', hx'', ?_, ?_, ?_⟩
    · rw [writes, h.carriedOut, hwrites]
      rfl
    · rw [abandons, h.abandonsNow, habandons]
      rfl
    · rw [commits, hcommits]
      obtain hs | hs := hstatus n
      · rw [hs, Bool.or_self]
      · rw [hs]
        exact Bool.or_false _

theorem Quiet.run {s : Scene Client Nat} (h : Quiet s.world c) {v : List (Operation Empty)}
    (hv : ∀ o ∈ v, o.isOrdinary = true)
    (hlength : (play s v).world.sessions.length = s.world.sessions.length) (n : Nat) :
    Quiet (play s v).world c ∧ writes n s v = [] ∧ abandons n s v = false ∧
      commits n s v = (statusOf s.world n == some .committed) := by
  have hP : ∀ (x : Client) e, x.AtRest c → x.begin.1 = .error e → x.begin.2.2.AtRest c := by
    intro x e hx he
    rw [hx.begin.1] at he
    cases he
  obtain ⟨hclosed, hclient, hrest⟩ := h.closed.run hP h.client hv hlength n
  exact ⟨⟨hclosed, hclient⟩, hrest⟩

theorem Lost.run {s : Scene Client Nat} (h : Lost s.world c₀) {v : List (Operation Empty)}
    (hv : ∀ o ∈ v, o.isOrdinary = true)
    (hlength : (play s v).world.sessions.length = s.world.sessions.length) :
    Lost (play s v).world c₀ := by
  have hP : ∀ (x : Client) e, (∃ c, x.Stuck c₀ c) → x.begin.1 = .error e →
      ∃ c, x.begin.2.2.Stuck c₀ c := by
    rintro x e ⟨c, hx⟩ -
    exact ⟨c, hx.begin.2⟩
  obtain ⟨hclosed, hclient, -⟩ := h.closed.run hP h.client hv hlength 0
  exact ⟨hclosed, hclient⟩

theorem Quiet.begun (h : Quiet w c) (hc : Change Client.driver Empty.elim w w' o)
    (hlength : w'.sessions.length ≠ w.sessions.length) :
    Busy w' w.sessions.length c c := by
  have hsound' := h.closed.sound.change hc
  cases hc with
  | begun k m x database depot context hb hs hd =>
    have hsession := World.session?_of_append hs
    have hx : x = 0 := by
      have hok : w.databases.begin.1 = .ok x := hb
      rw [h.client.begin.1] at hok
      cases hok
      rfl
    refine ⟨hsound', ?_, ?_, ?_⟩
    · rw [hd]
      exact h.client.begin.2
    · refine ⟨_, by rw [hsession, if_pos rfl], ?_⟩
      rw [← hx]
      rfl
    · intro i t ht hi
      rw [hsession, if_neg hi] at ht
      exact h.closed.idle i t ht
  | _ => exact absurd (by simp [*]) hlength

namespace Busy

variable (h : Busy w n c₀ c)
include h

theorem status : statusOf w n = some .active := by
  obtain ⟨t, ht, hx⟩ := h.own
  rw [statusOf, ht]
  exact congrArg some ((h.sound n t ht).active_of_transaction hx)

theorem eq_of_transaction {i : Nat} {t : Session Nat} (ht : w.session? i = some t) {x : Nat}
    (hx : t.transaction = some x) : i = n ∧ x = 0 := by
  have hi : i = n := by
    by_contra hne
    rw [h.others i t ht hne] at hx
    cases hx
  obtain ⟨t', ht', hx'⟩ := h.own
  rw [hi, ht'] at ht
  cases ht
  rw [hx'] at hx
  cases hx
  exact ⟨hi, rfl⟩

theorem eq_of_active {i : Nat} {t : Session Nat} (ht : w.session? i = some t)
    (ha : t.status = .active) : i = n ∧ t.transaction = some 0 := by
  obtain ⟨x, hx⟩ := (h.sound i t ht).exists_transaction ha
  obtain ⟨hi, rfl⟩ := h.eq_of_transaction ht hx
  exact ⟨hi, hx⟩

theorem of_own (hsound : AllSound w') {t t' : Session Nat} (ht : w.session? n = some t)
    (hs : w'.sessions = w.sessions.set n (some t')) (hx : t'.transaction = some 0) {c' : Catalog}
    (hclient : w'.databases.InUse c₀ c') : Busy w' n c₀ c' := by
  have hsession := World.session?_of_set hs (World.lt_of_session? ht)
  refine ⟨hsound, hclient, ⟨t', ?_, hx⟩, ?_⟩
  · rw [hsession, if_pos rfl]
  · intro i u hu hi
    rw [hsession, if_neg (Ne.symm hi)] at hu
    exact h.others i u hu hi

theorem to_closed (hsound : AllSound w') {t : Session Nat} {x : Option (Session Nat)}
    (ht : w.session? n = some t) (hs : w'.sessions = w.sessions.set n x)
    (hx : ∀ t', x = some t' → t'.transaction = none) :
    NoneOpen w' ∧ statusOf w' n = x.map Session.status := by
  have hsession := World.session?_of_set hs (World.lt_of_session? ht)
  refine ⟨⟨hsound, ?_⟩, ?_⟩
  · intro i u hu
    by_cases hi : n = i
    · rw [hsession, if_pos hi] at hu
      exact hx u hu
    · rw [hsession, if_neg hi] at hu
      exact h.others i u hu (Ne.symm hi)
  · rw [statusOf, hsession, if_pos rfl]

theorem of_eq (hsound : AllSound w') (hs : w'.sessions = w.sessions)
    (hd : w'.databases = w.databases) : Busy w' n c₀ c := by
  refine ⟨hsound, hd ▸ h.client, ?_, ?_⟩
  · rw [World.session?_of_eq hs]
    exact h.own
  · intro i t ht
    rw [World.session?_of_eq hs] at ht
    exact h.others i t ht

theorem of_other (hsound : AllSound w') {i : Nat} {t : Session Nat} {x : Option (Session Nat)}
    (ht : w.session? i = some t) (hi : i ≠ n) (hs : w'.sessions = w.sessions.set i x)
    (hd : w'.databases = w.databases) (hx : ∀ t', x = some t' → t'.transaction = none) :
    Busy w' n c₀ c := by
  have hsession := World.session?_of_set hs (World.lt_of_session? ht)
  refine ⟨hsound, hd ▸ h.client, ?_, ?_⟩
  · rw [hsession, if_neg hi]
    exact h.own
  · intro j u hu hj
    rw [hsession] at hu
    split at hu
    · exact hx u hu
    · exact h.others j u hu hj

theorem change (hc : Change Client.driver Empty.elim w w' o) (ho : o.isOrdinary = true)
    (hask : ∀ q, o ≠ .ask n q) (hdrop : o ≠ .drop n false) :
    Busy w' n c₀ c ∨ (Quiet w' c ∧ statusOf w' n = some .committed) ∨
      (Quiet w' c₀ ∧ statusOf w' n ≠ some .committed) := by
  have hsound' := h.sound.change hc
  cases hc with
  | quiet _ hs hd => exact .inl (h.of_eq hsound' hs hd)
  | closed k hs hd => cases ho
  | directed x hs hd => cases x
  | denied k m e hb hs hd =>
    obtain ⟨-, -, hsame⟩ := h.client.begin
    exact .inl (h.of_eq hsound' hs (hd.trans hsame))
  | begun k m x database depot context hb hs hd =>
    obtain ⟨e, he, -⟩ := h.client.begin
    have hok : w.databases.begin.1 = .ok x := hb
    rw [he] at hok
    cases hok
  | joined k m i t ht ha hs hd =>
    obtain ⟨rfl, hx⟩ := h.eq_of_active ht ha
    exact .inl (h.of_own hsound' ht hs hx (hd ▸ h.client))
  | marked i e t ht hs hd =>
    by_cases hi : i = n
    · obtain ⟨t', ht', hx⟩ := h.own
      rw [hi] at ht hs
      rw [ht] at ht'
      cases ht'
      exact .inl (h.of_own hsound' ht hs hx (hd ▸ h.client))
    · refine .inl (h.of_other hsound' ht hi hs hd ?_)
      rintro _ ⟨⟩
      exact h.others i t ht hi
  | asked i q t x st ht hx hst hs hd =>
    obtain ⟨rfl, -⟩ := h.eq_of_transaction ht hx
    exact absurd rfl (hask q)
  | left i t ht ha he h1 hs hd =>
    obtain ⟨rfl, hx⟩ := h.eq_of_active ht ha
    exact .inl (h.of_own hsound' ht hs hx (hd ▸ h.client))
  | committed i t x ht ha he h1 hx hr hs hd =>
    obtain ⟨rfl, rfl⟩ := h.eq_of_transaction ht hx
    obtain ⟨hclosed, hstatus⟩ := h.to_closed hsound' ht hs (by rintro _ ⟨⟩; rfl)
    exact .inr (.inl ⟨⟨hclosed, hd ▸ h.client.commit.2⟩, hstatus⟩)
  | commitFailed i t x e ht ha he h1 hx hr hs hd =>
    obtain ⟨rfl, rfl⟩ := h.eq_of_transaction ht hx
    have hfailed : (w.databases.commit 0).1 = .error e := hr
    rw [h.client.commit.1] at hfailed
    cases hfailed
  | failed i t ht ha h1 hs hd =>
    obtain ⟨rfl, hx⟩ := h.eq_of_active ht ha
    exact .inl (h.of_own hsound' ht hs hx (hd ▸ h.client))
  | rolledBack i t x ht ha h1 hx hs hd =>
    obtain ⟨rfl, rfl⟩ := h.eq_of_transaction ht hx
    obtain ⟨hclosed, hstatus⟩ := h.to_closed hsound' ht hs (by rintro _ ⟨⟩; rfl)
    refine .inr (.inr ⟨⟨hclosed, hd ▸ h.client.rollback⟩, ?_⟩)
    rw [hstatus]
    simp [Session.finished]
  | dropped i runtime t ht hx hs hd =>
    have hi : i ≠ n := by
      rintro rfl
      obtain ⟨t', ht', hx'⟩ := h.own
      rw [ht] at ht'
      cases ht'
      rw [hx] at hx'
      cases hx'
    exact .inl (h.of_other hsound' ht hi hs hd (by rintro _ ⟨⟩))
  | droppedOpen i t x ht hx hs hd =>
    obtain ⟨rfl, rfl⟩ := h.eq_of_transaction ht hx
    obtain ⟨hclosed, hstatus⟩ := h.to_closed hsound' ht hs (by rintro _ ⟨⟩)
    refine .inr (.inr ⟨⟨hclosed, hd ▸ h.client.rollback⟩, ?_⟩)
    rw [hstatus]
    simp
  | abandoned i t x ht hx hs hd =>
    obtain ⟨rfl, -⟩ := h.eq_of_transaction ht hx
    exact absurd rfl hdrop

end Busy

theorem Busy.abandon {s : Scene Client Nat} (h : Busy s.world n c₀ c) :
    Lost (step s (.drop n false)).world c₀ := by
  obtain ⟨t, ht, hx⟩ := h.own
  have hstep : (step s (.drop n false)).world = s.world.drop Client.driver n t false := by
    simp only [step, Scene.step, Scene.onSession, ht]
  obtain ⟨hs, hd⟩ := World.drop_abandoned Client.driver s.world n t hx
  rw [← hstep] at hs hd
  have hsound' := h.sound.change (changes s (.drop n false))
  obtain ⟨hclosed, -⟩ := h.to_closed hsound' ht hs (by rintro _ ⟨⟩)
  exact ⟨hclosed, c, hd ▸ h.client.abandon⟩

theorem answer_query {q : Request} (hq : q.isQuery = true) (sql : String) (r : q.call.Result)
    (k : Nat) : q.answer sql r ≠ .ok (.affected k) := by
  cases q with
  | one columns table clauses =>
    cases (r : Option Row) with
    | none => simp [Request.answer]
    | some row => simp [Request.answer]
  | many columns table clauses => simp [Request.answer]
  | count table clauses =>
    simp only [Request.answer]
    split <;> simp
  | insert | update | delete | exec => cases hq

theorem answer_change {q : Request} (hq : q.isQuery = false) (sql : String)
    (r : q.call.Result) : ∃ k, q.answer sql r = .ok (.affected k) := by
  cases q with
  | one | many | count => cases hq
  | insert | update | delete | exec => exact ⟨r, rfl⟩

theorem isOrdinary_of_ask {q : Request} {d : Dialect} {st : Statement}
    (ho : (Operation.ask n q : Operation Empty).isOrdinary = true)
    (hst : q.statement d = .ok st) : isOrdinary st.sql = true := by
  by_cases hq : ∃ own, q = .exec own
  · obtain ⟨own, rfl⟩ := hq
    cases hst
    exact ho
  · exact Request.isOrdinary_statement (fun own hown => hq ⟨own, hown⟩) hst

theorem Client.InUse.run_change {x : Client} (h : x.InUse c₀ c) {q : Request} {st : Statement}
    (hq : q.isQuery = false) (hst : isOrdinary st.sql = true) :
    (x.run 0 q.call st).2.InUse c₀ (c.after st) ∧
      ((x.run 0 q.call st).1.isOk = false → c.after st = c) := by
  cases q with
  | one | many | count => cases hq
  | insert | update | delete | exec => exact h.run_affected hst

theorem Client.InUse.run_request {x : Client} (h : x.InUse c₀ c) {q : Request} {st : Statement}
    (hq : q.isQuery = true) (hst : isQuery st.sql = true) :
    (x.run 0 q.call st).2.InUse c₀ c := by
  cases q with
  | one | many | count => exact (h.run_query hst rfl).2
  | insert | update | delete | exec => cases hq

theorem Busy.ask {s : Scene Client Nat} (h : Busy s.world n c₀ c) {q : Request}
    (ho : (Operation.ask n q : Operation Empty).isOrdinary = true) :
    Busy (step s (.ask n q)).world n c₀
      ((carriedOut s.world n (.ask n q)).toList.foldl Catalog.after c) := by
  obtain ⟨t, ht, hx⟩ := h.own
  have hsound' := h.sound.change (changes s (.ask n q))
  have hstep : (step s (.ask n q)).world = (s.world.ask Client.driver t q).2 := by
    simp only [step, Scene.step, Scene.onSession, ht]
  rw [hstep] at hsound' ⊢
  have busy (c' : Catalog) (hs : (s.world.ask Client.driver t q).2.sessions = s.world.sessions)
      (hclient : (s.world.ask Client.driver t q).2.databases.InUse c₀ c') :
      Busy (s.world.ask Client.driver t q).2 n c₀ c' := by
    rw [← World.set_of_session? ht] at hs
    exact h.of_own hsound' ht hs hx hclient
  cases hst : q.statement t.dialect with
  | error e =>
    have hcarried : carriedOut s.world n (.ask n q) = none := by
      simp only [carriedOut, ht, hst]
    rw [hcarried, World.ask_unstated Client.driver s.world t q hst]
    exact h
  | ok st =>
    cases hg : (s.world.timeline.guarded t.token t.deadline
      (Client.driver.delay s.world.databases 0)).1 with
    | error e =>
      obtain ⟨hr, hs, hd, -⟩ := World.ask_refused Client.driver s.world t q hst hx hg
      have hcarried : carriedOut s.world n (.ask n q) = none := by
        simp only [carriedOut, ht, hst, hr]
      rw [hcarried]
      exact busy c hs (hd ▸ h.client)
    | ok =>
      obtain ⟨hr, hs, hd, -⟩ := World.ask_allowed Client.driver s.world t q hst hx hg
      have hrun : Client.driver.run s.world.databases 0 q.call st =
        s.world.databases.run 0 q.call st := rfl
      rw [hrun] at hr hd
      cases hq : q.isQuery with
      | true =>
        have hsql := Request.isQuery_statement hq hst
        have hcarried : carriedOut s.world n (.ask n q) = none := by
          simp only [carriedOut, ht, hst, hr]
          cases (s.world.databases.run 0 q.call st).1 with
          | error e => rfl
          | ok r =>
            have hanswer := answer_query hq st.sql r
            cases ha : q.answer st.sql r with
            | error e => simp only [Except.mapError, Except.bind, ha]
            | ok a =>
              cases a with
              | affected k => exact absurd ha (hanswer k)
              | _ => simp only [Except.mapError, Except.bind, ha]
        rw [hcarried]
        exact busy c hs (hd ▸ h.client.run_request hq hsql)
      | false =>
        obtain ⟨hclient, hfailed⟩ := h.client.run_change hq (isOrdinary_of_ask ho hst)
        rw [← hd] at hclient
        cases hresult : (s.world.databases.run 0 q.call st).1 with
        | error e =>
          have hcarried : carriedOut s.world n (.ask n q) = none := by
            simp only [carriedOut, ht, hst, hr, hresult]
            rfl
          rw [hresult] at hfailed
          rw [hfailed rfl] at hclient
          rw [hcarried]
          exact busy c hs hclient
        | ok r =>
          obtain ⟨k, hanswer⟩ := answer_change hq st.sql r
          have hcarried : carriedOut s.world n (.ask n q) = some st := by
            simp only [carriedOut, ht, hst, hr, hresult, Except.mapError, Except.bind, hanswer,
              if_true]
          rw [hcarried]
          exact busy _ hs hclient

theorem carriedOut_of_ne (ho : ∀ q, o ≠ .ask n q) : carriedOut w n o = none := by
  cases o with
  | ask i q =>
    have hi : i ≠ n := by
      rintro rfl
      exact ho q rfl
    simp only [carriedOut]
    split
    · rfl
    · split
      · exact if_neg hi
      · rfl
  | _ => rfl

theorem abandonsNow_of_ne (ho : o ≠ .drop n false) : abandonsNow w n o = false := by
  unfold abandonsNow
  split
  · rename_i i
    have hi : i ≠ n := by
      rintro rfl
      exact ho rfl
    simp [hi]
  · rfl

theorem Busy.run {s : Scene Client Nat} (h : Busy s.world n c₀ c) {v : List (Operation Empty)}
    (hv : ∀ o ∈ v, o.isOrdinary = true)
    (hlength : (play s v).world.sessions.length = s.world.sessions.length)
    (hended : statusOf (play s v).world n ≠ some .active) :
    if abandons n s v then Lost (play s v).world c₀
    else Quiet (play s v).world
      (if commits n s v then (writes n s v).foldl Catalog.after c else c₀) := by
  induction v generalizing s c with
  | nil => exact absurd h.status hended
  | cons o v ih =>
    have ho := hv o List.mem_cons_self
    have hv' : ∀ p ∈ v, p.isOrdinary = true := fun p hp => hv p (List.mem_cons_of_mem o hp)
    have hstep := length_le_of_change (changes s o)
    have hrest := length_le_play (step s o) v
    have hplay : play s (o :: v) = play (step s o) v := rfl
    rw [hplay] at hlength hended ⊢
    have hlength' : (play (step s o) v).world.sessions.length =
        (step s o).world.sessions.length := by omega
    have hactive : (statusOf s.world n == some .committed) = false := by
      rw [h.status]
      rfl
    rw [abandons, commits, writes, hactive, Bool.false_or]
    -- a drop outside a runtime leaves the transaction behind; all else goes on or ends it
    by_cases hdrop : o = .drop n false
    · have hnow : abandonsNow s.world n o = true := by
        rw [hdrop]
        simp [abandonsNow, h.status]
      rw [hnow, Bool.true_or, if_pos rfl]
      rw [hdrop] at hlength' ⊢
      exact h.abandon.run hv' hlength'
    · rw [abandonsNow_of_ne hdrop, Bool.false_or]
      by_cases hask : ∃ q, o = .ask n q
      · obtain ⟨q, rfl⟩ := hask
        rw [List.foldl_append]
        exact ih (h.ask ho) hv' hlength' hended
      · have hne : ∀ q, o ≠ .ask n q := fun q hq => hask ⟨q, hq⟩
        rw [carriedOut_of_ne hne]
        obtain hbusy | ⟨hquiet, hstatus⟩ | ⟨hquiet, hstatus⟩ := h.change (changes s o) ho hne hdrop
        · exact ih hbusy hv' hlength' hended
        · obtain ⟨hend, hwrites, habandons, hcommits⟩ := hquiet.run hv' hlength' n
          rw [habandons, hcommits, hwrites, hstatus]
          exact hend
        · obtain ⟨hend, hwrites, habandons, hcommits⟩ := hquiet.run hv' hlength' n
          have hnot : (statusOf (step s o).world n == some .committed) = false := by
            simpa using hstatus
          rw [habandons, hcommits, hnot]
          exact hend

theorem Quiet.visit {s : Scene Client Nat} (h : Quiet s.world c) {v : List (Operation Empty)}
    (hv : Complete s v) :
    if abandons s.world.sessions.length s v then Lost (play s v).world c
    else Quiet (play s v).world (outcome s c v) := by
  obtain ⟨hordinary, hone, hended⟩ := hv
  unfold outcome
  generalize hn : s.world.sessions.length = n at hone hended ⊢
  induction v generalizing s with
  | nil =>
    have hsame : s.world.sessions.length = n + 1 := hone
    omega
  | cons o v ih =>
    have ho := hordinary o List.mem_cons_self
    have hv' : ∀ p ∈ v, p.isOrdinary = true := fun p hp => hordinary p (List.mem_cons_of_mem o hp)
    have hplay : play s (o :: v) = play (step s o) v := rfl
    rw [hplay] at hone hended ⊢
    have habsent : (statusOf s.world n == some .committed) = false := by
      rw [statusOf, World.session?, List.getElem?_eq_none (Nat.le_of_eq hn)]
      rfl
    rw [abandons, commits, writes, habsent, h.closed.abandonsNow, h.closed.carriedOut,
      Bool.false_or, Bool.false_or]
    by_cases hsame : (step s o).world.sessions.length = s.world.sessions.length
    · have hquiet : Quiet (step s o).world c := by
        have hsingle : ∀ p ∈ [o], p.isOrdinary = true := fun p hp => List.mem_singleton.mp hp ▸ ho
        exact (h.run hsingle hsame n).1
      exact ih hquiet hv' (hsame.trans hn) hone hended
    · have hbusy := h.begun (changes s o) hsame
      rw [hn] at hbusy
      have hstep := length_le_of_change (changes s o)
      have hrest := length_le_play (step s o) v
      have hlength' : (play (step s o) v).world.sessions.length =
          (step s o).world.sessions.length := by omega
      exact hbusy.run hv' hlength' hended

def AllComplete (s : Scene Client Nat) : List (List (Operation Empty)) → Prop
  | [] => True
  | v :: vs =>
    Complete s v ∧ abandons s.world.sessions.length s v = false ∧ AllComplete (play s v) vs

def outcomes (s : Scene Client Nat) (c : Catalog) : List (List (Operation Empty)) → Catalog
  | [] => c
  | v :: vs => outcomes (play s v) (outcome s c v) vs

theorem Quiet.visits {s : Scene Client Nat} (h : Quiet s.world c)
    {vs : List (List (Operation Empty))} (hvs : AllComplete s vs) :
    Quiet (vs.foldl play s).world (outcomes s c vs) := by
  induction vs generalizing s c with
  | nil => exact h
  | cons v vs ih =>
    obtain ⟨hv, habandons, hrest⟩ := hvs
    have hquiet := h.visit hv
    rw [habandons] at hquiet
    exact ih hquiet hrest

structure Fresh (w : World Client Nat) (x : Context) : Prop where
  session : x.session = none
  deadline : x.deadline = none
  calm : w.timeline.Calm x.token

structure Shows (w : World Client Nat) (k : Nat) (depot : Depot) (x : Context) (c : Catalog) :
    Prop where
  begun : (w.begin Client.driver k depot x).1 =
    .ok (w.sessions.length, x.carrying w.sessions.length)
  sees : ∃ t, (w.begin Client.driver k depot x).2.session? w.sessions.length = some t ∧
    ∀ q st reply, q.statement t.dialect = .ok st → c.reply st q.call = some reply →
      ((w.begin Client.driver k depot x).2.ask Client.driver t q).1 =
        (reply.mapError (.statement st.sql)).bind (q.answer st.sql)

theorem isQuery_of_reply {q : Request} {st : Statement} {reply : Except Failure q.call.Result}
    (h : c.reply st q.call = some reply) : q.isQuery = true := by
  cases q with
  | one | many | count => rfl
  | insert | update | delete | exec => cases h

theorem Quiet.shows (h : Quiet w c) (k : Nat) (depot : Depot) {x : Context} (hx : Fresh w x) :
    Shows w k depot x c := by
  obtain ⟨hg, hcalm⟩ := hx.calm.guarded (Client.driver.beginDelay w.databases k)
  rw [← hx.deadline] at hg hcalm
  have hok : (Client.driver.begin w.databases k).1 = .ok 0 := h.client.begin.1
  obtain ⟨hr, hs, hd, ht⟩ := World.start_begun Client.driver w k depot x hg hok
  have hbegin : w.begin Client.driver k depot x = ((w.start Client.driver k depot x).1.map fun s =>
      (s, x.carrying s), (w.start Client.driver k depot x).2) := by
    rw [World.begin, hx.session]
  have hsession := World.session?_of_append hs w.sessions.length
  rw [if_pos rfl] at hsession
  have hclient : (w.start Client.driver k depot x).2.databases.InUse c c :=
    hd ▸ h.client.begin.2
  constructor
  · rw [hbegin, hr]
    rfl
  · rw [hbegin]
    refine ⟨_, hsession, ?_⟩
    intro q st reply hst hreply
    have hquery := Request.isQuery_statement (isQuery_of_reply hreply) hst
    obtain ⟨hrun, -⟩ := hclient.run_query hquery hreply
    rw [← ht] at hcalm
    have hguard := (hcalm.guarded
      (Client.driver.delay (w.start Client.driver k depot x).2.databases 0)).1
    rw [← hx.deadline] at hguard
    obtain ⟨hanswer, -⟩ := World.ask_allowed Client.driver (w.start Client.driver k depot x).2 _ q
      hst rfl hguard
    rw [hanswer, ← hrun]
    rfl

theorem Lost.refuses (h : Lost w c₀) (k : Nat) (depot : Depot) {x : Context} (hx : Fresh w x) :
    (w.begin Client.driver k depot x).1 = .error (.sqlite .nestedTransaction) := by
  obtain ⟨c, hc⟩ := h.client
  obtain ⟨hg, -⟩ := hx.calm.guarded (Client.driver.beginDelay w.databases k)
  rw [← hx.deadline] at hg
  have herror : (Client.driver.begin w.databases k).1 = .error (.sqlite .nestedTransaction) :=
    hc.begin.1
  obtain ⟨hr, -⟩ := World.start_denied Client.driver w k depot x hg herror
  rw [World.begin, hx.session]
  dsimp only
  rw [hr]
  rfl

theorem quiet_initial {o : Options} (h : o.path = memoryPath) (depots : List Depot) :
    Quiet (Scene.initial (Client.ofOptions o).2 depots).world .empty := by
  refine ⟨⟨?_, ?_⟩, Client.atRest_ofOptions h⟩
  · intro i t ht
    simp [Scene.initial, World.session?] at ht
  · intro i t ht
    simp [Scene.initial, World.session?] at ht

/-- Sessions one after the other, on any content. The next one finds what those before it have
committed, and nothing else. After one that was dropped outside a runtime while it was active, none
can be begun. -/
theorem next_session_shows (s : Scene Client Nat) (c : Catalog) (h : Quiet s.world c)
    (before : List (List (Operation Empty))) (hbefore : AllComplete s before)
    (v : List (Operation Empty)) (hv : Complete (before.foldl play s) v) (k : Nat) (depot : Depot)
    (x : Context) (hx : Fresh (play (before.foldl play s) v).world x) :
    let r := before.foldl play s
    let w := (play r v).world
    if abandons r.world.sessions.length r v then
      (w.begin Client.driver k depot x).1 = .error (.sqlite .nestedTransaction)
    else Shows w k depot x (outcome r (outcomes s c before) v) := by
  intro r w
  have hquiet : Quiet r.world (outcomes s c before) := h.visits hbefore
  have hvisit := hquiet.visit hv
  cases habandons : abandons r.world.sessions.length r v with
  | true =>
    rw [habandons] at hvisit
    exact Lost.refuses hvisit k depot hx
  | false =>
    rw [habandons] at hvisit
    exact Quiet.shows hvisit k depot hx

theorem next_session_shows_insert :
    let s : Scene Client Nat :=
      .initial (Client.ofOptions (.ofPath memoryPath)).2 [⟨.default, false⟩]
    let create : List (Operation Empty) :=
      [.begin 0 0, .ask 0 (.exec ⟨"create table t (a integer)", []⟩), .commit 0]
    let insert : List (Operation Empty) :=
      [.begin 0 0, .ask 1 (.insert "t" (.ofList [("a", .int 1)])),
        .ask 1 (.exec ⟨"delete from u", []⟩), .begin 0 2, .commit 1, .commit 1]
    Shows (play ([create].foldl play s) insert).world 0 ⟨.default, false⟩ .background
      ⟨[⟨"t", [⟨"a", .integer, false⟩], .arrival, [[.integer 1]]⟩]⟩ := by
  intro s create insert
  have hs : Quiet s.world .empty := quiet_initial rfl [⟨.default, false⟩]
  have hcreate : Complete s create := by
    constructor
    · decide +kernel
    · decide +kernel
    · decide +kernel
  have hinsert : Complete ([create].foldl play s) insert := by
    constructor
    · decide +kernel
    · decide +kernel
    · decide +kernel
  have hbefore : AllComplete s [create] := ⟨hcreate, by decide +kernel, trivial⟩
  have hclear : (play ([create].foldl play s) insert).world.timeline.isCancelled Timeline.root =
      false := by decide +kernel
  have halarms : (play ([create].foldl play s) insert).world.timeline.alarms.isEmpty = true := by
    decide +kernel
  have hcalm : (play ([create].foldl play s) insert).world.timeline.Calm Timeline.root := by
    constructor
    · exact hclear
    · rw [List.isEmpty_iff.mp halarms]
      intro a ha
      cases ha
  have hshows := next_session_shows s .empty hs [create] hbefore insert hinsert 0 ⟨.default, false⟩
    .background ⟨rfl, rfl, hcalm⟩
  have habandons : abandons ([create].foldl play s).world.sessions.length
      ([create].foldl play s) insert = false := by decide +kernel
  have houtcome : outcome ([create].foldl play s) (outcomes s .empty [create]) insert =
      ⟨[⟨"t", [⟨"a", .integer, false⟩], .arrival, [[.integer 1]]⟩]⟩ := by decide +kernel
  dsimp only at hshows
  rw [habandons, houtcome, if_neg Bool.false_ne_true] at hshows
  exact hshows

/-- A session is dropped outside a runtime, and its transaction is in the way of the next one. -/
theorem abandoned_transaction_in_the_way :
    let s : Scene Client Nat :=
      .initial (Client.ofOptions (.ofPath memoryPath)).2 [⟨.default, false⟩]
    let v : List (Operation Empty) := [.begin 0 0, .drop 0 false]
    Complete s v ∧ Fresh (play s v).world .background ∧
      ((play s v).world.begin Client.driver 0 ⟨.default, false⟩ .background).1 =
        .error (.sqlite .nestedTransaction) := by
  intro s v
  have hcomplete : Complete s v := by
    constructor
    · decide +kernel
    · decide +kernel
    · decide +kernel
  have hfresh : Fresh (play s v).world .background := by
    refine ⟨rfl, rfl, rfl, ?_⟩
    intro a ha
    cases ha
  exact ⟨hcomplete, hfresh, rfl⟩

end Sqlite

end UnitOfWork
