import UnitOfWork.World

/-!
What each operation on a world makes of its sessions and of its databases.
-/
namespace UnitOfWork.World

variable {δ τ : Type}

@[simp] theorem note_sessions (w : World δ τ) (l : Level) (t : String) :
    (w.note l t).sessions = w.sessions := rfl

@[simp] theorem note_databases (w : World δ τ) (l : Level) (t : String) :
    (w.note l t).databases = w.databases := rfl

@[simp] theorem note_timeline (w : World δ τ) (l : Level) (t : String) :
    (w.note l t).timeline = w.timeline := rfl

@[simp] theorem notes_sessions (w : World δ τ) (lines : List LogLine) :
    (w.notes lines).sessions = w.sessions := rfl

@[simp] theorem notes_databases (w : World δ τ) (lines : List LogLine) :
    (w.notes lines).databases = w.databases := rfl

@[simp] theorem notes_timeline (w : World δ τ) (lines : List LogLine) :
    (w.notes lines).timeline = w.timeline := rfl

@[simp] theorem setSession_sessions (w : World δ τ) (i : Nat) (s : Session τ) :
    (w.setSession i s).sessions = w.sessions.set i (some s) := rfl

@[simp] theorem setSession_databases (w : World δ τ) (i : Nat) (s : Session τ) :
    (w.setSession i s).databases = w.databases := rfl

@[simp] theorem setSession_timeline (w : World δ τ) (i : Nat) (s : Session τ) :
    (w.setSession i s).timeline = w.timeline := rfl

@[simp] theorem wait_sessions (w : World δ τ) (ms : Nat) : (w.wait ms).sessions = w.sessions := rfl

@[simp] theorem wait_databases (w : World δ τ) (ms : Nat) :
    (w.wait ms).databases = w.databases := rfl

@[simp] theorem guarded_sessions (w : World δ τ) (token : Nat) (deadline : Option Nat) (ms : Nat) :
    (w.guarded token deadline ms).2.sessions = w.sessions := rfl

@[simp] theorem guarded_databases (w : World δ τ) (token : Nat) (deadline : Option Nat) (ms : Nat) :
    (w.guarded token deadline ms).2.databases = w.databases := rfl

@[simp] theorem guarded_timeline (w : World δ τ) (token : Nat) (deadline : Option Nat) (ms : Nat) :
    (w.guarded token deadline ms).2.timeline = (w.timeline.guarded token deadline ms).2 := rfl

variable (D : Driver δ τ)

@[simp] theorem release_sessions (w : World δ τ) (t : τ) (runtime : Bool) :
    (w.release D t runtime).sessions = w.sessions := rfl

@[simp] theorem release_databases (w : World δ τ) (t : τ) (runtime : Bool) :
    (w.release D t runtime).databases = (D.release w.databases t runtime).2 := rfl

theorem lt_of_session? {w : World δ τ} {i : Nat} {s : Session τ} (h : w.session? i = some s) :
    i < w.sessions.length := by
  apply Nat.lt_of_not_le
  intro hi
  rw [session?, List.getElem?_eq_none hi] at h
  cases h

theorem set_of_session? {w : World δ τ} {i : Nat} {s : Session τ} (h : w.session? i = some s) :
    w.sessions.set i (some s) = w.sessions := by
  have hi := lt_of_session? h
  have he : w.sessions[i] = some s := by
    simpa [session?, List.getElem?_eq_getElem hi] using h
  rw [← he, List.set_getElem_self]

theorem session?_of_eq {w w' : World δ τ} (h : w'.sessions = w.sessions) (j : Nat) :
    w'.session? j = w.session? j := by
  rw [session?, session?, h]

theorem session?_of_set {w w' : World δ τ} {i : Nat} {x : Option (Session τ)}
    (h : w'.sessions = w.sessions.set i x) (hi : i < w.sessions.length) (j : Nat) :
    w'.session? j = if i = j then x else w.session? j := by
  rw [session?, h, List.getElem?_set]
  by_cases hj : i = j
  · subst hj
    simp [hi]
  · simp [hj, session?]

theorem session?_of_set_self {w w' : World δ τ} {i : Nat} {s : Session τ}
    {x : Option (Session τ)} (hi : w.session? i = some s)
    (h : w'.sessions = w.sessions.set i x) : w'.session? i = x := by
  rw [session?_of_set h (lt_of_session? hi), if_pos rfl]

theorem session?_of_append {w w' : World δ τ} {x : Option (Session τ)}
    (h : w'.sessions = w.sessions ++ [x]) (j : Nat) :
    w'.session? j = if j = w.sessions.length then x else w.session? j := by
  rw [session?, h]
  by_cases hj : j = w.sessions.length
  · simp [hj]
  · by_cases hl : j < w.sessions.length
    · simp [hj, session?, List.getElem?_append_left hl]
    · rw [List.getElem?_eq_none (by simp; omega), if_neg hj, session?,
        List.getElem?_eq_none (by omega)]

def begun (d : Database) (depot : Depot) (c : Context) (x : τ) : Session τ :=
  ⟨d, depot.dialect, depot.logSql, c.token, c.deadline, 1, none, .active, some x⟩

theorem start_refused (w : World δ τ) (k : Nat) (depot : Depot) (c : Context) {e : Failure}
    (hg : (w.timeline.guarded c.token c.deadline (D.beginDelay w.databases k)).1 = .error e) :
    w.start D k depot c =
      (.error e, (w.guarded c.token c.deadline (D.beginDelay w.databases k)).2) := by
  simp [start, guarded, hg]

theorem start_denied (w : World δ τ) (k : Nat) (depot : Depot) (c : Context) {e : Failure}
    (hg : (w.timeline.guarded c.token c.deadline (D.beginDelay w.databases k)).1 = .ok ())
    (hb : (D.begin w.databases k).1 = .error e) :
    (w.start D k depot c).1 = .error e ∧ (w.start D k depot c).2.sessions = w.sessions ∧
      (w.start D k depot c).2.databases = (D.begin w.databases k).2.2 := by
  simp only [start, guarded, hg]
  split
  · rename_i f lines d h
    simp_all
  · rename_i t lines d h
    simp [h] at hb

theorem start_begun (w : World δ τ) (k : Nat) (depot : Depot) (c : Context) {x : τ}
    (hg : (w.timeline.guarded c.token c.deadline (D.beginDelay w.databases k)).1 = .ok ())
    (hb : (D.begin w.databases k).1 = .ok x) :
    (w.start D k depot c).1 = .ok w.sessions.length ∧
      (w.start D k depot c).2.sessions = w.sessions ++
        [some (begun (D.database (D.begin w.databases k).2.2 k) depot c x)] ∧
      (w.start D k depot c).2.databases = (D.begin w.databases k).2.2 ∧
      (w.start D k depot c).2.timeline =
        (w.timeline.guarded c.token c.deadline (D.beginDelay w.databases k)).2 := by
  simp only [start, guarded, hg]
  split
  · rename_i f lines d h
    simp [h] at hb
  · rename_i t lines d h
    rw [h] at hb
    cases hb
    simp [h, begun]

theorem join_active (w : World δ τ) (i : Nat) (s : Session τ) (hs : w.session? i = some s)
    (h : s.status = .active) :
    (w.join i).1 = .ok i ∧
      (w.join i).2.sessions = w.sessions.set i (some { s with depth := s.depth + 1 }) ∧
      (w.join i).2.databases = w.databases ∧ (w.join i).2.timeline = w.timeline := by
  simp [join, hs, h]

theorem join_ended (w : World δ τ) (i : Nat)
    (h : ∀ s, w.session? i = some s → s.status ≠ .active) :
    w.join i = (.error .transactionClosed, w) := by
  cases hs : w.session? i with
  | none => simp [join, hs]
  | some s => simp [join, hs, h s hs]

theorem join_error {w : World δ τ} {i : Nat} {e : Failure} (h : (w.join i).1 = .error e) :
    e = .transactionClosed := by
  unfold join at h
  split at h
  · cases h
    rfl
  · split at h <;> cases h
    rfl

theorem commitTransaction_ok (w : World δ τ) (i : Nat) (s : Session τ) (x : τ)
    (h : (D.commit w.databases x).1 = .ok ()) :
    (w.commitTransaction D i s x).1 = .ok () ∧
      (w.commitTransaction D i s x).2.sessions =
        w.sessions.set i (some (s.finished .committed)) ∧
      (w.commitTransaction D i s x).2.databases =
        (D.release (D.commit w.databases x).2 x true).2 := by
  simp only [commitTransaction, wait_databases]
  split
  · rename_i d hc
    simp [hc]
  · rename_i e d hc
    rw [hc] at h
    cases h

theorem commitTransaction_error (w : World δ τ) (i : Nat) (s : Session τ) (x : τ) {e : Failure}
    (h : (D.commit w.databases x).1 = .error e) :
    (w.commitTransaction D i s x).1 = .error e ∧
      (w.commitTransaction D i s x).2.sessions =
        w.sessions.set i (some (s.finished .rolledBack)) ∧
      (w.commitTransaction D i s x).2.databases =
        (D.release (D.rollback (D.commit w.databases x).2 x).2 x true).2 := by
  simp only [commitTransaction, wait_databases]
  split
  · rename_i d hc
    rw [hc] at h
    cases h
  · rename_i f d hc
    rw [hc] at h
    cases h
    cases (D.rollback d x).1 <;> simp [hc]

theorem commit_of_ended (w : World δ τ) (i : Nat) (s : Session τ) (h : s.status ≠ .active) :
    w.commit D i s = (.error .transactionClosed, w) := by
  rw [commit, if_neg h]

theorem commit_of_error (w : World δ τ) (i : Nat) (s : Session τ) (h : s.status = .active)
    {e : Failure} (he : s.error = some e) :
    (w.commit D i s).1 = .error (.poisoned e) ∧ (w.commit D i s).2.sessions = w.sessions ∧
      (w.commit D i s).2.databases = w.databases := by
  simp [commit, h, he]

theorem commit_nested (w : World δ τ) (i : Nat) (s : Session τ) (h : s.status = .active)
    (he : s.error = none) (hd : 1 < s.depth) :
    (w.commit D i s).1 = .ok () ∧
      (w.commit D i s).2.sessions = w.sessions.set i (some { s with depth := s.depth - 1 }) ∧
      (w.commit D i s).2.databases = w.databases := by
  simp [commit, h, he, hd]

theorem commit_refused (w : World δ τ) (i : Nat) (s : Session τ) (h : s.status = .active)
    (he : s.error = none) (hd : ¬ 1 < s.depth) {e : Failure}
    (hc : w.timeline.check s.token s.deadline = .error e) : w.commit D i s = (.error e, w) := by
  simp [commit, h, he, hd, hc]

theorem commit_outermost (w : World δ τ) (i : Nat) (s : Session τ) (h : s.status = .active)
    (he : s.error = none) (hd : ¬ 1 < s.depth)
    (hc : w.timeline.check s.token s.deadline = .ok ()) {x : τ} (hx : s.transaction = some x) :
    w.commit D i s = w.commitTransaction D i s x := by
  simp [commit, h, he, hd, hc, hx]

theorem commit_absent (w : World δ τ) (i : Nat) (s : Session τ) (h : s.status = .active)
    (he : s.error = none) (hd : ¬ 1 < s.depth)
    (hc : w.timeline.check s.token s.deadline = .ok ()) (hx : s.transaction = none) :
    w.commit D i s = (.error .transactionClosed, w) := by
  simp [commit, h, he, hd, hc, hx]

theorem rollback_of_ended (w : World δ τ) (i : Nat) (s : Session τ) (h : s.status ≠ .active) :
    w.rollback D i s = (.ok (), w) := by
  rw [rollback, if_neg h]

theorem rollback_nested (w : World δ τ) (i : Nat) (s : Session τ) (h : s.status = .active)
    (hd : 1 < s.depth) :
    (w.rollback D i s).1 = .ok () ∧
      (w.rollback D i s).2.sessions = w.sessions.set i
        (some { s with depth := s.depth - 1, error := some (s.error.getD .rolledBack) }) ∧
      (w.rollback D i s).2.databases = w.databases := by
  simp [rollback, h, hd]

theorem rollback_outermost (w : World δ τ) (i : Nat) (s : Session τ) (h : s.status = .active)
    (hd : ¬ 1 < s.depth) {x : τ} (hx : s.transaction = some x) :
    (w.rollback D i s).1 = (D.rollback w.databases x).1 ∧
      (w.rollback D i s).2.sessions = w.sessions.set i (some (s.finished .rolledBack)) ∧
      (w.rollback D i s).2.databases = (D.release (D.rollback w.databases x).2 x true).2 := by
  simp [rollback, h, hd, hx]

theorem rollback_absent (w : World δ τ) (i : Nat) (s : Session τ) (hd : ¬ 1 < s.depth)
    (hx : s.transaction = none) : w.rollback D i s = (.ok (), w) := by
  simp [rollback, hd, hx]

theorem commit_timeline (w : World δ τ) (i : Nat) (s : Session τ) (h : 1 < s.depth) :
    (w.commit D i s).2.timeline = w.timeline := by
  unfold commit
  split
  · cases s.error <;> simp
  · rfl

theorem rollback_timeline (w : World δ τ) (i : Nat) (s : Session τ) (h : 1 < s.depth) :
    (w.rollback D i s).2.timeline = w.timeline := by
  unfold rollback
  split
  · simp
  · rfl

theorem runStatement_refused (w : World δ τ) (s : Session τ) (x : τ) (c : Call) (st : Statement)
    {e : Failure}
    (h : (w.timeline.guarded s.token s.deadline (D.delay w.databases x)).1 = .error e) :
    w.runStatement D s x c st =
      (.error (.statement st.sql e), (w.guarded s.token s.deadline (D.delay w.databases x)).2) := by
  simp [runStatement, guarded, h]

theorem runStatement_allowed (w : World δ τ) (s : Session τ) (x : τ) (c : Call) (st : Statement)
    (h : (w.timeline.guarded s.token s.deadline (D.delay w.databases x)).1 = .ok ()) :
    w.runStatement D s x c st = ((D.run w.databases x c st).1.mapError (.statement st.sql),
      { (w.guarded s.token s.deadline (D.delay w.databases x)).2 with
        databases := (D.run w.databases x c st).2 }) := by
  simp only [runStatement, guarded, h]
  split
  · rename_i e d hr
    rw [hr]
    rfl
  · rename_i f d hr
    rw [hr]
    rfl

theorem ask_unstated (w : World δ τ) (s : Session τ) (q : Request) {e : Failure}
    (h : q.statement s.dialect = .error e) : w.ask D s q = (.error e, w) := by
  simp [ask, h]

theorem ask_ended (w : World δ τ) (s : Session τ) (q : Request) {st : Statement}
    (h : q.statement s.dialect = .ok st) (hx : s.transaction = none) :
    (w.ask D s q).1 = .error .transactionClosed ∧ (w.ask D s q).2.sessions = w.sessions ∧
      (w.ask D s q).2.databases = w.databases := by
  simp [ask, h, hx]

theorem ask_refused (w : World δ τ) (s : Session τ) (q : Request) {st : Statement} {x : τ}
    {e : Failure} (h : q.statement s.dialect = .ok st) (hx : s.transaction = some x)
    (hg : (w.timeline.guarded s.token s.deadline (D.delay w.databases x)).1 = .error e) :
    (w.ask D s q).1 = .error (.statement st.sql e) ∧ (w.ask D s q).2.sessions = w.sessions ∧
      (w.ask D s q).2.databases = w.databases ∧
      (w.ask D s q).2.timeline =
        (w.timeline.guarded s.token s.deadline (D.delay w.databases x)).2 := by
  simp [ask, h, hx, runStatement_refused, hg]

theorem ask_allowed (w : World δ τ) (s : Session τ) (q : Request) {st : Statement} {x : τ}
    (h : q.statement s.dialect = .ok st) (hx : s.transaction = some x)
    (hg : (w.timeline.guarded s.token s.deadline (D.delay w.databases x)).1 = .ok ()) :
    (w.ask D s q).1 =
        ((D.run w.databases x q.call st).1.mapError (.statement st.sql)).bind
          (Request.answer st.sql q) ∧
      (w.ask D s q).2.sessions = w.sessions ∧
      (w.ask D s q).2.databases = (D.run w.databases x q.call st).2 ∧
      (w.ask D s q).2.timeline =
        (w.timeline.guarded s.token s.deadline (D.delay w.databases x)).2 := by
  simp only [ask, h, hx]
  rw [runStatement_allowed D _ s x q.call st (by exact hg)]
  simp only [note_databases]
  cases (D.run w.databases x q.call st).1 <;> exact ⟨rfl, rfl, rfl, rfl⟩

theorem drop_ended (w : World δ τ) (i : Nat) (s : Session τ) (runtime : Bool)
    (hx : s.transaction = none) :
    w.drop D i s runtime = { w with sessions := w.sessions.set i none } := by
  simp [drop, hx]

theorem drop_open (w : World δ τ) (i : Nat) (s : Session τ) {x : τ}
    (hx : s.transaction = some x) :
    (w.drop D i s true).sessions = w.sessions.set i none ∧
      (w.drop D i s true).databases = (D.release (D.rollback w.databases x).2 x true).2 := by
  simp only [drop, hx, if_true]
  cases (D.rollback w.databases x).1 <;> simp

theorem drop_abandoned (w : World δ τ) (i : Nat) (s : Session τ) {x : τ}
    (hx : s.transaction = some x) :
    (w.drop D i s false).sessions = w.sessions.set i none ∧
      (w.drop D i s false).databases = (D.release w.databases x false).2 := by
  simp [drop, hx]

inductive StartCase (w : World δ τ) (k : Nat) (depot : Depot) (c : Context) : Prop where
  | refused (e : Failure)
      (hg : (w.timeline.guarded c.token c.deadline (D.beginDelay w.databases k)).1 = .error e)
      (h : w.start D k depot c =
        (.error e, (w.guarded c.token c.deadline (D.beginDelay w.databases k)).2))
  | denied (e : Failure)
      (hg : (w.timeline.guarded c.token c.deadline (D.beginDelay w.databases k)).1 = .ok ())
      (hb : (D.begin w.databases k).1 = .error e) (hr : (w.start D k depot c).1 = .error e)
      (hs : (w.start D k depot c).2.sessions = w.sessions)
      (hd : (w.start D k depot c).2.databases = (D.begin w.databases k).2.2)
  | begun (x : τ)
      (hg : (w.timeline.guarded c.token c.deadline (D.beginDelay w.databases k)).1 = .ok ())
      (hb : (D.begin w.databases k).1 = .ok x)
      (hr : (w.start D k depot c).1 = .ok w.sessions.length)
      (hs : (w.start D k depot c).2.sessions = w.sessions ++
        [some (World.begun (D.database (D.begin w.databases k).2.2 k) depot c x)])
      (hd : (w.start D k depot c).2.databases = (D.begin w.databases k).2.2)

theorem start_case (w : World δ τ) (k : Nat) (depot : Depot) (c : Context) :
    StartCase D w k depot c := by
  cases hg : (w.timeline.guarded c.token c.deadline (D.beginDelay w.databases k)).1 with
  | error e => exact .refused e hg (start_refused D w k depot c hg)
  | ok =>
    cases hb : (D.begin w.databases k).1 with
    | error e =>
      obtain ⟨hr, hs, hd⟩ := start_denied D w k depot c hg hb
      exact .denied e hg hb hr hs hd
    | ok x =>
      obtain ⟨hr, hs, hd, -⟩ := start_begun D w k depot c hg hb
      exact .begun x hg hb hr hs hd

inductive BeginCase (w : World δ τ) (k : Nat) (depot : Depot) (c : Context) : Prop where
  | refused (e : Failure) (hr : (w.begin D k depot c).1 = .error e)
      (hs : (w.begin D k depot c).2.sessions = w.sessions)
  | joined (i : Nat) (hc : c.session = some i) (hr : (w.begin D k depot c).1 = .ok (i, c))
      (hs : (w.begin D k depot c).2.sessions.length = w.sessions.length)
  | started (x : τ) (database : Database) (hc : c.session = none)
      (hr : (w.begin D k depot c).1 = .ok (w.sessions.length, c.carrying w.sessions.length))
      (hs : (w.begin D k depot c).2.sessions = w.sessions ++ [some (begun database depot c x)])

variable {D} in
theorem begin_joining {w : World δ τ} {c : Context} {i : Nat} (hc : c.session = some i) (k : Nat)
    (depot : Depot) :
    w.begin D k depot c = ((w.join i).1.map fun s => (s, c), (w.join i).2) := by
  simp only [begin, hc]

variable {D} in
theorem begin_starting {w : World δ τ} {c : Context} (hc : c.session = none) (k : Nat)
    (depot : Depot) : w.begin D k depot c =
      ((w.start D k depot c).1.map fun s => (s, c.carrying s), (w.start D k depot c).2) := by
  simp only [begin, hc]

theorem begin_case (w : World δ τ) (k : Nat) (depot : Depot) (c : Context) :
    BeginCase D w k depot c := by
  cases hc : c.session with
  | some i =>
    have hbegin := begin_joining (D := D) (w := w) hc k depot
    by_cases h : ∃ t, w.session? i = some t ∧ t.status = .active
    · obtain ⟨t, ht, ha⟩ := h
      obtain ⟨hr, hs, -⟩ := join_active w i t ht ha
      refine .joined i hc ?_ ?_
      · rw [hbegin, hr]
        rfl
      · rw [hbegin, hs, List.length_set]
    · have hended := join_ended w i fun t ht ha => h ⟨t, ht, ha⟩
      rw [hended] at hbegin
      exact .refused .transactionClosed (by rw [hbegin]; rfl) (by rw [hbegin])
  | none =>
    have hbegin := begin_starting (D := D) (w := w) hc k depot
    cases start_case D w k depot c with
    | refused e hg hr =>
      rw [hr] at hbegin
      exact .refused e (by rw [hbegin]; rfl) (by rw [hbegin]; rfl)
    | denied e hg hb hr hs hd =>
      exact .refused e (by rw [hbegin, hr]; rfl) (by rw [hbegin, hs])
    | begun x hg hb hr hs hd =>
      exact .started x _ hc (by rw [hbegin, hr]; rfl) (by rw [hbegin, hs])

inductive CommitCase (w : World δ τ) (i : Nat) (s : Session τ) : Prop where
  | ended (ha : s.status ≠ .active) (h : w.commit D i s = (.error .transactionClosed, w))
  | poisoned (e : Failure) (ha : s.status = .active) (he : s.error = some e)
      (hr : (w.commit D i s).1 = .error (.poisoned e))
      (hs : (w.commit D i s).2.sessions = w.sessions)
      (hd : (w.commit D i s).2.databases = w.databases)
  | nested (ha : s.status = .active) (he : s.error = none) (h1 : 1 < s.depth)
      (hr : (w.commit D i s).1 = .ok ())
      (hs : (w.commit D i s).2.sessions =
        w.sessions.set i (some { s with depth := s.depth - 1 }))
      (hd : (w.commit D i s).2.databases = w.databases)
  | refused (e : Failure) (ha : s.status = .active) (he : s.error = none) (h1 : ¬ 1 < s.depth)
      (hc : w.timeline.check s.token s.deadline = .error e) (h : w.commit D i s = (.error e, w))
  | absent (hx : s.transaction = none) (h : w.commit D i s = (.error .transactionClosed, w))
  | committed (x : τ) (ha : s.status = .active) (he : s.error = none) (h1 : ¬ 1 < s.depth)
      (hc : w.timeline.check s.token s.deadline = .ok ()) (hx : s.transaction = some x)
      (hb : (D.commit w.databases x).1 = .ok ()) (hr : (w.commit D i s).1 = .ok ())
      (hs : (w.commit D i s).2.sessions = w.sessions.set i (some (s.finished .committed)))
      (hd : (w.commit D i s).2.databases = (D.release (D.commit w.databases x).2 x true).2)
  | failed (x : τ) (e : Failure) (ha : s.status = .active) (he : s.error = none)
      (h1 : ¬ 1 < s.depth) (hc : w.timeline.check s.token s.deadline = .ok ())
      (hx : s.transaction = some x) (hb : (D.commit w.databases x).1 = .error e)
      (hr : (w.commit D i s).1 = .error e)
      (hs : (w.commit D i s).2.sessions = w.sessions.set i (some (s.finished .rolledBack)))
      (hd : (w.commit D i s).2.databases =
        (D.release (D.rollback (D.commit w.databases x).2 x).2 x true).2)

theorem commit_case (w : World δ τ) (i : Nat) (s : Session τ) : CommitCase D w i s := by
  by_cases ha : s.status = .active
  · cases he : s.error with
    | some e =>
      obtain ⟨hr, hs, hd⟩ := commit_of_error D w i s ha he
      exact .poisoned e ha he hr hs hd
    | none =>
      by_cases h1 : 1 < s.depth
      · obtain ⟨hr, hs, hd⟩ := commit_nested D w i s ha he h1
        exact .nested ha he h1 hr hs hd
      · cases hc : w.timeline.check s.token s.deadline with
        | error e => exact .refused e ha he h1 hc (commit_refused D w i s ha he h1 hc)
        | ok =>
          cases hx : s.transaction with
          | none => exact .absent hx (commit_absent D w i s ha he h1 hc hx)
          | some x =>
            have hcommit := commit_outermost D w i s ha he h1 hc hx
            cases hb : (D.commit w.databases x).1 with
            | ok =>
              obtain ⟨hr, hs, hd⟩ := commitTransaction_ok D w i s x hb
              rw [← hcommit] at hr hs hd
              exact .committed x ha he h1 hc hx hb hr hs hd
            | error e =>
              obtain ⟨hr, hs, hd⟩ := commitTransaction_error D w i s x hb
              rw [← hcommit] at hr hs hd
              exact .failed x e ha he h1 hc hx hb hr hs hd
  · exact .ended ha (commit_of_ended D w i s ha)

inductive RollbackCase (w : World δ τ) (i : Nat) (s : Session τ) : Prop where
  | ended (ha : s.status ≠ .active) (h : w.rollback D i s = (.ok (), w))
  | nested (ha : s.status = .active) (h1 : 1 < s.depth) (hr : (w.rollback D i s).1 = .ok ())
      (hs : (w.rollback D i s).2.sessions = w.sessions.set i
        (some { s with depth := s.depth - 1, error := some (s.error.getD .rolledBack) }))
      (hd : (w.rollback D i s).2.databases = w.databases)
  | absent (hx : s.transaction = none) (h : w.rollback D i s = (.ok (), w))
  | outermost (x : τ) (ha : s.status = .active) (h1 : ¬ 1 < s.depth) (hx : s.transaction = some x)
      (hr : (w.rollback D i s).1 = (D.rollback w.databases x).1)
      (hs : (w.rollback D i s).2.sessions = w.sessions.set i (some (s.finished .rolledBack)))
      (hd : (w.rollback D i s).2.databases = (D.release (D.rollback w.databases x).2 x true).2)

theorem rollback_case (w : World δ τ) (i : Nat) (s : Session τ) : RollbackCase D w i s := by
  by_cases ha : s.status = .active
  · by_cases h1 : 1 < s.depth
    · obtain ⟨hr, hs, hd⟩ := rollback_nested D w i s ha h1
      exact .nested ha h1 hr hs hd
    · cases hx : s.transaction with
      | none => exact .absent hx (rollback_absent D w i s h1 hx)
      | some x =>
        obtain ⟨hr, hs, hd⟩ := rollback_outermost D w i s ha h1 hx
        exact .outermost x ha h1 hx hr hs hd
  · exact .ended ha (rollback_of_ended D w i s ha)

inductive AskCase (w : World δ τ) (s : Session τ) (q : Request) : Prop where
  | unstated (e : Failure) (hst : q.statement s.dialect = .error e)
      (h : w.ask D s q = (.error e, w))
  | ended (st : Statement) (hst : q.statement s.dialect = .ok st) (hx : s.transaction = none)
      (hr : (w.ask D s q).1 = .error .transactionClosed)
      (hs : (w.ask D s q).2.sessions = w.sessions)
      (hd : (w.ask D s q).2.databases = w.databases)
      (hl : (w.ask D s q).2.timeline = w.timeline)
  | refused (st : Statement) (x : τ) (e : Failure) (hst : q.statement s.dialect = .ok st)
      (hx : s.transaction = some x)
      (hg : (w.timeline.guarded s.token s.deadline (D.delay w.databases x)).1 = .error e)
      (hr : (w.ask D s q).1 = .error (.statement st.sql e))
      (hs : (w.ask D s q).2.sessions = w.sessions)
      (hd : (w.ask D s q).2.databases = w.databases)
      (hl : (w.ask D s q).2.timeline =
        (w.timeline.guarded s.token s.deadline (D.delay w.databases x)).2)
  | allowed (st : Statement) (x : τ) (hst : q.statement s.dialect = .ok st)
      (hx : s.transaction = some x)
      (hg : (w.timeline.guarded s.token s.deadline (D.delay w.databases x)).1 = .ok ())
      (hr : (w.ask D s q).1 = ((D.run w.databases x q.call st).1.mapError (.statement st.sql)).bind
        (Request.answer st.sql q))
      (hs : (w.ask D s q).2.sessions = w.sessions)
      (hd : (w.ask D s q).2.databases = (D.run w.databases x q.call st).2)
      (hl : (w.ask D s q).2.timeline =
        (w.timeline.guarded s.token s.deadline (D.delay w.databases x)).2)

theorem ask_case (w : World δ τ) (s : Session τ) (q : Request) : AskCase D w s q := by
  cases hst : q.statement s.dialect with
  | error e => exact .unstated e hst (ask_unstated D w s q hst)
  | ok st =>
    cases hx : s.transaction with
    | none =>
      obtain ⟨hr, hs, hd⟩ := ask_ended D w s q hst hx
      exact .ended st hst hx hr hs hd (by simp [ask, hst, hx])
    | some x =>
      cases hg : (w.timeline.guarded s.token s.deadline (D.delay w.databases x)).1 with
      | error e =>
        obtain ⟨hr, hs, hd, hl⟩ := ask_refused D w s q hst hx hg
        exact .refused st x e hst hx hg hr hs hd hl
      | ok =>
        obtain ⟨hr, hs, hd, hl⟩ := ask_allowed D w s q hst hx hg
        exact .allowed st x hst hx hg hr hs hd hl

theorem ask_sessions (w : World δ τ) (s : Session τ) (q : Request) :
    (w.ask D s q).2.sessions = w.sessions := by
  cases ask_case D w s q with
  | unstated e hst hr => rw [hr]
  | ended st hst hx hr hs => exact hs
  | refused st x e hst hx hg hr hs | allowed st x hst hx hg hr hs => exact hs

end UnitOfWork.World
