import UnitOfWork.Request

namespace UnitOfWork

namespace Failure

def isPlain : Failure → Bool
  | noResult | rolledBack | poisoned _ | cancelled | deadlineExceeded => false
  | statement _ cause => cause.isPlain
  | _ => true

structure Silent (e : Failure) : Prop where
  noResult : e.isNoResult = false
  rolledBack : e.isRolledBack = false
  poisoned : e.isPoisoned = false
  cancelled : e.isCancelled = false

theorem silent_of_isPlain {e : Failure} (h : e.isPlain = true) : e.Silent := by
  induction e with
  | statement sql cause ih =>
    have hcause := ih h
    exact ⟨hcause.noResult, rfl, rfl, hcause.cancelled⟩
  | noResult | rolledBack | poisoned | cancelled | deadlineExceeded => cases h
  | _ => exact ⟨rfl, rfl, rfl, rfl⟩

theorem not_isCancelled_of_isNoResult {e : Failure} (h : e.isNoResult = true) :
    e.isCancelled = false := by
  induction e with
  | noResult => rfl
  | statement sql cause ih => exact ih h
  | _ => cases h

def rolledBackUnder : Nat → Failure
  | 0 => rolledBack
  | n + 1 => poisoned (rolledBackUnder n)

theorem isRolledBack_iff {e : Failure} : e.isRolledBack = true ↔ ∃ n, e = rolledBackUnder n := by
  constructor
  · intro h
    induction e with
    | rolledBack => exact ⟨0, rfl⟩
    | poisoned cause ih =>
      obtain ⟨n, hn⟩ := ih h
      exact ⟨n + 1, by rw [hn, rolledBackUnder]⟩
    | _ => cases h
  · rintro ⟨n, rfl⟩
    induction n with
    | zero => rfl
    | succ n ih => exact ih

end Failure

theorem error_of_map {α β : Type} {x : Except Failure α} {f : α → β} {e : Failure}
    (h : x.map f = .error e) : x = .error e := by
  cases x <;> cases h
  rfl

namespace Request

theorem statement_error {d : Dialect} {q : Request} {e : Failure} (h : q.statement d = .error e) :
    ∃ detail, e = .parameter detail := by
  cases q with
  | one | many | count | delete | exec => cases h
  | insert table row =>
    rw [Request.statement, Statement.insert] at h
    split at h <;> cases h
    exact ⟨_, rfl⟩
  | update table row clauses =>
    rw [Request.statement, Statement.update] at h
    split at h <;> cases h
    exact ⟨_, rfl⟩

inductive Unanswered (sql : String) : (q : Request) → q.call.Result → Failure → Prop where
  | noRow (columns : List String) (table : String) (clauses : List Clause) :
    Unanswered sql (.one columns table clauses) (none : Option Row) .noResult
  | noNumber (table : String) (clauses : List Clause) (found : Option Row) (detail : String) :
    Unanswered sql (.count table clauses) found (.statement sql (.mapping detail))

theorem answer_error {sql : String} {q : Request} {f : q.call.Result} {e : Failure}
    (h : q.answer sql f = .error e) : Unanswered sql q f e := by
  cases q with
  | one columns table clauses =>
    simp only [answer] at h
    split at h <;> cases h
    exact .noRow columns table clauses
  | count table clauses =>
    simp only [answer] at h
    split at h <;> cases h
    exact .noNumber table clauses f _
  | many | insert | update | delete | exec => cases h

end Request

end UnitOfWork
