import UnitOfWork.Proofs.Statement.Template

/-!
Statements with their values in the places of the marks. Main statement: where the character with
which marks begin stands nowhere else, a statement determines them.
-/
namespace UnitOfWork

inductive Letter where
  | char (c : Char)
  | value (v : Value)
deriving DecidableEq

namespace Letter

def chars (s : String) : List Letter := s.toList.map char

def marked (mark : Nat → String) : Nat → List Letter → List Char
  | _, [] => []
  | k, char c :: ss => c :: marked mark k ss
  | k, value _ :: ss => (mark k).toList ++ marked mark (k + 1) ss

def values : List Letter → List Value
  | [] => []
  | char _ :: ss => values ss
  | value v :: ss => v :: values ss

end Letter

namespace Dialect

def MarksWith (d : Dialect) (m : Char) : Prop := ∀ n, ∃ rest, (d.placeholder n).toList = m :: rest

theorem default_marksWith : default.MarksWith '?' := fun _ => ⟨[], by simp [default]⟩

theorem postgres_marksWith : postgres.MarksWith '$' := fun n =>
  ⟨Text.decimal n, by simp [postgres, Text.decimalText]⟩

end Dialect

namespace Letter

theorem eq_of_marked {d : Dialect} {m : Char} (hd : d.MarksWith m) {ss ts : List Letter}
    (hss : char m ∉ ss) (hts : char m ∉ ts) (hvalues : values ss = values ts) (k : Nat)
    (h : marked d.placeholder k ss = marked d.placeholder k ts) : ss = ts := by
  -- marks are numbered alike from the start, so all they have to tell is where values are
  induction ss generalizing ts k with
  | nil =>
    obtain ⟨mark, hmark⟩ := hd k
    cases ts with
    | nil => rfl
    | cons t ts => cases t <;> simp [marked, hmark] at h
  | cons s ss ih =>
    obtain ⟨mark, hmark⟩ := hd k
    cases ts with
    | nil => cases s <;> simp [marked, hmark] at h
    | cons t ts =>
      simp only [List.mem_cons, not_or] at hss hts
      cases s with
      | char c => cases t with
        | char c' =>
          simp only [marked, List.cons.injEq] at h
          rw [h.1, ih hss.2 hts.2 hvalues k h.2]
        | value w =>
          simp only [marked, hmark, List.cons_append, List.cons.injEq] at h
          exact absurd (congrArg char h.1.symm) hss.1
      | value v => cases t with
        | char c' =>
          simp only [marked, hmark, List.cons_append, List.cons.injEq] at h
          exact absurd (congrArg char h.1) hts.1
        | value w =>
          simp only [values, List.cons.injEq] at hvalues
          rw [hvalues.1, ih hss.2 hts.2 hvalues.2 (k + 1) (List.append_cancel_left h)]

end Letter

namespace Template

def load : Template → List Value → List Letter
  | [], _ => []
  | .text s :: t, vs => Letter.chars s ++ load t vs
  | .gap :: t, vs => (vs.head?.map Letter.value).toList ++ load t vs.tail

@[simp] theorem load_nil (vs : List Value) : load [] vs = [] := rfl

@[simp] theorem load_text (s : String) (t : Template) (vs : List Value) :
    load (.text s :: t) vs = Letter.chars s ++ load t vs := rfl

@[simp] theorem load_gap (t : Template) (v : Value) (vs : List Value) :
    load (.gap :: t) (v :: vs) = .value v :: load t vs := rfl

theorem load_append {t : Template} {vs : List Value} (h : t.gaps = vs.length) (u : Template)
    (ws : List Value) : load (t ++ u) (vs ++ ws) = load t vs ++ load u ws := by
  induction t generalizing vs with
  | nil =>
    obtain rfl := List.length_eq_zero_iff.mp h.symm
    rfl
  | cons p t ih => cases p with
    | text s => simp [ih h]
    | gap => cases vs with
      | nil => simp [gaps] at h
      | cons v vs => simp [ih (Nat.succ.inj h)]

theorem values_chars_append (s : String) (ss : List Letter) :
    Letter.values (Letter.chars s ++ ss) = Letter.values ss := by
  rw [Letter.chars]
  induction s.toList with
  | nil => rfl
  | cons c cs ih => exact ih

theorem marked_chars_append (mark : Nat → String) (k : Nat) (s : String) (ss : List Letter) :
    Letter.marked mark k (Letter.chars s ++ ss) = s.toList ++ Letter.marked mark k ss := by
  rw [Letter.chars]
  induction s.toList with
  | nil => rfl
  | cons c cs ih => exact congrArg (c :: ·) ih

theorem values_load {t : Template} {vs : List Value} (h : t.gaps = vs.length) :
    Letter.values (load t vs) = vs := by
  induction t generalizing vs with
  | nil => exact (List.length_eq_zero_iff.mp h.symm).symm
  | cons p t ih => cases p with
    | text s => rw [load_text, values_chars_append, ih h]
    | gap => cases vs with
      | nil => simp [gaps] at h
      | cons v vs => rw [load_gap, Letter.values, ih (Nat.succ.inj h)]

theorem marked_load (mark : Nat → String) (k : Nat) {t : Template} {vs : List Value}
    (h : t.gaps = vs.length) : Letter.marked mark k (load t vs) = (fill mark k t).toList := by
  induction t generalizing k vs with
  | nil => simp [load, fill, Letter.marked]
  | cons p t ih => cases p with
    | text s => rw [load_text, marked_chars_append, fill, String.toList_append, ih k h]
    | gap => cases vs with
      | nil => simp [gaps] at h
      | cons v vs =>
        rw [load_gap, Letter.marked, fill, String.toList_append, ih (k + 1) (Nat.succ.inj h)]

theorem load_eq_of_statement_eq {d : Dialect} {m : Char} (hd : d.MarksWith m) {t u : Template}
    {vs ws : List Value} (ht : .char m ∉ t.load vs) (hu : .char m ∉ u.load ws)
    (htvs : t.gaps = vs.length) (huws : u.gaps = ws.length)
    (h : statement d t vs = statement d u ws) : t.load vs = u.load ws := by
  obtain ⟨hsql, hargs⟩ := Statement.mk.inj h
  apply Letter.eq_of_marked hd ht hu
  · rw [values_load htvs, values_load huws, hargs]
  · rw [marked_load _ _ htvs, marked_load _ _ huws, hsql]

end Template

end UnitOfWork
