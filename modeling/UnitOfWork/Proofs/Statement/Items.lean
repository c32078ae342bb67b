import Mathlib.Data.List.Basic
import UnitOfWork.Proofs.Statement.Letters
import UnitOfWork.Proofs.Text.Digits

/-!
Reading items back. Main statement: items with a separator between them can be told from what
follows them, where each item can and nothing that follows looks like a further one.
-/
namespace UnitOfWork

namespace Text

def isPlainChar (c : Char) : Bool := c.isAlphanum || c == '_'

def isPlainName (name : String) : Bool :=
  name.toList.all isPlainChar && name.toList.head?.any fun c => !c.isDigit

def PlainNames (names : List String) : Prop := ∀ name ∈ names, isPlainName name = true

instance (names : List String) : Decidable (PlainNames names) :=
  inferInstanceAs (Decidable (∀ name ∈ names, isPlainName name = true))

theorem isPlainChar_of_mem {name : String} (h : isPlainName name = true) {c : Char}
    (hc : c ∈ name.toList) : isPlainChar c = true := by
  rw [isPlainName, Bool.and_eq_true, List.all_eq_true] at h
  exact h.1 c hc

theorem head_of_isPlainName {name : String} (h : isPlainName name = true) :
    ∃ c cs, name.toList = c :: cs ∧ isPlainChar c = true ∧ c.isDigit = false := by
  have hchar {c : Char} (hc : c ∈ name.toList) := isPlainChar_of_mem h hc
  rw [isPlainName, Bool.and_eq_true] at h
  cases hname : name.toList with
  | nil => simp [hname] at h
  | cons c cs => exact ⟨c, cs, rfl, hchar (by simp [hname]), by simpa [hname] using h.2⟩

end Text

namespace Letter

open Text

def isPlain : Letter → Bool
  | char c => isPlainChar c
  | value _ => true

def Ends (r : List Letter) : Prop := ∀ x ∈ r.head?, x.isPlain = false

/-- What is written of an item tells something about it, and where the item ends. -/
def Tells {α β : Type} (write : α → List Letter) (fit : α → Prop) (what : α → β) : Prop :=
  ∀ ⦃a b r s⦄, fit a → fit b → Ends r → Ends s → write a ++ r = write b ++ s →
    what a = what b ∧ r = s

theorem ends_chars {s : String} (hs : s.toList.head?.any (fun c => !isPlainChar c) = true)
    (r : List Letter) : Ends (chars s ++ r) := by
  intro x hx
  cases hcs : s.toList with
  | nil => simp [hcs] at hs
  | cons c cs =>
    obtain rfl : char c = x := by simpa [chars, hcs] using hx
    simpa [isPlain, hcs] using hs

theorem chars_injective {s t : String} (h : chars s = chars t) : s = t :=
  String.toList_inj.mp (List.map_injective_iff.mpr (fun _ _ => Letter.char.inj) h)

theorem tells_name : Tells chars (fun name => isPlainName name = true) id := by
  intro a b r s ha hb hr hs h
  have hplain {name : String} (hname : isPlainName name = true) :
      ∀ x ∈ chars name, x.isPlain = true := by
    intro x hx
    obtain ⟨c, hc, rfl⟩ := List.mem_map.mp hx
    exact isPlainChar_of_mem hname hc
  obtain ⟨hab, hrs⟩ := run_unique (hplain ha) (hplain hb) hr hs h
  exact ⟨chars_injective hab, hrs⟩

theorem not_ends_name {name : String} (hname : isPlainName name = true) (r : List Letter) :
    ¬Ends (chars name ++ r) := by
  obtain ⟨c, cs, hcs, hc, -⟩ := head_of_isPlainName hname
  intro h
  have hend := h (char c) (by simp [chars, hcs])
  rw [isPlain, hc] at hend
  cases hend

theorem tells_value : Tells (fun v => [value v]) (fun _ => True) id := by
  intro v w r s _ _ _ _ h
  simpa using h

def joined {α : Type} (write : α → List Letter) (sep : String) : String → List α → List Letter
  | _, [] => []
  | opening, a :: as => chars opening ++ (write a ++ joined write sep sep as)

def enumerated {α : Type} (write : α → List Letter) : List α → List Letter := joined write ", " ""

structure Follows {α : Type} (write : α → List Letter) (fit : α → Prop) (sep opening : String)
    (r : List Letter) : Prop where
  ends : Ends r
  apart : ∀ t, chars sep ++ t ≠ r
  closed : ∀ a t, fit a → chars opening ++ (write a ++ t) ≠ r

section joined

variable {α β : Type} {write : α → List Letter} {fit : α → Prop} {what : α → β}
  {sep opening : String} {r s : List Letter}

theorem Follows.further (h : Follows write fit sep opening r) : Follows write fit sep sep r :=
  ⟨h.ends, h.apart, fun _ _ _ => h.apart _⟩

theorem Ends.joined (hr : Ends r) (hopening : ∀ t, Ends (chars opening ++ t)) (as : List α) :
    Ends (joined write sep opening as ++ r) := by
  cases as with
  | nil => exact hr
  | cons a as =>
    rw [Letter.joined, List.append_assoc]
    exact hopening _

theorem Tells.joined (h : Tells write fit what) (hsep : ∀ t, Ends (chars sep ++ t))
    (hr : Follows write fit sep opening r) (hs : Follows write fit sep opening s) {as bs : List α}
    (has : ∀ a ∈ as, fit a) (hbs : ∀ b ∈ bs, fit b)
    (heq : joined write sep opening as ++ r = joined write sep opening bs ++ s) :
    as.map what = bs.map what ∧ r = s := by
  -- behind the first item the separator is the opening of the rest
  induction as generalizing opening bs with
  | nil => cases bs with
    | nil => exact ⟨rfl, heq⟩
    | cons b bs =>
      simp only [Letter.joined, List.nil_append, List.append_assoc] at heq
      exact absurd heq.symm (hr.closed b _ (hbs b List.mem_cons_self))
  | cons a as ih => cases bs with
    | nil =>
      simp only [Letter.joined, List.nil_append, List.append_assoc] at heq
      exact absurd heq (hs.closed a _ (has a List.mem_cons_self))
    | cons b bs =>
      rw [List.forall_mem_cons] at has hbs
      simp only [Letter.joined, List.append_assoc] at heq
      obtain ⟨hab, hrest⟩ := h has.1 hbs.1 (hr.ends.joined hsep as) (hs.ends.joined hsep bs)
        (List.append_cancel_left heq)
      obtain ⟨hasbs, hrs⟩ := ih hr.further hs.further has.2 hbs.2 hrest
      exact ⟨by rw [List.map_cons, List.map_cons, hab, hasbs], hrs⟩

theorem Tells.enumerated (h : Tells write fit what) (hitem : ∀ a, fit a → ∀ t, ¬Ends (write a ++ t))
    {as bs : List α} (has : ∀ a ∈ as, fit a) (hbs : ∀ b ∈ bs, fit b) (hr : Ends r) (hs : Ends s)
    (hrcomma : ∀ t, chars ", " ++ t ≠ r) (hscomma : ∀ t, chars ", " ++ t ≠ s)
    (heq : Letter.enumerated write as ++ r = Letter.enumerated write bs ++ s) :
    as.map what = bs.map what ∧ r = s := by
  have hclosed {r : List Letter} (hr : Ends r) (a : α) (t : List Letter) (ha : fit a) :
      chars "" ++ (write a ++ t) ≠ r := by
    rintro rfl
    exact hitem a ha t hr
  exact h.joined (ends_chars (by decide)) ⟨hr, hrcomma, hclosed hr⟩ ⟨hs, hscomma, hclosed hs⟩
    has hbs heq

end joined

theorem names_told {names names' : List String} {r s : List Letter} (hnames : PlainNames names)
    (hnames' : PlainNames names') (hr : Ends r) (hs : Ends s)
    (hrcomma : ∀ t, chars ", " ++ t ≠ r) (hscomma : ∀ t, chars ", " ++ t ≠ s)
    (h : enumerated chars names ++ r = enumerated chars names' ++ s) :
    names = names' ∧ r = s := by
  simpa using tells_name.enumerated (fun _ => not_ends_name) hnames hnames' hr hs hrcomma hscomma h

theorem values_told {vs ws : List Value} {r s : List Letter}
    (h : enumerated (fun v => [value v]) vs ++ (chars ")" ++ r) =
      enumerated (fun v => [value v]) ws ++ (chars ")" ++ s)) : vs = ws ∧ r = s := by
  have hvalue (v : Value) (_ : True) (t : List Letter) : ¬Ends ([value v] ++ t) := by
    simp [Ends, isPlain]
  obtain ⟨hvs, hrest⟩ := tells_value.enumerated hvalue (fun _ _ => trivial) (fun _ _ => trivial)
    (ends_chars (by decide) r) (ends_chars (by decide) s) (by simp [chars]) (by simp [chars]) h
  exact ⟨by simpa using hvs, List.append_cancel_left hrest⟩

def isMark : Letter → Bool
  | char c => c == '?' || c == '$'
  | value _ => false

def Unmarked (ss : List Letter) : Prop := ∀ x ∈ ss, x.isMark = false

@[simp] theorem unmarked_append {ss ts : List Letter} :
    Unmarked (ss ++ ts) ↔ Unmarked ss ∧ Unmarked ts := List.forall_mem_append

theorem unmarked_chars {s : String} (hs : s.toList.all (fun c => !(char c).isMark) = true) :
    Unmarked (chars s) := by
  simpa [Unmarked, chars] using hs

theorem unmarked_name {name : String} (hname : isPlainName name = true) :
    Unmarked (chars name) := by
  intro x hx
  obtain ⟨c, hc, rfl⟩ := List.mem_map.mp hx
  have hplain := isPlainChar_of_mem hname hc
  rw [isMark, Bool.or_eq_false_iff]
  constructor <;> rw [beq_eq_false_iff_ne] <;> rintro rfl <;> cases hplain

theorem unmarked_value (v : Value) : Unmarked [value v] := by simp [Unmarked, isMark]

theorem unmarked_joined {α : Type} {write : α → List Letter} {sep opening : String}
    (hsep : Unmarked (chars sep)) (hopening : Unmarked (chars opening)) {as : List α}
    (h : ∀ a ∈ as, Unmarked (write a)) : Unmarked (joined write sep opening as) := by
  induction as generalizing opening with
  | nil => simp [joined, Unmarked]
  | cons a as ih =>
    rw [List.forall_mem_cons] at h
    simp only [joined, unmarked_append]
    exact ⟨hopening, h.1, ih hsep h.2⟩

theorem unmarked_enumerated {α : Type} {write : α → List Letter} {as : List α}
    (h : ∀ a ∈ as, Unmarked (write a)) : Unmarked (enumerated write as) :=
  unmarked_joined (unmarked_chars (by decide)) (unmarked_chars (by decide)) h

theorem unmarked_names {names : List String} (h : PlainNames names) :
    Unmarked (enumerated chars names) :=
  unmarked_enumerated fun name hname => unmarked_name (h name hname)

end Letter

end UnitOfWork
