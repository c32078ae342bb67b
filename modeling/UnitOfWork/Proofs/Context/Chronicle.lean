import UnitOfWork.Proofs.Scene

/-!
What is told of the contexts of a run: how each has been made, which have been cancelled, and with
which each session has been begun. The tokens, deadlines and sessions that contexts hold play no
part in it. Main statement: the line of a context has in it those of all that it comes from.
-/
namespace UnitOfWork

inductive Action (ε : Type) where
  | background
  | operation (o : Operation ε)

def Timeline.apart (tl : Timeline) : Nat × Timeline :=
  (tl.lineages.length, { tl with lineages := tl.lineages ++ [[tl.lineages.length]] })

namespace Scene

variable {δ τ ε : Type} (D : Driver δ τ) (direct : ε → δ → δ)

def enact (s : Scene δ τ) : Action ε → Scene δ τ
  | .background =>
    { s.withTimeline s.world.timeline.apart.2 with
      contexts := s.contexts ++ [{ Context.background with token := s.world.timeline.apart.1 }] }
  | .operation o => step D direct s o

def begun? (s : Scene δ τ) (k c : Nat) : Option Nat :=
  match s.contexts[c]?, s.world.depots[k]? with
  | some x, some depot => (s.world.begin D k depot x).1.toOption.map Prod.fst
  | _, _ => none

end Scene

inductive Making where
  | background
  | copy
  | fork (deadline : Option Nat)
  | begun (session : Nat)

namespace Making

def ofDerivation (now : Nat) : Derivation → Making
  | .cancellation => .fork none
  | .timeout ms => .fork (some (now + ms))
  | .deadline instant => .fork (some instant)
  | .copy => .copy

def ownsToken : Making → Bool
  | background | fork _ => true
  | copy | begun _ => false

def instant? : Making → Option Nat
  | fork deadline => deadline
  | _ => none

def session? : Making → Option Nat
  | begun i => some i
  | _ => none

end Making

structure Origin where
  context : Nat
  making : Making

abbrev Line := List Origin

namespace Line

def owners (line : Line) : List Nat :=
  (line.filter fun o => o.making.ownsToken).map Origin.context

def instants (line : Line) : List Nat := line.filterMap fun o => o.making.instant?

def session? (line : Line) : Option Nat := line.findSome? fun o => o.making.session?

end Line

structure Cancellation where
  context : Nat
  instant : Nat

structure Acquisition where
  session : Nat
  context : Nat

structure Chronicle where
  lines : List Line
  cancellations : List Cancellation
  acquisitions : List Acquisition

namespace Chronicle

def initial : Chronicle := ⟨[[⟨0, .background⟩]], [], []⟩

def add (h : Chronicle) (line : Line) (m : Making) : Chronicle :=
  { h with lines := h.lines ++ [⟨h.lines.length, m⟩ :: line] }

def cancel (h : Chronicle) (c instant : Nat) : Chronicle :=
  { h with cancellations := ⟨c, instant⟩ :: h.cancellations }

def enter (h : Chronicle) (line : Line) (i c : Nat) : Chronicle :=
  match line.session? with
  | some _ => h
  | none => { h with acquisitions := h.acquisitions ++ [⟨i, c⟩] }

def onLine (h : Chronicle) (c : Nat) (f : Line → Chronicle) : Chronicle :=
  match h.lines[c]? with
  | some line => f line
  | none => h

variable {δ τ ε : Type}

def note (D : Driver δ τ) (s : Scene δ τ) (h : Chronicle) : Action ε → Chronicle
  | .background => h.add [] .background
  | .operation (.derive c d) =>
    h.onLine c fun line => h.add line (.ofDerivation s.world.timeline.now d)
  | .operation (.cancel c) => h.onLine c fun _ => h.cancel c s.world.timeline.now
  | .operation (.cancelAfter c ms) => h.onLine c fun _ => h.cancel c (s.world.timeline.now + ms)
  | .operation (.begin k c) => h.onLine c fun line =>
    match s.begun? D k c with
    | some i => (h.enter line i c).add line (.begun i)
    | none => h
  | _ => h

def owner? (h : Chronicle) (c : Nat) : Option Nat := h.lines[c]? >>= fun line => line.owners.head?

def Above (h : Chronicle) (b c : Nat) : Prop :=
  ∃ line, h.lines[c]? = some line ∧ ∃ o ∈ line, o.context = b

def Governs (h : Chronicle) (a c : Nat) : Prop := ∃ b, h.Above b c ∧ h.owner? a = h.owner? b

/-- Something that governs a context is cancelled, or a deadline on its line passes, while one waits
for some milliseconds. A wait that ends in time is not cut short by a cancellation at its end. -/
inductive Stops (h : Chronicle) (now ms c : Nat) : Prop where
  | cancelled (e : Cancellation) (he : e ∈ h.cancellations) (hg : h.Governs e.context c)
      (hi : e.instant ≤ now ∨ e.instant < now + ms) : Stops h now ms c
  | late (line : Line) (instant : Nat) (hline : h.lines[c]? = some line)
      (hd : instant ∈ line.instants) (hi : instant ≤ now + ms) : Stops h now ms c

end Chronicle

namespace Scene

variable {δ τ ε : Type} (D : Driver δ τ) (direct : ε → δ → δ)

def tell (r : Scene δ τ × Chronicle) (a : Action ε) : Scene δ τ × Chronicle :=
  (r.1.enact D direct a, r.2.note D r.1 a)

def told (d : δ) (depots : List Depot) (actions : List (Action ε)) : Scene δ τ × Chronicle :=
  actions.foldl (tell D direct) (initial d depots, .initial)

end Scene

theorem getElem?_snoc_iff {α : Type} {l : List α} {a b : α} {i : Nat} :
    (l ++ [a])[i]? = some b ↔ l[i]? = some b ∨ i = l.length ∧ b = a := by
  by_cases hi : i < l.length
  · rw [List.getElem?_append_left hi]
    have hne : i ≠ l.length := Nat.ne_of_lt hi
    simp [hne]
  · have hnone : l[i]? = none := List.getElem?_eq_none (Nat.le_of_not_lt hi)
    rw [hnone]
    by_cases he : i = l.length
    · simp [he, eq_comm]
    · rw [List.getElem?_eq_none (by simp; omega)]
      simp [he]

namespace Chronicle

theorem enter_lines (h : Chronicle) (line : Line) (i c : Nat) :
    (h.enter line i c).lines = h.lines := by
  unfold enter
  split <;> rfl

theorem enter_cancellations (h : Chronicle) (line : Line) (i c : Nat) :
    (h.enter line i c).cancellations = h.cancellations := by
  unfold enter
  split <;> rfl

theorem enter_acquisitions (h : Chronicle) (line : Line) (i c : Nat) :
    h.acquisitions <+: (h.enter line i c).acquisitions := by
  unfold enter
  split
  · exact List.prefix_rfl
  · exact List.prefix_append _ _

structure Linked (h : Chronicle) : Prop where
  head : ∀ (c : Nat) (line : Line), h.lines[c]? = some line → ∃ m rest, line = ⟨c, m⟩ :: rest
  above : ∀ (c : Nat) (line : Line), h.lines[c]? = some line → ∀ o ∈ line,
    ∃ rest, h.lines[o.context]? = some (o :: rest) ∧ o :: rest <:+ line
  owned : ∀ (c : Nat) (line : Line), h.lines[c]? = some line → line.owners ≠ []

namespace Linked

variable {h : Chronicle}

theorem initial : Chronicle.initial.Linked := by
  have honly (c : Nat) (line : Line) (hline : Chronicle.initial.lines[c]? = some line) :
      c = 0 ∧ line = [⟨0, .background⟩] := by
    simpa using getElem?_snoc_iff (l := []) |>.mp hline
  constructor
  · intro c line hline
    obtain ⟨rfl, rfl⟩ := honly c line hline
    exact ⟨_, _, rfl⟩
  · intro c line hline o ho
    obtain ⟨rfl, rfl⟩ := honly c line hline
    obtain rfl := List.mem_singleton.mp ho
    exact ⟨[], rfl, List.suffix_rfl⟩
  · intro c line hline
    obtain ⟨rfl, rfl⟩ := honly c line hline
    exact List.cons_ne_nil _ _

theorem add (hl : h.Linked) {line : Line} {m : Making}
    (hline : line = [] ∧ m.ownsToken = true ∨ ∃ c : Nat, h.lines[c]? = some line) :
    (h.add line m).Linked := by
  have hself : (h.add line m).lines[h.lines.length]? = some (⟨h.lines.length, m⟩ :: line) :=
    getElem?_snoc_iff.mpr (.inr ⟨rfl, rfl⟩)
  have hold {c : Nat} {line' : Line} (h' : h.lines[c]? = some line') :
      (h.add line m).lines[c]? = some line' := getElem?_snoc_iff.mpr (.inl h')
  constructor
  · intro c line' hline'
    obtain hline' | ⟨rfl, rfl⟩ := getElem?_snoc_iff.mp hline'
    · exact hl.head c line' hline'
    · exact ⟨m, line, rfl⟩
  · intro c line' hline' o ho
    obtain hline' | ⟨rfl, rfl⟩ := getElem?_snoc_iff.mp hline'
    · obtain ⟨rest, hrest, hsuffix⟩ := hl.above c line' hline' o ho
      exact ⟨rest, hold hrest, hsuffix⟩
    · obtain rfl | ho := List.mem_cons.mp ho
      · exact ⟨line, hself, List.suffix_rfl⟩
      · obtain ⟨rfl, -⟩ | ⟨c, hc⟩ := hline
        · cases ho
        · obtain ⟨rest, hrest, hsuffix⟩ := hl.above c line hc o ho
          exact ⟨rest, hold hrest, hsuffix.trans (List.suffix_cons _ _)⟩
  · intro c line' hline'
    obtain hline' | ⟨rfl, rfl⟩ := getElem?_snoc_iff.mp hline'
    · exact hl.owned c line' hline'
    · obtain ⟨rfl, hm⟩ | ⟨c, hc⟩ := hline
      · simp [Line.owners, hm]
      · have howned := hl.owned c line hc
        simp only [Line.owners, List.filter_cons]
        split
        · exact List.cons_ne_nil _ _
        · exact howned

theorem of_lines {h' : Chronicle} (hl : h.Linked) (hlines : h'.lines = h.lines) : h'.Linked := by
  refine ⟨?_, ?_, ?_⟩ <;> rw [hlines]
  · exact hl.head
  · exact hl.above
  · exact hl.owned

theorem above_self (hl : h.Linked) {c : Nat} {line : Line} (hline : h.lines[c]? = some line) :
    h.Above c c := by
  obtain ⟨m, rest, rfl⟩ := hl.head c line hline
  exact ⟨_, hline, _, List.mem_cons_self, rfl⟩

theorem owner?_of_mem (hl : h.Linked) {c n : Nat} {line : Line} (hline : h.lines[c]? = some line)
    (hn : n ∈ line.owners) : h.Above n c ∧ h.owner? n = some n := by
  obtain ⟨o, ho, rfl⟩ := List.mem_map.mp hn
  obtain ⟨ho, howns⟩ := List.mem_filter.mp ho
  obtain ⟨rest, hrest, -⟩ := hl.above c line hline o ho
  refine ⟨⟨line, hline, o, ho, rfl⟩, ?_⟩
  simp [owner?, hrest, Line.owners, howns]

theorem governs_iff (hl : h.Linked) {a c : Nat} {line : Line} (hline : h.lines[c]? = some line) :
    h.Governs a c ↔ ∃ n ∈ line.owners, h.owner? a = some n := by
  constructor
  · rintro ⟨b, ⟨line', hline', o, ho, rfl⟩, howner⟩
    obtain rfl : line = line' := Option.some.inj (hline.symm.trans hline')
    obtain ⟨rest, hrest, hsuffix⟩ := hl.above c line hline o ho
    have hnonempty := hl.owned o.context (o :: rest) hrest
    refine ⟨Line.owners (o :: rest) |>.head hnonempty, ?_, ?_⟩
    · exact ((hsuffix.filter _).map _).subset (List.head_mem hnonempty)
    · rw [howner, owner?, hrest]
      exact List.head?_eq_some_head hnonempty
  · rintro ⟨n, hn, howner⟩
    obtain ⟨habove, hself⟩ := hl.owner?_of_mem hline hn
    exact ⟨n, habove, howner.trans hself.symm⟩

end Linked

end Chronicle

end UnitOfWork
