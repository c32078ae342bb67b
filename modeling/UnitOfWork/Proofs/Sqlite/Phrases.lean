import Mathlib.Data.List.Forall2
import UnitOfWork.Proofs.Sqlite.Choice
import UnitOfWork.Proofs.Sqlite.Tokens

namespace UnitOfWork.Sqlite

namespace Grammar

variable {l : Lexeme} {ls : List Lexeme}

theorem lower_not_reserved {name : String} (h : isBareName name = true) :
    reserved.contains (lower name) = false := by
  have hreserved := (Bool.and_eq_true_iff.mp h).2
  simpa using hreserved

theorem term_column {name : String} (hl : l.token = .word name) (hname : isBareName name = true) :
    term (l :: ls) = .ok (.column name l.offset, ls) := by
  have hfree := lower_not_reserved hname
  have hnull : lower name ≠ "null" := by
    intro h
    rw [h] at hfree
    exact absurd hfree (by decide)
  simp only [term, hl, if_neg hnull, hfree, Bool.false_eq_true, if_false]

theorem term_parameter {n : Nat} (hl : l.token = .parameter n) :
    term (l :: ls) = .ok (.parameter n, ls) := by
  simp only [term, hl]

theorem term_number {c : Cell} (hl : l.token = .number c) :
    term (l :: ls) = .ok (.literal c, ls) := by
  simp only [term, hl]

theorem name_bare {n : String} (hl : l.token = .word n) (hn : isBareName n = true) :
    name (l :: ls) = .ok ((n, l.offset), ls) := by
  simp only [name, hl, lower_not_reserved hn, Bool.false_eq_true, if_false]

theorem keyword_word {w : String} (hl : l.token = .word w) : keyword? l = some (lower w) := by
  simp only [keyword?, hl]

theorem word_word {k : String} (hl : l.token = .word k) (hk : lower k = k) :
    word k (l :: ls) = .ok ((), ls) := by
  simp only [word, keyword_word hl, hk, if_true]

theorem sign_sign {s : String} (hl : l.token = .sign s) : sign s (l :: ls) = .ok ((), ls) := by
  simp only [sign, hl, if_true]

theorem atWord_word {k : String} (hl : l.token = .word k) (hk : lower k = k) :
    atWord k (l :: ls) = true := by
  simp only [atWord, keyword_word hl, hk, decide_true]

theorem atWord_of_ne {w k : String} (hl : l.token = .word w) (hw : lower w ≠ k) :
    atWord k (l :: ls) = false := by
  simp only [atWord, keyword_word hl, Option.some.injEq, hw, decide_false]

theorem comparison?_word {w : String} (hl : l.token = .word w) : comparison? (l :: ls) = none := by
  simp only [comparison?, hl]

def startsWord (k : String) : List Token → Bool
  | .word w :: _ => lower w = k
  | _ => false

def startsSign (s : String) : List Token → Bool
  | t :: _ => t = .sign s
  | [] => false

theorem atWord_eq (k : String) (ls : List Lexeme) :
    atWord k ls = startsWord k (ls.map Lexeme.token) := by
  cases ls with
  | nil => rfl
  | cons l ls =>
    obtain ⟨t, text, offset⟩ := l
    cases t <;> simp [atWord, startsWord, keyword?]

theorem atSign_eq (s : String) (ls : List Lexeme) :
    atSign s ls = startsSign s (ls.map Lexeme.token) := by
  cases ls with
  | nil => rfl
  | cons l ls => rfl

/-- The reader takes these tokens in front of tokens of which `N` holds, and what it makes of them
has the property `P`. -/
def Takes {α : Type} (r : Reader α) (ts : List Token) (P : α → Prop) (N : List Token → Prop) :
    Prop :=
  ∀ ls us, ls.map Lexeme.token = ts ++ us → N us →
    ∃ a rest, r ls = .ok (a, rest) ∧ rest.map Lexeme.token = us ∧ P a

abbrev Anything (_ : List Token) : Prop := True

theorem takes_parameter (n : Nat) : Takes term [.parameter n] (· = .parameter n) Anything := by
  rintro ls us hls -
  obtain ⟨l, rest, rfl, hl, hrest⟩ := List.map_eq_cons_iff.mp hls
  exact ⟨_, rest, term_parameter hl, hrest, rfl⟩

theorem length_separated_le {tss : List (List Token)} (h : ∀ ts ∈ tss, ts ≠ []) :
    tss.length ≤ (separated tss).length := by
  induction tss with
  | nil => exact Nat.le_refl 0
  | cons ts tss ih =>
    have hts := List.length_pos_iff.mpr (h ts List.mem_cons_self)
    cases tss with
    | nil => exact hts
    | cons us tss =>
      have hrest := ih fun vs hvs => h vs (List.mem_cons_of_mem ts hvs)
      simp only [List.length_cons, separated, List.length_append] at hrest ⊢
      omega

section lists

variable {α β : Type} {item : Reader β} {tokens : α → List Token} {P : α → β → Prop}
  {N : List Token → Prop}

theorem takes_listOf (hcomma : ∀ us, N (.sign "," :: us)) {as : List α} (hne : as ≠ [])
    (hitem : ∀ a ∈ as, Takes item (tokens a) (P a) N) {fuel : Nat} (hfuel : as.length ≤ fuel) :
    Takes (listOf item fuel) (separated (as.map tokens)) (List.Forall₂ P as)
      fun us => N us ∧ startsSign "," us = false := by
  induction as generalizing fuel with
  | nil => exact absurd rfl hne
  | cons a as ih =>
    intro ls us hls hus
    obtain ⟨fuel, rfl⟩ := Nat.exists_eq_succ_of_ne_zero (Nat.ne_zero_of_lt hfuel)
    have hitems := fun b hb => hitem b (List.mem_cons_of_mem a hb)
    cases as with
    | nil =>
      obtain ⟨b, rest, hread, hrest, hb⟩ := hitem a List.mem_cons_self ls us hls hus.1
      have hstop : atSign "," rest = false := by rw [atSign_eq, hrest, hus.2]
      refine ⟨[b], rest, ?_, hrest, .cons hb .nil⟩
      simp only [listOf, hread, hstop, Bool.false_eq_true, if_false]
    | cons a' as =>
      have hsplit : ls.map Lexeme.token =
          tokens a ++ .sign "," :: (separated ((a' :: as).map tokens) ++ us) := by
        rw [hls]
        simp [separated]
      obtain ⟨b, rest, hread, hrest, hb⟩ := hitem a List.mem_cons_self ls _ hsplit (hcomma _)
      have hgo : atSign "," rest = true := by
        rw [atSign_eq, hrest]
        simp [startsSign]
      have hdrop : (rest.drop 1).map Lexeme.token = separated ((a' :: as).map tokens) ++ us := by
        rw [List.map_drop, hrest]
        rfl
      obtain ⟨bs, rest', hread', hrest', hbs⟩ := ih (by simp) hitems
        (Nat.le_of_succ_le_succ hfuel) (rest.drop 1) us hdrop hus
      refine ⟨b :: bs, rest', ?_, hrest', .cons hb hbs⟩
      simp only [listOf, hread, hgo, if_true, hread']

theorem takes_list (hcomma : ∀ us, N (.sign "," :: us)) {as : List α} (hne : as ≠ [])
    (htokens : ∀ a ∈ as, tokens a ≠ []) (hitem : ∀ a ∈ as, Takes item (tokens a) (P a) N) :
    Takes (list item) (separated (as.map tokens)) (List.Forall₂ P as)
      fun us => N us ∧ startsSign "," us = false := by
  intro ls us hls hus
  have hlength := length_separated_le (List.forall_mem_map.mpr htokens)
  have hfuel : as.length ≤ ls.length := by
    rw [← List.length_map Lexeme.token, hls, List.length_append]
    rw [List.length_map] at hlength
    omega
  exact takes_listOf hcomma hne hitem hfuel ls us hls hus

theorem mapM_of_forall₂ {γ ε : Type} {f : β → Except ε γ} {g : α → γ} {as : List α} {bs : List β}
    (h : List.Forall₂ (fun a b => f b = .ok (g a)) as bs) : bs.mapM f = .ok (as.map g) := by
  induction h with
  | nil => rfl
  | cons hb _ ih =>
    rw [List.mapM_cons, hb, ih]
    rfl

end lists

end Grammar

def Table.Has (t : Table) (column : String) : Prop :=
  isBareName column = true ∧ t.position? column ≠ none

theorem Table.Has.operand {t : Table} {column : String} (h : t.Has column) (sql : String)
    (offset : Nat) :
    Plan.operand sql (some t) (.column column offset) = .ok (t.operand column) := by
  cases hposition : t.position? column with
  | none => exact absurd hposition h.2
  | some i => simp only [Plan.operand, Table.operand, hposition]

namespace Grammar

open Template (spread map_spread)

variable {l : Lexeme} {ls : List Lexeme} {t : Table} (sql : String)

def LooksUp (t : Table) (c : Condition Operand) (read : Condition Term) : Prop :=
  read.mapM (Plan.operand sql (some t)) = .ok c

theorem takes_parentheses {α : Type} {r : Reader α} {ts : List Token} {P : α → Prop}
    (h : Takes r ts P Anything) :
    Takes (inParentheses r) (.sign "(" :: (ts ++ [.sign ")"])) P Anything := by
  rintro ls us hls -
  obtain ⟨l, ls, rfl, hl, hls⟩ := List.map_eq_cons_iff.mp hls
  rw [List.append_eq, List.append_assoc] at hls
  obtain ⟨a, rest, hread, hrest, ha⟩ := h ls _ hls trivial
  obtain ⟨l', rest, rfl, hl', hrest⟩ := List.map_eq_cons_iff.mp hrest
  refine ⟨a, rest, ?_, hrest, ha⟩
  simp only [inParentheses, sign_sign hl, hread, sign_sign hl', bind, Except.bind, pure,
    Except.pure]

theorem takes_parameters (t : Table) (k : Nat) {vs : List Value} (hne : vs ≠ []) :
    Takes (list term) (separated (spread 1 parameterToken k vs))
      (fun read => read.mapM (Plan.operand sql (some t)) = .ok (spread 1 parameterAt k vs))
      fun us => startsSign "," us = false := by
  have hnumbers : spread 1 (fun k (_ : Value) => k) k vs ≠ [] := by
    cases vs with
    | nil => exact absurd rfl hne
    | cons v vs => exact List.cons_ne_nil _ _
  have hlist := takes_list (fun _ => trivial) hnumbers (fun n _ => List.cons_ne_nil _ _)
    fun n _ => takes_parameter n
  rw [map_spread] at hlist
  intro ls us hls hus
  obtain ⟨read, rest, hread, hrest, hall⟩ := hlist ls us hls ⟨trivial, hus⟩
  refine ⟨read, rest, hread, hrest, ?_⟩
  have hlooked := mapM_of_forall₂ (f := Plan.operand sql (some t)) (g := Operand.parameter)
    (hall.imp fun n b hb => by rw [hb]; rfl)
  rw [map_spread] at hlooked
  exact hlooked

section predicates

variable {column : String} (hcolumn : t.Has column) (k : Nat)
include hcolumn

theorem takes_compare (c : Comparison) (v : Value) :
    Takes bareCondition (predicateTokens k (.compare column c v))
      (LooksUp sql t (Predicate.condition t k (.compare column c v))) Anything := by
  rintro ls us hls -
  obtain ⟨l₁, ls, rfl, h₁, hls⟩ := List.map_eq_cons_iff.mp hls
  obtain ⟨l₂, ls, rfl, h₂, hls⟩ := List.map_eq_cons_iff.mp hls
  obtain ⟨l₃, ls, rfl, h₃, hls⟩ := List.map_eq_cons_iff.mp hls
  have hc : comparisonOf? c.sign = some c := by cases c <;> rfl
  refine ⟨.compare c (.column column l₁.offset) (.parameter k), ls, ?_, hls, ?_⟩
  · simp only [bareCondition, term_column h₁ hcolumn.1, question, comparison?, h₂, hc,
      Option.map_some, term_parameter h₃, bind, Except.bind, pure, Except.pure]
  · simp only [LooksUp, Condition.mapM, hcolumn.operand]
    rfl

theorem takes_null :
    Takes bareCondition (predicateTokens k (.null column false))
      (LooksUp sql t (Predicate.condition t k (.null column false))) Anything := by
  rintro ls us hls -
  obtain ⟨l₁, ls, rfl, h₁, hls⟩ := List.map_eq_cons_iff.mp hls
  obtain ⟨l₂, ls, rfl, h₂, hls⟩ := List.map_eq_cons_iff.mp hls
  obtain ⟨l₃, ls, rfl, h₃, hls⟩ := List.map_eq_cons_iff.mp hls
  have hnot : lower "null" ≠ "not" := by decide
  refine ⟨.null (.column column l₁.offset) false, ls, ?_, hls, ?_⟩
  · simp only [bareCondition, term_column h₁ hcolumn.1, question, comparison?_word h₂,
      atWord_word h₂ rfl, atWord_of_ne h₃ hnot, word_word h₃ rfl, List.drop_succ_cons,
      List.drop_zero, Bool.false_eq_true, if_true, if_false, bind, Except.bind, pure, Except.pure]
  · simp only [LooksUp, Condition.mapM, hcolumn.operand]
    rfl

theorem takes_not_null :
    Takes bareCondition (predicateTokens k (.null column true))
      (LooksUp sql t (Predicate.condition t k (.null column true))) Anything := by
  rintro ls us hls -
  obtain ⟨l₁, ls, rfl, h₁, hls⟩ := List.map_eq_cons_iff.mp hls
  obtain ⟨l₂, ls, rfl, h₂, hls⟩ := List.map_eq_cons_iff.mp hls
  obtain ⟨l₃, ls, rfl, h₃, hls⟩ := List.map_eq_cons_iff.mp hls
  obtain ⟨l₄, ls, rfl, h₄, hls⟩ := List.map_eq_cons_iff.mp hls
  refine ⟨.null (.column column l₁.offset) true, ls, ?_, hls, ?_⟩
  · simp only [bareCondition, term_column h₁ hcolumn.1, question, comparison?_word h₂,
      atWord_word h₂ rfl, atWord_word h₃ rfl, word_word h₄ rfl, List.drop_succ_cons,
      List.drop_zero, if_true, bind, Except.bind, pure, Except.pure]
  · simp only [LooksUp, Condition.mapM, hcolumn.operand]
    rfl

omit hcolumn in
theorem takes_never :
    Takes bareCondition (predicateTokens k (.among column []))
      (LooksUp sql t (Predicate.condition t k (.among column []))) Anything := by
  rintro ls us hls -
  obtain ⟨l₁, ls, rfl, h₁, hls⟩ := List.map_eq_cons_iff.mp hls
  obtain ⟨l₂, ls, rfl, h₂, hls⟩ := List.map_eq_cons_iff.mp hls
  obtain ⟨l₃, ls, rfl, h₃, hls⟩ := List.map_eq_cons_iff.mp hls
  have hc : comparisonOf? "=" = some .eq := rfl
  refine ⟨.compare .eq (.literal (.integer 1)) (.literal (.integer 0)), ls, ?_, hls, rfl⟩
  simp only [bareCondition, term_number h₁, question, comparison?, h₂, hc, Option.map_some,
    term_number h₃, bind, Except.bind, pure, Except.pure]

theorem takes_among (v : Value) (vs : List Value) :
    Takes bareCondition (predicateTokens k (.among column (v :: vs)))
      (LooksUp sql t (Predicate.condition t k (.among column (v :: vs)))) Anything := by
  rintro ls us hls -
  obtain ⟨l₁, ls, rfl, h₁, hls⟩ := List.map_eq_cons_iff.mp hls
  obtain ⟨l₂, ls, rfl, h₂, hls⟩ := List.map_eq_cons_iff.mp hls
  obtain ⟨l₃, ls, rfl, h₃, hls⟩ := List.map_eq_cons_iff.mp hls
  have hnot : lower "in" ≠ "is" := by decide
  have hfirst : atSign ")" ls = false := by
    rw [atSign_eq, hls]
    cases vs <;> rfl
  have hsplit : ls.map Lexeme.token =
      separated (spread 1 parameterToken k (v :: vs)) ++ .sign ")" :: us := by
    rw [hls, List.append_eq, List.append_assoc]
    rfl
  have hlist := takes_parameters sql t k (List.cons_ne_nil v vs)
  obtain ⟨read, rest, hread, hrest, hlooked⟩ := hlist ls _ hsplit rfl
  obtain ⟨l₄, rest, rfl, h₄, hrest⟩ := List.map_eq_cons_iff.mp hrest
  refine ⟨.among (.column column l₁.offset) read, rest, ?_, hrest, ?_⟩
  · simp only [bareCondition, term_column h₁ hcolumn.1, question, comparison?_word h₂,
      atWord_of_ne h₂ hnot, atWord_word h₂ rfl, sign_sign h₃, hfirst, hread, sign_sign h₄,
      List.drop_succ_cons, List.drop_zero, Bool.false_eq_true, if_true, if_false, bind,
      Except.bind, pure, Except.pure]
  · simp only [LooksUp, Condition.mapM, hcolumn.operand, hlooked]
    rfl

end predicates

theorem takes_bare {p : Predicate} (hp : t.Has p.column) (k : Nat) :
    Takes bareCondition (predicateTokens k p) (LooksUp sql t (p.condition t k)) Anything := by
  cases p with
  | compare column c v => exact takes_compare sql hp k c v
  | null column negated =>
    cases negated with
    | false => exact takes_null sql hp k
    | true => exact takes_not_null sql hp k
  | among column vs =>
    cases vs with
    | nil => exact takes_never sql k
    | cons v vs => exact takes_among sql hp k v vs

theorem takes_condition {p : Predicate} (hp : t.Has p.column) (k : Nat) :
    Takes condition (.sign "(" :: (predicateTokens k p ++ [.sign ")"]))
      (LooksUp sql t (p.condition t k)) Anything := by
  intro ls us hls hus
  obtain ⟨c, rest, hread, hrest, hc⟩ := takes_parentheses (takes_bare sql hp k) ls us hls hus
  have hopen : atSign "(" ls = true := by
    rw [atSign_eq, hls]
    rfl
  exact ⟨c, rest, by rw [condition, if_pos hopen, hread], hrest, hc⟩

theorem takes_conditionsOf (w : String) {p : Predicate} {ps : List Predicate}
    (hps : ∀ q ∈ p :: ps, t.Has q.column) (k : Nat) {fuel : Nat} (hfuel : ps.length < fuel) :
    Takes (conditionsOf fuel) (conditionTokens w k (p :: ps)).tail
      (fun read => Plan.conditions sql (some t) read = .ok (conditionsAt t k (p :: ps)))
      fun us => startsWord "and" us = false := by
  induction ps generalizing w p k fuel with
  | nil =>
    intro ls us hls hus
    obtain ⟨fuel, rfl⟩ := Nat.exists_eq_succ_of_ne_zero (Nat.ne_zero_of_lt hfuel)
    obtain ⟨c, rest, hread, hrest, hc⟩ :=
      takes_condition sql (hps p List.mem_cons_self) k ls us hls trivial
    have hstop : atWord "and" rest = false := by rw [atWord_eq, hrest, hus]
    refine ⟨[c], rest, ?_, hrest, ?_⟩
    · simp only [conditionsOf, hread, hstop, Bool.false_eq_true, if_false]
    · exact mapM_of_forall₂ (g := id) (.cons hc .nil)
  | cons q ps ih =>
    intro ls us hls hus
    obtain ⟨fuel, rfl⟩ := Nat.exists_eq_succ_of_ne_zero (Nat.ne_zero_of_lt hfuel)
    have hsplit : ls.map Lexeme.token = .sign "(" :: (predicateTokens k p ++ [.sign ")"]) ++
        (conditionTokens "and" (k + p.values.length) (q :: ps) ++ us) := by
      rw [hls]
      simp [conditionTokens]
    obtain ⟨c, rest, hread, hrest, hc⟩ :=
      takes_condition sql (hps p List.mem_cons_self) k ls _ hsplit trivial
    have hgo : atWord "and" rest = true := by
      rw [atWord_eq, hrest]
      rfl
    have hdrop : (rest.drop 1).map Lexeme.token =
        (conditionTokens "and" (k + p.values.length) (q :: ps)).tail ++ us := by
      rw [List.map_drop, hrest]
      rfl
    obtain ⟨cs, rest', hread', hrest', hcs⟩ := ih "and"
      (fun r hr => hps r (List.mem_cons_of_mem p hr)) (k + p.values.length)
      (Nat.lt_of_succ_lt_succ hfuel) (rest.drop 1) us hdrop hus
    refine ⟨c :: cs, rest', ?_, hrest', ?_⟩
    · simp only [conditionsOf, hread, hgo, if_true, hread']
    · have hmapped : cs.mapM (Condition.mapM (Plan.operand sql (some t))) =
          .ok (conditionsAt t (k + p.values.length) (q :: ps)) := hcs
      change (c :: cs).mapM (Condition.mapM (Plan.operand sql (some t))) = _
      rw [List.mapM_cons, hc, hmapped]
      rfl

theorem length_le_conditionTokens (w : String) (k : Nat) (ps : List Predicate) :
    ps.length ≤ (conditionTokens w k ps).length := by
  induction ps generalizing w k with
  | nil => exact Nat.le_refl 0
  | cons p ps ih =>
    have hrest := ih "and" (k + p.values.length)
    simp only [conditionTokens, List.length_cons, List.length_append]
    omega

theorem takes_whereConditions {ps : List Predicate} (hps : ∀ p ∈ ps, t.Has p.column) (k : Nat) :
    Takes whereConditions (conditionTokens "where" k ps)
      (fun read => Plan.conditions sql (some t) read = .ok (conditionsAt t k ps))
      fun us => startsWord "and" us = false ∧ startsWord "where" us = false := by
  intro ls us hls hus
  cases ps with
  | nil =>
    have hnone : atWord "where" ls = false := by
      rw [atWord_eq, hls]
      exact hus.2
    exact ⟨[], ls, by simp only [whereConditions, hnone, Bool.false_eq_true, if_false], hls, rfl⟩
  | cons p ps =>
    have hopen : atWord "where" ls = true := by
      rw [atWord_eq, hls]
      rfl
    have hdrop : (ls.drop 1).map Lexeme.token =
        (conditionTokens "where" k (p :: ps)).tail ++ us := by
      rw [List.map_drop, hls]
      rfl
    have hfuel : ps.length < ls.length := by
      have hlength := length_le_conditionTokens "where" k (p :: ps)
      rw [← List.length_map Lexeme.token, hls, List.length_append]
      simp only [List.length_cons] at hlength
      omega
    obtain ⟨cs, rest, hread, hrest, hcs⟩ :=
      takes_conditionsOf sql "where" hps k hfuel (ls.drop 1) us hdrop hus.1
    exact ⟨cs, rest, by simp only [whereConditions, hopen, if_true, hread], hrest, hcs⟩

def IsKey (t : Table) (key : SortKey) (read : OrderKey Term) : Prop :=
  t.Has key.column ∧ ∃ offset, read = ⟨.column key.column offset, key.ascending⟩

theorem takes_orderKey {key : SortKey} (hkey : t.Has key.column) :
    Takes orderKey (keyTokens key) (IsKey t key) Anything := by
  rintro ls us hls -
  obtain ⟨column, ascending⟩ := key
  obtain ⟨l₁, ls, rfl, h₁, hls⟩ := List.map_eq_cons_iff.mp hls
  obtain ⟨l₂, ls, rfl, h₂, hls⟩ := List.map_eq_cons_iff.mp hls
  refine ⟨⟨.column column l₁.offset, ascending⟩, ls, ?_, hls, hkey, l₁.offset, rfl⟩
  cases ascending with
  | false =>
    have hword : l₂.token = .word "desc" := h₂
    simp only [orderKey, term_column h₁ hkey.1, atWord_word hword rfl, if_true, bind, Except.bind,
      pure, Except.pure, List.drop_succ_cons, List.drop_zero]
  | true =>
    have hword : l₂.token = .word "asc" := h₂
    have hnot : lower "asc" ≠ "desc" := by decide
    simp only [orderKey, term_column h₁ hkey.1, atWord_of_ne hword hnot, atWord_word hword rfl,
      Bool.false_eq_true, if_false, if_true, bind, Except.bind, pure, Except.pure,
      List.drop_succ_cons, List.drop_zero]

theorem takes_orderKeys {keys : List SortKey} (hkeys : ∀ key ∈ keys, t.Has key.column) :
    Takes orderKeys (orderTokens keys) (List.Forall₂ (IsKey t) keys)
      fun us => startsWord "order" us = false ∧ startsSign "," us = false := by
  intro ls us hls hus
  cases keys with
  | nil =>
    have hnone : atWord "order" ls = false := by
      rw [atWord_eq, hls]
      exact hus.1
    exact ⟨[], ls, by simp only [orderKeys, hnone, Bool.false_eq_true, if_false], hls, .nil⟩
  | cons key keys =>
    obtain ⟨l₁, ls, rfl, h₁, hls⟩ := List.map_eq_cons_iff.mp hls
    obtain ⟨l₂, ls, rfl, h₂, hls⟩ := List.map_eq_cons_iff.mp hls
    have hlist := takes_list (N := Anything) (fun _ => trivial) (List.cons_ne_nil key keys)
      (fun _ _ => List.cons_ne_nil _ _) fun key hkey => takes_orderKey (hkeys key hkey)
    obtain ⟨read, rest, hread, hrest, hall⟩ := hlist ls us hls ⟨trivial, hus.2⟩
    refine ⟨read, rest, ?_, hrest, hall⟩
    simp only [orderKeys, atWord_word h₁ rfl, List.drop_succ_cons, List.drop_zero, if_true,
      word_word h₂ rfl, hread, bind, Except.bind]

def IsShown (t : Table) (name : String) (o : Output) : Prop :=
  t.Has name ∧ ∃ offset, o = .term (.column name offset) none

theorem takes_output {name : String} (hname : t.Has name) :
    Takes output [.word name] (IsShown t name)
      fun us => startsSign "(" us = false ∧ startsWord "as" us = false := by
  intro ls us hls hus
  obtain ⟨l, ls, rfl, hl, hls⟩ := List.map_eq_cons_iff.mp hls
  have hopen : atSign "(" ls = false := by
    rw [atSign_eq, hls]
    exact hus.1
  have has : atWord "as" ls = false := by
    rw [atWord_eq, hls]
    exact hus.2
  have hstar : atSign "*" (l :: ls) = false := by simp [atSign, hl]
  refine ⟨.term (.column name l.offset) none, ls, ?_, hls, hname, l.offset, rfl⟩
  simp only [output, hstar, isCount, isCast, hopen, Bool.and_false, term_column hl hname.1, has,
    Bool.false_eq_true, if_false, bind, Except.bind, pure, Except.pure]

end Grammar

end UnitOfWork.Sqlite
