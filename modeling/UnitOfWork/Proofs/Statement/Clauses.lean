import UnitOfWork.Proofs.Statement.Items

namespace UnitOfWork

open Draft (Writes)
open Text Letter

namespace Template

theorem load_append_of_text {t : Template} (h : t.gaps = 0) (u : Template) (vs : List Value) :
    load (t ++ u) vs = load t [] ++ load u vs := by
  have hgaps : t.gaps = ([] : List Value).length := h
  exact load_append hgaps u vs

theorem load_append_text {t : Template} {vs : List Value} (h : t.gaps = vs.length)
    (u : Template) : load (t ++ u) vs = load t vs ++ load u [] := by
  have hload := load_append h u []
  rwa [List.append_nil] at hload

theorem load_commas {α : Type} (template : α → Template) (values : α → List Value)
    (h : ∀ a, (template a).gaps = (values a).length) (as : List α) :
    load (commas (as.map template)) (as.flatMap values) =
      enumerated (fun a => load (template a) (values a)) as := by
  induction as with
  | nil => rfl
  | cons a as ih => cases as with
    | nil => simp [commas, enumerated, joined, chars]
    | cons b bs =>
      have hrest : load (commas ((b :: bs).map template)) ((b :: bs).flatMap values) =
        load (template b) (values b) ++
          joined (fun a => load (template a) (values a)) ", " ", " bs := ih
      rw [List.flatMap_cons, List.map_cons, List.map_cons, commas, load_append (h a), load_text,
        ← List.map_cons, hrest]
      rfl

theorem load_commas_text {α : Type} (template : α → Template) (h : ∀ a, (template a).gaps = 0)
    (as : List α) :
    load (commas (as.map template)) [] = enumerated (fun a => load (template a) []) as := by
  have hload := load_commas template (fun _ => []) h as
  rwa [List.flatMap_eq_nil_iff.mpr fun _ _ => rfl] at hload

theorem load_gaps (vs : List Value) :
    load (commas (vs.map fun _ => [.gap])) vs = enumerated (fun v => [.value v]) vs := by
  have hload := load_commas (fun _ => [.gap]) (fun v => [v]) (fun _ => rfl) vs
  rwa [List.flatMap_singleton'] at hload

end Template

namespace SortKey

def letters (k : SortKey) : List Letter :=
  chars k.column ++ chars (if k.ascending then " asc" else " desc")

def Plain (k : SortKey) : Prop := isPlainName k.column = true

theorem load_template (k : SortKey) : k.template.load [] = k.letters := by
  simp [template, letters]

theorem tells : Tells letters Plain id := by
  intro k l r s hk hl hr hs h
  have hends (ascending : Bool) (r : List Letter) :
      Ends (chars (if ascending then " asc" else " desc") ++ r) := by
    cases ascending <;> exact ends_chars (by decide) r
  simp only [letters, List.append_assoc] at h
  obtain ⟨hcolumn, horder⟩ := tells_name hk hl (hends _ r) (hends _ s) h
  obtain ⟨column, ascending⟩ := k
  obtain ⟨column', ascending'⟩ := l
  cases ascending <;> cases ascending' <;> simp_all [chars]

theorem unmarked {k : SortKey} (hk : k.Plain) : Unmarked k.letters := by
  rw [letters, unmarked_append]
  refine ⟨unmarked_name hk, ?_⟩
  cases k.ascending <;> exact unmarked_chars (by decide)

end SortKey

theorem Comparison.sign_told {c c' : Comparison} {r s : List Letter}
    (h : chars c.sign ++ (chars " " ++ r) = chars c'.sign ++ (chars " " ++ s)) :
    c = c' ∧ r = s := by
  have hsolid : ∀ c : Comparison, ∀ x ∈ chars c.sign, (x != char ' ') = true := by
    intro c
    cases c <;> decide
  have hsign : ∀ c c' : Comparison, c.sign = c'.sign → c = c' := by
    intro c c'
    cases c <;> cases c' <;> decide
  -- some signs begin with others, but none of them has a blank in it
  obtain ⟨heq, hrest⟩ := run_unique (hsolid c) (hsolid c') (by simp [chars]) (by simp [chars]) h
  exact ⟨hsign c c' (chars_injective heq), List.append_cancel_left hrest⟩

namespace Predicate

def behind : Predicate → List Letter
  | compare _ comparison v => chars " " ++ (chars comparison.sign ++ (chars " " ++ [.value v]))
  | null _ negated => chars (if negated then " is not null" else " is null")
  | among _ vs => chars " in (" ++ (enumerated (fun v => [.value v]) vs ++ chars ")")

def letters : Predicate → List Letter
  | among _ [] => chars "1 = 0"
  | p => chars p.column ++ p.behind

def shown : Predicate → Predicate
  | among _ [] => among "" []
  | p => p

def Plain (p : Predicate) : Prop := isPlainName p.column = true

theorem load_template (p : Predicate) : p.template.load p.values = p.letters := by
  cases p with
  | compare column comparison v => simp [template, values, letters, behind, Predicate.column]
  | null column negated => simp [template, values, letters, behind, Predicate.column]
  | among column vs => cases vs with
    | nil => simp [template, values, letters]
    | cons v vs =>
      have hgaps := Writes.commas Writes.bind (v :: vs)
      rw [List.flatMap_singleton'] at hgaps
      simp only [template, values, List.cons_append, List.nil_append, Template.load_text,
        Template.load_append_text hgaps.gaps, Template.load_gaps]
      simp [letters, behind, Predicate.column]

theorem ends_behind (p : Predicate) (r : List Letter) : Ends (p.behind ++ r) := by
  cases p with
  | compare column comparison v =>
    rw [behind, List.append_assoc]
    exact ends_chars (by decide) _
  | null column negated => cases negated <;> exact ends_chars (by decide) r
  | among column vs =>
    rw [behind, List.append_assoc]
    exact ends_chars (by decide) _

theorem behind_told {p q : Predicate} {r s : List Letter} (hcolumn : p.column = q.column)
    (h : p.behind ++ r = q.behind ++ s) : p = q ∧ r = s := by
  -- predicates of two kinds, or of two signs, part within the first few characters
  cases p with
  | compare column comparison v => cases q with
    | compare column' comparison' v' =>
      simp only [behind, List.append_assoc] at h
      obtain ⟨hcomparison, hvalue⟩ := Comparison.sign_told (List.append_cancel_left h)
      simp only [List.cons_append, List.nil_append, List.cons.injEq, Letter.value.injEq] at hvalue
      cases hcolumn
      exact ⟨by rw [hcomparison, hvalue.1], hvalue.2⟩
    | null column' negated =>
      cases comparison <;> cases negated <;> simp [behind, chars, Comparison.sign] at h
    | among column' vs => cases comparison <;> simp [behind, chars, Comparison.sign] at h
  | null column negated => cases q with
    | compare column' comparison v =>
      cases comparison <;> cases negated <;> simp [behind, chars, Comparison.sign] at h
    | null column' negated' =>
      cases hcolumn
      cases negated <;> cases negated' <;> simp_all [behind, chars]
    | among column' vs => cases negated <;> simp [behind, chars] at h
  | among column vs => cases q with
    | compare column' comparison v =>
      cases comparison <;> simp [behind, chars, Comparison.sign] at h
    | null column' negated => cases negated <;> simp [behind, chars] at h
    | among column' vs' =>
      simp only [behind, List.append_assoc] at h
      obtain ⟨hvs, hrest⟩ := values_told (List.append_cancel_left h)
      cases hcolumn
      exact ⟨by rw [hvs], hrest⟩

theorem letters_cases (p : Predicate) :
    (p.letters = chars "1 = 0" ∧ p.shown = among "" []) ∨
      (p.letters = chars p.column ++ p.behind ∧ p.shown = p) := by
  cases p with
  | compare column comparison v => exact .inr ⟨rfl, rfl⟩
  | null column negated => exact .inr ⟨rfl, rfl⟩
  | among column vs => cases vs with
    | nil => exact .inl ⟨rfl, rfl⟩
    | cons v vs => exact .inr ⟨rfl, rfl⟩

theorem void_ne {name : String} (hname : isPlainName name = true) (r s : List Letter) :
    chars "1 = 0" ++ r ≠ chars name ++ s := by
  obtain ⟨c, cs, hcs, -, hdigit⟩ := head_of_isPlainName hname
  intro h
  have hc : c = '1' := by simpa [chars, hcs, eq_comm] using congrArg List.head? h
  rw [hc] at hdigit
  cases hdigit

theorem tells : Tells letters Plain shown := by
  intro p q r s hp hq hr hs h
  obtain ⟨hpletters, hpshown⟩ | ⟨hpletters, hpshown⟩ := p.letters_cases <;>
    obtain ⟨hqletters, hqshown⟩ | ⟨hqletters, hqshown⟩ := q.letters_cases <;>
    simp only [hpletters, hqletters, List.append_assoc] at h <;> rw [hpshown, hqshown]
  -- no name starts with a digit, as the condition without a column does
  · exact ⟨rfl, List.append_cancel_left h⟩
  · exact absurd h (void_ne hq _ _)
  · exact absurd h.symm (void_ne hp _ _)
  · obtain ⟨hcolumn, hbehind⟩ := tells_name hp hq (p.ends_behind r) (q.ends_behind s) h
    exact behind_told hcolumn hbehind

theorem unmarked {p : Predicate} (hp : p.Plain) : Unmarked p.letters := by
  obtain ⟨hletters, -⟩ | ⟨hletters, -⟩ := p.letters_cases <;> rw [hletters]
  · exact unmarked_chars (by decide)
  · rw [unmarked_append]
    refine ⟨unmarked_name hp, ?_⟩
    cases p with
    | compare column comparison v =>
      have hblank : Unmarked (chars " ") := unmarked_chars (by decide)
      have hsign : Unmarked (chars comparison.sign) := by
        cases comparison <;> exact unmarked_chars (by decide)
      simp [behind, hblank, hsign, unmarked_value]
    | null column negated => cases negated <;> exact unmarked_chars (by decide)
    | among column vs =>
      simp only [behind, unmarked_append]
      exact ⟨unmarked_chars (by decide), unmarked_enumerated fun v _ => unmarked_value v,
        unmarked_chars (by decide)⟩

def bracketed (p : Predicate) : List Letter := p.letters ++ chars ")"

theorem tells_bracketed : Tells bracketed Plain shown := by
  intro p q r s hp hq hr hs h
  simp only [bracketed, List.append_assoc] at h
  obtain ⟨hpq, hrest⟩ := tells hp hq (ends_chars (by decide) r) (ends_chars (by decide) s) h
  exact ⟨hpq, List.append_cancel_left hrest⟩

end Predicate

namespace Clause

def chosen (cs : List Clause) : List Letter :=
  joined Predicate.bracketed " and (" " where (" (cs.filterMap predicate?)

def ordered (cs : List Clause) : List Letter :=
  joined SortKey.letters ", " " order by " (cs.flatMap sortKeys)

theorem load_choice (cs : List Clause) :
    Template.load (Template.choice cs) (bound cs) = chosen cs := by
  have hconditions (joint : String) (ps : List Predicate) :
      Template.load (Template.conditions joint ps) (ps.flatMap Predicate.values) =
        joined Predicate.bracketed " and (" joint ps := by
    induction ps generalizing joint with
    | nil => rfl
    | cons p ps ih =>
      rw [Template.conditions, Template.load_text, List.flatMap_cons,
        Template.load_append p.writes.gaps, Template.load_text, ih, p.load_template, joined,
        Predicate.bracketed, List.append_assoc]
  rw [Template.choice, bound_eq, hconditions, chosen]

theorem load_order (cs : List Clause) : Template.load (Template.order cs) [] = ordered cs := by
  rw [Template.order, ordered]
  cases cs.flatMap sortKeys with
  | nil => rfl
  | cons k ks =>
    have hkeys : (fun k => Template.load k.template []) = SortKey.letters :=
      funext SortKey.load_template
    rw [Template.sorted, Template.load_text,
      Template.load_commas_text SortKey.template fun k => k.writes.gaps, hkeys]
    rfl

def Plain (cs : List Clause) : Prop := ∀ c ∈ cs, PlainNames c.columns

instance (cs : List Clause) : Decidable (Plain cs) :=
  inferInstanceAs (Decidable (∀ c ∈ cs, PlainNames c.columns))

def shown (cs : List Clause) : List Predicate := (cs.filterMap predicate?).map Predicate.shown

variable {cs ds : List Clause} {r s : List Letter}

theorem unmarked_chosen (h : Plain cs) : Unmarked (chosen cs) := by
  apply unmarked_joined (unmarked_chars (by decide)) (unmarked_chars (by decide))
  intro p hp
  rw [Predicate.bracketed, unmarked_append]
  exact ⟨Predicate.unmarked (forall_predicate h p hp), unmarked_chars (by decide)⟩

theorem unmarked_ordered (h : Plain cs) : Unmarked (ordered cs) :=
  unmarked_joined (unmarked_chars (by decide)) (unmarked_chars (by decide)) fun k hk =>
    SortKey.unmarked (forall_key h k hk)

def Closes : List Letter → Prop := Follows Predicate.bracketed Predicate.Plain " and (" " where ("

theorem closes_nil : Closes [] := by
  constructor <;> simp [Ends, chars]

theorem closes_ordered (cs : List Clause) : Closes (ordered cs) := by
  rw [ordered]
  cases cs.flatMap sortKeys with
  | nil => exact closes_nil
  | cons k ks =>
    constructor
    case ends => exact ends_chars (by decide) _
    case apart => simp [joined, chars]
    case closed => simp [joined, chars]

theorem Closes.ends_chosen (hr : Closes r) (cs : List Clause) : Ends (chosen cs ++ r) :=
  hr.ends.joined (ends_chars (by decide)) _

theorem ends_chosen (cs : List Clause) : Ends (chosen cs) := by
  simpa using closes_nil.ends_chosen cs

theorem comma_ne_chosen (cs : List Clause) (t : List Letter) : chars ", " ++ t ≠ chosen cs := by
  rw [chosen]
  cases cs.filterMap predicate? <;> simp [joined, chars]

theorem chosen_told (hcs : Plain cs) (hds : Plain ds) (hr : Closes r) (hs : Closes s)
    (h : chosen cs ++ r = chosen ds ++ s) : shown cs = shown ds ∧ r = s :=
  Predicate.tells_bracketed.joined (ends_chars (by decide)) hr hs (forall_predicate hcs)
    (forall_predicate hds) h

theorem chosen_unique (hcs : Plain cs) (hds : Plain ds) (h : chosen cs = chosen ds) :
    shown cs = shown ds := by
  rw [← List.append_nil (chosen cs), ← List.append_nil (chosen ds)] at h
  exact (chosen_told hcs hds closes_nil closes_nil h).1

theorem ordered_unique (hcs : Plain cs) (hds : Plain ds) (h : ordered cs = ordered ds) :
    cs.flatMap sortKeys = ds.flatMap sortKeys := by
  have hnil : Follows SortKey.letters SortKey.Plain ", " " order by " [] := by
    constructor <;> simp [Ends, chars]
  rw [← List.append_nil (ordered cs), ← List.append_nil (ordered ds)] at h
  have hkeys := SortKey.tells.joined (ends_chars (by decide)) hnil hnil (forall_key hcs)
    (forall_key hds) h
  simpa using hkeys.1

end Clause

end UnitOfWork
