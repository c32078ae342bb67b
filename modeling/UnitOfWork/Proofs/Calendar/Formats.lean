import Mathlib.Data.List.DropRight
import UnitOfWork.Proofs.Calendar.RoundTrip
import UnitOfWork.Row.Getters

namespace UnitOfWork.Timestamp

open Text

inductive Format where
  | spaced
  | lettered
  | zoned
deriving DecidableEq

def Format.read : Format → List Char → Option Timestamp
  | spaced => Style.spaced.read
  | lettered => Style.lettered.read
  | zoned => readZoned

def readDate (s : List Char) : Option ((Int × Nat × Nat) × List Char) := do
  let (year, s) ← readYear s
  let s ← readChar '-' s
  let (month, s) ← readNumber 2 s
  let s ← readChar '-' s
  let (day, s) ← readNumber 2 s
  some ((year, month, day), s)

def readClock (s : List Char) : Option ((Nat × Nat × Nat × Nat) × List Char) := do
  let (hour, s) ← readNumber 2 s
  let s ← readChar ':' s
  let (minute, s) ← readNumber 2 s
  let s ← readChar ':' s
  let (second, s) ← readNumber 2 s
  let (nano, s) ← readFraction s
  some ((hour, minute, second, nano), s)

theorem readNumber_dropBlanks (limit : Nat) (s : List Char) :
    readNumber limit (dropBlanks s) = readNumber limit s := by
  rw [readNumber, readNumber, dropBlanks, dropBlanks, List.dropWhile_idempotent]

theorem readClock_dropBlanks (s : List Char) : readClock (dropBlanks s) = readClock s := by
  rw [readClock, readClock, readNumber_dropBlanks]

theorem exists_of_tight {style : Style} (htight : style.loose = false) {s : List Char}
    {t : Timestamp} (h : style.read s = some t) :
    ∃ d r r' c, readDate s = some (d, r) ∧ style.readSeparator r = some r' ∧
      readClock r' = some (c, []) := by
  have hslack : ∀ s, style.slack s = s := fun s => by simp [Style.slack, htight]
  have hmark : ∀ c s, style.readMark c s = readChar c s := fun c s => by
    rw [Style.readMark, hslack]
  rw [Style.read] at h
  obtain ⟨⟨year, s₁⟩, hyear, h⟩ := Option.bind_eq_some_iff.mp h
  obtain ⟨s₂, hdash, h⟩ := Option.bind_eq_some_iff.mp h
  obtain ⟨⟨month, s₃⟩, hmonth, h⟩ := Option.bind_eq_some_iff.mp h
  obtain ⟨s₄, hdash', h⟩ := Option.bind_eq_some_iff.mp h
  obtain ⟨⟨day, r⟩, hday, h⟩ := Option.bind_eq_some_iff.mp h
  obtain ⟨r', hsep, h⟩ := Option.bind_eq_some_iff.mp h
  obtain ⟨⟨hour, s₅⟩, hhour, h⟩ := Option.bind_eq_some_iff.mp h
  obtain ⟨s₆, hcolon, h⟩ := Option.bind_eq_some_iff.mp h
  obtain ⟨⟨minute, s₇⟩, hminute, h⟩ := Option.bind_eq_some_iff.mp h
  obtain ⟨s₈, hcolon', h⟩ := Option.bind_eq_some_iff.mp h
  obtain ⟨⟨second, s₉⟩, hsecond, h⟩ := Option.bind_eq_some_iff.mp h
  obtain ⟨⟨nano, s₁₀⟩, hnano, h⟩ := Option.bind_eq_some_iff.mp h
  rw [hmark] at hdash hdash' hcolon hcolon'
  simp only [hslack] at h
  split at h
  · refine ⟨(year, month, day), r, r', (hour, minute, second, nano), ?_, hsep, ?_⟩
    · simp only [readDate, hyear, hdash, hmonth, hdash', hday, Option.bind_eq_bind,
        Option.bind_some]
    · simp only [readClock, hhour, hcolon, hminute, hcolon', hsecond, hnano, Option.bind_eq_bind,
        Option.bind_some]
  · cases h

theorem exists_of_spaced {s : List Char} {t : Timestamp} (h : Style.spaced.read s = some t) :
    ∃ d r c, readDate s = some (d, r) ∧ readClock r = some (c, []) := by
  obtain ⟨d, r, r', c, hdate, hsep, hclock⟩ := exists_of_tight rfl h
  have hblanks : dropBlanks r = r' := Option.some.inj hsep
  rw [← hblanks, readClock_dropBlanks] at hclock
  exact ⟨d, r, c, hdate, hclock⟩

theorem exists_of_lettered {s : List Char} {t : Timestamp} (h : Style.lettered.read s = some t) :
    ∃ d r c, readDate s = some (d, 'T' :: r) ∧ readClock r = some (c, []) := by
  obtain ⟨d, r, r', c, hdate, hsep, hclock⟩ := exists_of_tight rfl h
  have hletter : r = 'T' :: r' := eq_cons_of_readChar hsep
  exact ⟨d, r', c, hletter ▸ hdate, hclock⟩

structure IsNumber (w : List Char) : Prop where
  ne_nil : w ≠ []
  all : ∀ c ∈ w, isBlank c = true ∨ c.isDigit = true
  last : ∀ c ∈ w.getLast?, c.isDigit = true

theorem IsNumber.ne_colon {w : List Char} (h : IsNumber w) : ∀ c ∈ w, c ≠ ':' := by
  rintro c hc rfl
  have hall := h.all ':' hc
  revert hall
  decide

theorem exists_of_readNumber {limit n : Nat} {s r : List Char}
    (h : readNumber limit s = some (n, r)) : ∃ w, s = w ++ r ∧ IsNumber w := by
  obtain ⟨ds, hds, hne, hdigits⟩ := exists_of_readDigits h
  refine ⟨s.takeWhile isBlank ++ ds, ?_, ?_, ?_, ?_⟩
  · rw [List.append_assoc, ← hds]
    exact List.takeWhile_append_dropWhile.symm
  · exact List.append_ne_nil_of_right_ne_nil _ hne
  · intro c hc
    obtain hc | hc := List.mem_append.mp hc
    · exact .inl (List.mem_takeWhile_imp hc)
    · exact .inr (hdigits c hc)
  · intro c hc
    rw [List.getLast?_append_of_ne_nil _ hne] at hc
    exact hdigits c (List.mem_of_getLast? hc)

theorem suffix_of_readYear {year : Int} {s r : List Char} (h : readYear s = some (year, r)) :
    r <:+ s := by
  have hdrop : dropBlanks s <:+ s := List.dropWhile_suffix _
  unfold readYear at h
  split at h
  all_goals
    rename_i hs
    obtain ⟨⟨n, r'⟩, hdigits, heq⟩ := Option.map_eq_some_iff.mp h
    cases heq
    have hrest := suffix_of_readDigits hdigits
  · exact (hrest.trans (List.suffix_cons _ _)).trans (hs ▸ hdrop)
  · exact (hrest.trans (List.suffix_cons _ _)).trans (hs ▸ hdrop)
  · exact hrest.trans hdrop

theorem suffix_of_readNumber {limit n : Nat} {s r : List Char}
    (h : readNumber limit s = some (n, r)) : r <:+ s := by
  obtain ⟨w, rfl, -⟩ := exists_of_readNumber h
  exact List.suffix_append w r

theorem suffix_of_readChar {c : Char} {s r : List Char} (h : readChar c s = some r) : r <:+ s := by
  rw [eq_cons_of_readChar h]
  exact List.suffix_cons c r

theorem suffix_of_readFixed {count n : Nat} {s r : List Char}
    (h : readFixed count s = some (n, r)) : r <:+ s := by
  simp only [readFixed] at h
  split at h
  · cases h
    exact List.drop_suffix count s
  · cases h

theorem exists_of_readFraction {nano : Nat} {s r : List Char}
    (h : readFraction s = some (nano, r)) :
    s = r ∨ ∃ ds, s = '.' :: ds ++ r ∧ ds ≠ [] ∧ ∀ c ∈ ds, c.isDigit = true := by
  unfold readFraction at h
  split at h
  · rename_i s
    split at h
    · cases h
    · rename_i hne
      cases h
      have hrun : s.takeWhile Char.isDigit <+: s := List.takeWhile_prefix _
      refine .inr ⟨s.takeWhile Char.isDigit, ?_, hne, fun c hc => List.mem_takeWhile_imp hc⟩
      rw [List.cons_append, List.prefix_iff_eq_append.mp hrun]
  · cases h
    exact .inl rfl

theorem suffix_of_readFraction {nano : Nat} {s r : List Char}
    (h : readFraction s = some (nano, r)) : r <:+ s := by
  obtain rfl | ⟨ds, rfl, -⟩ := exists_of_readFraction h
  · exact List.suffix_rfl
  · exact List.suffix_append _ r

theorem suffix_of_readDate {d : Int × Nat × Nat} {s r : List Char}
    (h : readDate s = some (d, r)) : r <:+ s := by
  simp only [readDate, Option.bind_eq_bind, Option.bind_eq_some_iff, Prod.exists] at h
  obtain ⟨year, s₁, hyear, s₂, hdash, month, s₃, hmonth, s₄, hdash', day, s₅, hday, h⟩ := h
  cases h
  exact (suffix_of_readNumber hday).trans <| (suffix_of_readChar hdash').trans <|
    (suffix_of_readNumber hmonth).trans <| (suffix_of_readChar hdash).trans
      (suffix_of_readYear hyear)

inductive Zone : List Char → Prop where
  | greenwich (c : Char) (h : c = 'Z' ∨ c = 'z') : Zone [c]
  | offset (sign a b c d : Char) (hsign : sign = '+' ∨ sign = '-' ∨ sign = minusSign)
      (hdigits : ∀ x ∈ [a, b, c, d], x.isDigit = true) : Zone [sign, a, b, ':', c, d]

theorem two_of_readFixed {n : Nat} {s r : List Char} (h : readFixed 2 s = some (n, r)) :
    ∃ a b, s = a :: b :: r ∧ a.isDigit = true ∧ b.isDigit = true := by
  simp only [readFixed] at h
  split at h
  · rename_i hds
    cases h
    obtain ⟨a, b, hab⟩ := List.length_eq_two.mp hds.1
    have hdigits := List.all_eq_true.mp hds.2
    rw [hab] at hdigits
    refine ⟨a, b, ?_, hdigits a (by simp), hdigits b (by simp)⟩
    conv_lhs => rw [← List.take_append_drop 2 s, hab]
    rfl
  · cases h

theorem zone_of_readZone {east : Int} {s : List Char} (h : readZone s = some (east, [])) :
    Zone s := by
  unfold readZone at h
  split at h
  · cases h
  · rename_i c s
    split at h
    · rename_i hc
      cases h
      exact .greenwich c hc
    · split at h
      · rename_i hsign
        simp only [Option.bind_eq_bind, Option.bind_eq_some_iff, Prod.exists] at h
        obtain ⟨hours, s₁, hhours, s₂, hcolon, minutes, s₃, hminutes, h⟩ := h
        split at h
        · cases h
          obtain ⟨a, b, rfl, ha, hb⟩ := two_of_readFixed hhours
          obtain rfl := eq_cons_of_readChar hcolon
          obtain ⟨a', b', rfl, ha', hb'⟩ := two_of_readFixed hminutes
          exact .offset c a b a' b' hsign (by simp [ha, hb, ha', hb'])
        · cases h
      · cases h

theorem exists_of_zoned {s : List Char} {t : Timestamp} (h : readZoned s = some t) :
    ∃ zone, zone <:+ s ∧ Zone zone := by
  rw [readZoned] at h
  obtain ⟨⟨year, s₁⟩, hyear, h⟩ := Option.bind_eq_some_iff.mp h
  obtain ⟨s₂, hdash, h⟩ := Option.bind_eq_some_iff.mp h
  obtain ⟨⟨month, s₃⟩, hmonth, h⟩ := Option.bind_eq_some_iff.mp h
  obtain ⟨s₄, hdash', h⟩ := Option.bind_eq_some_iff.mp h
  obtain ⟨⟨day, s₅⟩, hday, h⟩ := Option.bind_eq_some_iff.mp h
  have hdate : s₅ <:+ s := (suffix_of_readFixed hday).trans <|
    (suffix_of_readChar hdash').trans <| (suffix_of_readFixed hmonth).trans <|
      (suffix_of_readChar hdash).trans (suffix_of_readFixed hyear)
  dsimp only at h
  split at h
  · rename_i c r
    split at h
    · rw [Option.bind_eq_bind, Option.bind_some] at h
      obtain ⟨⟨hour, s₆⟩, hhour, h⟩ := Option.bind_eq_some_iff.mp h
      obtain ⟨s₇, hcolon, h⟩ := Option.bind_eq_some_iff.mp h
      obtain ⟨⟨minute, s₈⟩, hminute, h⟩ := Option.bind_eq_some_iff.mp h
      obtain ⟨s₉, hcolon', h⟩ := Option.bind_eq_some_iff.mp h
      obtain ⟨⟨second, s₁₀⟩, hsecond, h⟩ := Option.bind_eq_some_iff.mp h
      obtain ⟨⟨nano, zone⟩, hnano, h⟩ := Option.bind_eq_some_iff.mp h
      obtain ⟨⟨east, s₁₁⟩, hzone, h⟩ := Option.bind_eq_some_iff.mp h
      have hclock : zone <:+ r := (suffix_of_readFraction hnano).trans <|
        (suffix_of_readFixed hsecond).trans <| (suffix_of_readChar hcolon').trans <|
          (suffix_of_readFixed hminute).trans <| (suffix_of_readChar hcolon).trans
            (suffix_of_readFixed hhour)
      dsimp only at h
      split at h
      · exact ⟨zone, (hclock.trans (List.suffix_cons c r)).trans hdate, zone_of_readZone hzone⟩
      · cases h
    · cases h
  · cases h

structure EndsInTime (s minute rest : List Char) : Prop where
  suffix : ':' :: (minute ++ ':' :: rest) <:+ s
  minute : IsNumber minute
  colon : ∀ c ∈ rest, c ≠ ':'
  ne_nil : rest ≠ []
  last : ∀ c ∈ rest.getLast?, c.isDigit = true

theorem endsInTime_of_readClock {c : Nat × Nat × Nat × Nat} {s : List Char}
    (h : readClock s = some (c, [])) : ∃ minute rest, EndsInTime s minute rest := by
  simp only [readClock, Option.bind_eq_bind, Option.bind_eq_some_iff, Prod.exists] at h
  obtain ⟨hour, s₁, hhour, s₂, hcolon, minute, s₃, hminute, s₄, hcolon', second, s₅, hsecond, nano,
    s₆, hnano, h⟩ := h
  cases h
  obtain rfl := eq_cons_of_readChar hcolon
  obtain ⟨m, rfl, hm⟩ := exists_of_readNumber hminute
  obtain rfl := eq_cons_of_readChar hcolon'
  obtain ⟨w, rfl, hw⟩ := exists_of_readNumber hsecond
  refine ⟨m, w ++ s₅, suffix_of_readNumber hhour, hm, ?_, ?_, ?_⟩
  · intro c hc
    obtain hc | hc := List.mem_append.mp hc
    · exact hw.ne_colon c hc
    · obtain rfl | ⟨ds, rfl, -, hdigits⟩ := exists_of_readFraction hnano
      · cases hc
      · rw [List.append_nil, List.mem_cons] at hc
        obtain rfl | hc := hc
        · decide
        · rintro rfl
          cases hdigits ':' hc
  · exact List.append_ne_nil_of_left_ne_nil hw.ne_nil _
  · obtain rfl | ⟨ds, rfl, hne, hdigits⟩ := exists_of_readFraction hnano
    · rw [List.append_nil]
      exact hw.last
    · intro c hc
      rw [List.append_nil, List.getLast?_append_of_ne_nil _ (List.cons_ne_nil _ _),
        List.getLast?_cons_of_ne_nil hne] at hc
      exact hdigits c (List.mem_of_getLast? hc)

theorem not_sign {c : Char} (hsign : c = '+' ∨ c = '-' ∨ c = minusSign) :
    isBlank c = false ∧ c.isDigit = false ∧ c ≠ ':' := by
  obtain rfl | rfl | rfl := hsign <;> decide

/-- The two digits in front of the last colon are all of the minutes, and no sign precedes these. -/
theorem IsNumber.not_after_sign {w front : List Char} (h : IsNumber w) {sign a b : Char}
    (hsign : isBlank sign = false ∧ sign.isDigit = false ∧ sign ≠ ':') (ha : a ≠ ':')
    (tail : List Char) : w.reverse ++ ':' :: front ≠ b :: a :: sign :: tail := by
  have hall : ∀ c ∈ w.reverse, isBlank c = true ∨ c.isDigit = true := by
    intro c hc
    exact h.all c (List.mem_reverse.mp hc)
  have hne : w.reverse ≠ [] := fun hnil => h.ne_nil (List.reverse_eq_nil_iff.mp hnil)
  intro heq
  match hw : w.reverse with
  | [] => exact hne hw
  | [x] =>
    rw [hw] at heq
    cases heq
    exact ha rfl
  | [x, y] =>
    rw [hw] at heq
    cases heq
    exact hsign.2.2 rfl
  | x :: y :: z :: v =>
    rw [hw] at heq hall
    cases heq
    have hz := hall sign (by simp)
    rw [hsign.1, hsign.2.1] at hz
    simp at hz

theorem EndsInTime.not_zone {s minute rest zone : List Char} (h : EndsInTime s minute rest)
    (hsuffix : zone <:+ s) : ¬Zone zone := by
  intro hzone
  obtain ⟨front, hfront⟩ := h.suffix
  obtain ⟨front', hfront'⟩ := hsuffix
  have hends : front' ++ zone = front ++ ':' :: (minute ++ ':' :: rest) := hfront'.trans hfront.symm
  cases hzone with
  | greenwich c hc =>
    have hlast : c ∈ rest.getLast? := by
      have hbefore : front ++ ':' :: (minute ++ ':' :: rest) =
          front ++ ':' :: minute ++ [':'] ++ rest := by simp
      have hlasts := congrArg List.getLast? (hends.trans hbefore)
      rw [List.getLast?_append_of_ne_nil _ h.ne_nil, List.getLast?_concat] at hlasts
      exact hlasts.symm
    obtain rfl | rfl := hc <;> cases h.last _ hlast
  | offset sign a b c d hsign hdigits =>
    have hcolon : ∀ x ∈ [a, b, c, d], x ≠ ':' := by
      rintro x hx rfl
      cases hdigits ':' hx
    -- read from the end, both texts have one last colon, and so have the same in front of it
    have hreverse : [d, c] ++ ':' :: (b :: a :: sign :: front'.reverse) =
        rest.reverse ++ ':' :: (minute.reverse ++ ':' :: front.reverse) := by
      simpa using congrArg List.reverse hends
    obtain ⟨-, htail⟩ := run_unique (p := fun x => decide (x ≠ ':'))
      (by simp [hcolon c (by simp), hcolon d (by simp)]) (by simpa using h.colon) (by simp)
      (by simp) hreverse
    exact h.minute.not_after_sign (not_sign hsign) (hcolon a (by simp)) _
      (List.cons.inj htail).2.symm

theorem head_of_readClock {a : Char} {c : Nat × Nat × Nat × Nat} {s r : List Char}
    (h : readClock (a :: s) = some (c, r)) : isBlank a = true ∨ a.isDigit = true := by
  simp only [readClock, Option.bind_eq_bind, Option.bind_eq_some_iff, Prod.exists] at h
  obtain ⟨hour, s₁, hhour, -⟩ := h
  obtain ⟨w, hw, hnumber⟩ := exists_of_readNumber hhour
  cases w with
  | nil => exact absurd rfl hnumber.ne_nil
  | cons b w =>
    cases hw
    exact hnumber.all a List.mem_cons_self

theorem Format.zoneless {f : Format} (hf : f ≠ .zoned) {s zone : List Char} {t : Timestamp}
    (h : f.read s = some t) (hsuffix : zone <:+ s) : ¬Zone zone := by
  have htime : ∃ r c, r <:+ s ∧ readClock r = some (c, []) := by
    cases f with
    | spaced =>
      obtain ⟨d, r, c, hdate, hclock⟩ := exists_of_spaced h
      exact ⟨r, c, suffix_of_readDate hdate, hclock⟩
    | lettered =>
      obtain ⟨d, r, c, hdate, hclock⟩ := exists_of_lettered h
      exact ⟨r, c, (List.suffix_cons _ r).trans (suffix_of_readDate hdate), hclock⟩
    | zoned => exact absurd rfl hf
  obtain ⟨r, c, hr, hclock⟩ := htime
  obtain ⟨minute, rest, hends⟩ := endsInTime_of_readClock hclock
  exact EndsInTime.not_zone { hends with suffix := hends.suffix.trans hr } hsuffix

theorem not_spaced_lettered {s : List Char} {t u : Timestamp}
    (h : Style.spaced.read s = some t) : Style.lettered.read s ≠ some u := by
  intro h'
  obtain ⟨d, r, c, hdate, hclock⟩ := exists_of_spaced h
  obtain ⟨d', r', c', hdate', -⟩ := exists_of_lettered h'
  -- the same date is read of both, so a time would have to begin with the letter
  cases hdate.symm.trans hdate'
  have hletter := head_of_readClock hclock
  revert hletter
  decide

theorem Format.eq_of_read {f g : Format} {s : List Char} {t u : Timestamp}
    (hf : f.read s = some t) (hg : g.read s = some u) : f = g := by
  by_cases hfz : f = .zoned
  · by_cases hgz : g = .zoned
    · rw [hfz, hgz]
    · subst hfz
      obtain ⟨zone, hsuffix, hzone⟩ := exists_of_zoned hf
      exact absurd hzone (zoneless hgz hg hsuffix)
  · by_cases hgz : g = .zoned
    · subst hgz
      obtain ⟨zone, hsuffix, hzone⟩ := exists_of_zoned hg
      exact absurd hzone (zoneless hfz hf hsuffix)
    · cases f <;> cases g
      case spaced.spaced | lettered.lettered => rfl
      case spaced.lettered => exact absurd hg (not_spaced_lettered hf)
      case lettered.spaced => exact absurd hf (not_spaced_lettered hg)
      all_goals contradiction

theorem Format.findSome?_eq_some_iff {order : List Format} (h : ∀ f, f ∈ order) {s : List Char}
    {t : Timestamp} :
    order.findSome? (fun f => f.read s) = some t ↔ ∃ f : Format, f.read s = some t := by
  constructor
  · intro hfirst
    obtain ⟨f, -, hf⟩ := List.exists_of_findSome?_eq_some hfirst
    exact ⟨f, hf⟩
  · rintro ⟨f, hf⟩
    have hsome : (order.findSome? fun f => f.read s).isSome = true :=
      List.findSome?_isSome_iff.mpr ⟨f, h f, by rw [hf]; rfl⟩
    obtain ⟨u, hu⟩ := Option.isSome_iff_exists.mp hsome
    obtain ⟨g, -, hg⟩ := List.exists_of_findSome?_eq_some hu
    obtain rfl := Format.eq_of_read hf hg
    rw [hu, ← hg, hf]

structure Unambiguous (s : String) : Prop where
  atMostOne : ∀ (f g : Format) t u, f.read s.toList = some t → g.read s.toList = some u → f = g
  anyOrder : ∀ order : List Format, (∀ f, f ∈ order) →
    (Value.text s).time? = order.findSome? fun f => f.read s.toList
  inRow : ∀ order : List Format, (∀ f, f ∈ order) → ∀ (r : Row) key, r.get? key = some (.text s) →
    r.time? key = order.findSome? fun f => f.read s.toList
  zoneless : ∀ front zone, s.toList = front ++ zone → Zone zone →
    Format.spaced.read s.toList = none ∧ Format.lettered.read s.toList = none
  zoned : ∀ t, Format.zoned.read s.toList = some t →
    ∃ front zone, s.toList = front ++ zone ∧ Zone zone

theorem ofText?_eq (s : String) :
    ofText? s = [Format.spaced, .lettered, .zoned].findSome? fun f => f.read s.toList := by
  simp only [ofText?, List.findSome?_cons, List.findSome?_nil, Format.read]
  cases Style.spaced.read s.toList <;> cases Style.lettered.read s.toList <;>
    cases readZoned s.toList <;> rfl

theorem ofText?_any_order {order : List Format} (h : ∀ f, f ∈ order) (s : String) :
    ofText? s = order.findSome? fun f => f.read s.toList := by
  apply Option.ext
  intro t
  have hall : ∀ f : Format, f ∈ [Format.spaced, .lettered, .zoned] := by
    intro f
    cases f <;> decide
  rw [ofText?_eq, Format.findSome?_eq_some_iff hall, Format.findSome?_eq_some_iff h]

/-- However a text is spaced and padded, one format at most reads it, and what it reads as does not
hang on the order of the formats. -/
theorem formats_unambiguous (s : String) : Unambiguous s := by
  constructor
  case atMostOne => exact fun f g t u => Format.eq_of_read
  case anyOrder => exact fun order horder => ofText?_any_order horder s
  case inRow =>
    intro order horder r key hkey
    rw [Row.time?, hkey]
    exact ofText?_any_order horder s
  case zoneless =>
    intro front zone hs hzone
    have hsuffix : zone <:+ s.toList := ⟨front, hs.symm⟩
    have hnone : ∀ f : Format, f ≠ .zoned → f.read s.toList = none := by
      intro f hf
      apply Option.eq_none_iff_forall_ne_some.mpr
      intro t ht
      exact Format.zoneless hf ht hsuffix hzone
    exact ⟨hnone .spaced nofun, hnone .lettered nofun⟩
  case zoned =>
    intro t ht
    obtain ⟨zone, ⟨front, hs⟩, hzone⟩ := exists_of_zoned ht
    exact ⟨front, zone, hs.symm, hzone⟩

example : ofText? "2021-03-0405:6:07" = Style.spaced.read "2021-03-04 05:06:07".toList ∧
    Style.lettered.read "2021-03-04T05:06:07".toList = ofText? "2021-03-04 05:06:07" ∧
    readZoned "2021-03-04t06:36:07+01:30".toList = ofText? "2021-03-04 05:06:07" ∧
    (ofText? "2021-03-04 05:06:07").isSome := by decide +kernel

end UnitOfWork.Timestamp
