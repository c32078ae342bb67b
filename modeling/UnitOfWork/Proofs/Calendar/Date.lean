import UnitOfWork.Calendar.Timestamp

namespace UnitOfWork.Calendar

theorem daysBeforeYear_mono {a b : Int} (h : a ≤ b) : daysBeforeYear a ≤ daysBeforeYear b := by
  simp only [daysBeforeYear]
  omega

theorem yearOfDay_unique {n year : Int} (hfrom : daysBeforeYear year ≤ n)
    (hto : n < daysBeforeYear (year + 1)) : yearOfDay n = year := by
  obtain ⟨hlow, hhigh⟩ := yearOfDay_spec n
  have hnot_before : ¬yearOfDay n + 1 ≤ year := by
    intro h
    have hmono := daysBeforeYear_mono h
    omega
  have hnot_after : ¬year + 1 ≤ yearOfDay n := by
    intro h
    have hmono := daysBeforeYear_mono h
    omega
  omega

theorem monthAndDay_sum (lengths : List Nat) (first k day length : Nat)
    (hk : lengths[k]? = some length) (hday : 1 ≤ day) (hlength : day ≤ length) :
    monthAndDay first ((lengths.take k).foldr (· + ·) 0 + day - 1) lengths = (first + k, day) := by
  induction lengths generalizing first k with
  | nil => simp at hk
  | cons l lengths ih =>
    cases k with
    | zero =>
      simp only [List.getElem?_cons_zero, Option.some.injEq] at hk
      rw [monthAndDay, List.take_zero, List.foldr_nil, if_pos (by omega)]
      simp only [Prod.mk.injEq]
      omega
    | succ k =>
      rw [List.getElem?_cons_succ] at hk
      have hrest := ih (first + 1) k hk
      simp only [List.take_succ_cons, List.foldr_cons]
      generalize (lengths.take k).foldr (· + ·) 0 = before at hrest ⊢
      have hnot : ¬l + before + day - 1 < l := by omega
      have hsum : l + before + day - 1 - l = before + day - 1 := by omega
      rw [monthAndDay, if_neg hnot, hsum, hrest, Nat.add_assoc, Nat.add_comm 1 k]

theorem sum_take_le (lengths : List Nat) (k length : Nat) (hk : lengths[k]? = some length) :
    (lengths.take k).foldr (· + ·) 0 + length ≤ lengths.foldr (· + ·) 0 := by
  induction lengths generalizing k with
  | nil => simp at hk
  | cons l lengths ih =>
    cases k with
    | zero =>
      simp only [List.getElem?_cons_zero, Option.some.injEq] at hk
      simp only [List.take_zero, List.foldr_nil, List.foldr_cons]
      omega
    | succ k =>
      have hrest := ih k hk
      simp only [List.take_succ_cons, List.foldr_cons]
      omega

theorem sum_monthLengths (year : Int) :
    ((monthLengths year).foldr (· + ·) 0 : Nat) =
      daysBeforeYear (year + 1) - daysBeforeYear year := by
  rw [daysBeforeYear_succ, monthLengths]
  simp only [List.foldr]
  split <;> omega

theorem exists_monthLength {year : Int} {month day : Nat} (h : IsDate year month day) :
    ∃ m length, month = m + 1 ∧ (monthLengths year)[m]? = some length ∧ 1 ≤ day ∧
      day ≤ length := by
  obtain ⟨-, -, hday, hlength⟩ := h
  cases month with
  | zero =>
    simp only [monthLength] at hlength
    omega
  | succ m =>
    rw [monthLength] at hlength
    cases hm : (monthLengths year)[m]? with
    | none =>
      simp only [hm, Option.getD_none] at hlength
      omega
    | some length =>
      rw [hm] at hlength
      exact ⟨m, length, rfl, hm, hday, hlength⟩

theorem dayNumber_bounds {year : Int} {month day : Nat} (h : IsDate year month day) :
    daysBeforeYear year ≤ dayNumber year month day ∧
      dayNumber year month day < daysBeforeYear (year + 1) := by
  obtain ⟨m, length, rfl, hm, hday, hlength⟩ := exists_monthLength h
  have hsum := sum_take_le _ m length hm
  have htotal := sum_monthLengths year
  simp only [dayNumber, daysBeforeMonth, Nat.add_sub_cancel]
  omega

theorem dateOfDay_dayNumber {year : Int} {month day : Nat} (h : IsDate year month day) :
    dateOfDay (dayNumber year month day) = (year, month, day) := by
  obtain ⟨hlow, hhigh⟩ := dayNumber_bounds h
  have hyear := yearOfDay_unique hlow hhigh
  obtain ⟨m, length, rfl, hm, hday, hlength⟩ := exists_monthLength h
  have hrest : (dayNumber year (m + 1) day - daysBeforeYear year).toNat =
      ((monthLengths year).take m).foldr (· + ·) 0 + day - 1 := by
    simp only [dayNumber, daysBeforeMonth, Nat.add_sub_cancel]
    omega
  have hmonth := monthAndDay_sum (monthLengths year) 1 m day length hm hday hlength
  rw [Nat.add_comm 1 m] at hmonth
  simp only [dateOfDay, hyear, hrest, hmonth]

end UnitOfWork.Calendar

namespace UnitOfWork.Timestamp

theorem secondOfDay_lt (t : Timestamp) : t.secondOfDay < 86400 := by
  obtain ⟨hhour, hminute, hsecond, -⟩ := t.isTime
  unfold secondOfDay
  omega

theorem ofDaySecond?_fields (t : Timestamp) :
    ofDaySecond? t.dayNumber t.secondOfDay t.nano = some t := by
  obtain ⟨hhour, hminute, hsecond, -⟩ := t.isTime
  have hh : t.secondOfDay / 3600 = t.hour := by
    unfold secondOfDay
    omega
  have hm : t.secondOfDay / 60 % 60 = t.minute := by
    unfold secondOfDay
    omega
  have hs : t.secondOfDay % 60 = t.second := by
    unfold secondOfDay
    omega
  simp only [ofDaySecond?, dayNumber, Calendar.dateOfDay_dayNumber t.isDate, hh, hm, hs,
    ofFields?_fields]

end UnitOfWork.Timestamp
