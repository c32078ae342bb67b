namespace UnitOfWork.Text

/-- The ranges of code points that carry the property White_Space, in ascending order. -/
def blankRanges : List (Nat × Nat) :=
  [(0x9, 0xd), (0x20, 0x20), (0x85, 0x85), (0xa0, 0xa0), (0x1680, 0x1680), (0x2000, 0x200a),
   (0x2028, 0x2029), (0x202f, 0x202f), (0x205f, 0x205f), (0x3000, 0x3000)]

def isBlank (c : Char) : Bool :=
  blankRanges.any fun r => decide (r.1 ≤ c.toNat ∧ c.toNat ≤ r.2)

def dropBlanks (s : List Char) : List Char := s.dropWhile isBlank

theorem length_dropBlanks_le (s : List Char) : (dropBlanks s).length ≤ s.length :=
  (List.dropWhile_suffix _).length_le

def cut (p : Char → Bool) (s : List Char) : List Char × List Char :=
  (s.takeWhile fun c => !p c, s.dropWhile fun c => !p c)

def cutAt? (p : Char → Bool) (s : List Char) : Option (List Char × List Char) :=
  match cut p s with
  | (_, []) => none
  | (before, _ :: rest) => some (before, rest)

theorem length_cut_le (p : Char → Bool) (s : List Char) : (cut p s).2.length ≤ s.length :=
  (List.dropWhile_suffix _).length_le

theorem length_of_cutAt? {p : Char → Bool} {s before rest : List Char}
    (h : cutAt? p s = some (before, rest)) : rest.length < s.length := by
  have := length_cut_le p s
  grind [cutAt?]

def pieces (separator : Char) : List Char → List (List Char)
  | [] => [[]]
  | c :: s =>
    if c = separator then [] :: pieces separator s
    else
      match pieces separator s with
      | [] => [[c]]
      | piece :: rest => (c :: piece) :: rest

end UnitOfWork.Text
