import UnitOfWork.Proofs.Statement.Template
import UnitOfWork.Proofs.Text.Digits
import UnitOfWork.Sqlite.Grammar

/-!
The tokens of texts with gaps. Main statements: which tokens the clauses of a statement consist of,
and that a parameter has the number of its gap in every dialect whose placeholders tell parameters
apart.
-/
namespace UnitOfWork.Sqlite

open Template (spread spread_plain)

namespace Token

def isWord (s : String) : Bool :=
  match s.toList with
  | [] => false
  | c :: cs => isNameStart c && cs.all isNameChar

end Token

/-- A name that is read as it is written: one word, and not a word of the language. -/
def isBareName (name : String) : Bool :=
  Token.isWord name && !Grammar.reserved.contains (Grammar.lower name)

namespace Token

variable {known known' : List (Option String)} {c : Char} {cs rest : List Char} {t : Token}
  {ts : List Token} {n : Nat}

def Scans (known : List (Option String)) (cs : List Char) (ts : List Token) (n : Nat) : Prop :=
  ∀ fuel offset, cs.length ≤ fuel →
    ∃ ls, scan fuel offset known cs = .ok ⟨ls, n⟩ ∧ ls.map Lexeme.token = ts

def Parted (cs : List Char) : Prop := ∀ c ∈ cs.head?, isNameChar c = false

theorem Scans.nil (known : List (Option String)) : Scans known [] [] known.length := by
  intro fuel offset h
  exact ⟨[], by unfold scan; rfl, rfl⟩

theorem Scans.gap (h : Scans known cs ts n) (hc : isGap c = true) : Scans known (c :: cs) ts n := by
  intro fuel offset hfuel
  cases fuel with
  | zero => exact absurd hfuel (by simp)
  | succ fuel =>
    rw [scan, if_pos hc]
    exact h fuel (offset + 1) (Nat.le_of_succ_le_succ hfuel)

theorem Scans.first {length : Nat} {raw : Raw} (h : Scans known' rest ts n)
    (hgap : isGap c = false) (hfirst : first? (c :: cs) = some (length + 1, raw))
    (hnumbered : numbered known raw = (t, known')) (hrest : cs.drop length = rest) :
    Scans known (c :: cs) (t :: ts) n := by
  intro fuel offset hfuel
  cases fuel with
  | zero => exact absurd hfuel (by simp)
  | succ fuel =>
    have hle : rest.length ≤ fuel := by
      rw [← hrest, List.length_drop]
      simp only [List.length_cons] at hfuel
      omega
    obtain ⟨ls, hls, hmap⟩ := h fuel
      (offset + (String.ofList ((c :: cs).take (length + 1))).utf8ByteSize) hle
    refine ⟨⟨t, String.ofList ((c :: cs).take (length + 1)), offset⟩ :: ls, ?_, ?_⟩
    · rw [scan, if_neg (by simp [hgap])]
      simp only [hfirst, hnumbered, List.drop_succ_cons, hrest, hls]
    · rw [List.map_cons, hmap]

theorem not_isGap_of_isNameStart (h : isNameStart c = true) : isGap c = false := by
  cases hgap : isGap c with
  | false => rfl
  | true =>
    simp only [isGap, Bool.decide_or, Bool.or_eq_true, decide_eq_true_eq] at hgap
    obtain rfl | rfl | rfl | rfl | rfl := hgap <;> exact absurd h (by decide)

theorem Scans.word {w : String} (h : Scans known rest ts n) (hrest : Parted rest)
    (hw : isWord w = true) : Scans known (w.toList ++ rest) (.word w :: ts) n := by
  unfold isWord at hw
  split at hw
  · cases hw
  · rename_i c name hname
    obtain ⟨hc, hall⟩ := Bool.and_eq_true_iff.mp hw
    have htake := Text.takeWhile_run (List.all_eq_true.mp hall) hrest
    have hfirst : first? (c :: (name ++ rest)) = some (name.length + 1, .plain (.word w)) := by
      simp only [first?, hc, htake, if_true, ← hname, String.ofList_toList]
    rw [hname]
    exact h.first (not_isGap_of_isNameStart hc) hfirst rfl List.drop_left

theorem Parted.cons (hc : isNameChar c = false) : Parted (c :: cs) := by
  rintro d ⟨⟩
  exact hc

theorem Scans.sign (h : Scans known rest ts n) (hc : c ∈ ['(', ')', ',', '*']) :
    Scans known (c :: rest) (.sign (.singleton c) :: ts) n := by
  simp only [List.mem_cons, List.not_mem_nil, or_false] at hc
  obtain rfl | rfl | rfl | rfl := hc <;> exact h.first rfl rfl rfl rfl

theorem Scans.comparison (h : Scans known rest ts n) (c : Comparison) :
    Scans known (c.sign.toList ++ ' ' :: rest) (.sign c.sign :: ts) n := by
  have hgap : Scans known (' ' :: rest) ts n := h.gap rfl
  cases c <;> exact hgap.first rfl rfl rfl rfl

inductive Bit where
  | gap
  | word (w : String)
  | sign (c : Char)

namespace Bit

def chars : Bit → List Char
  | gap => [' ']
  | word w => w.toList
  | sign c => [c]

@[simp] def tokens : Bit → List Token
  | gap => []
  | word w => [.word w]
  | sign c => [.sign (.singleton c)]

@[simp] def areParted (parted : Bool) : List Bit → Bool
  | [] => parted
  | word _ :: _ => false
  | _ => true

def fit (parted : Bool) : List Bit → Bool
  | [] => true
  | gap :: bits => fit parted bits
  | word w :: bits => isWord w && areParted parted bits && fit parted bits
  | sign c :: bits => ['(', ')', ',', '*'].contains c && fit parted bits

end Bit

theorem Scans.bits {parted : Bool} {bits : List Bit} (h : Scans known rest ts n)
    (hrest : parted = true → Parted rest) (hfit : Bit.fit parted bits = true) :
    Scans known (bits.flatMap Bit.chars ++ rest) (bits.flatMap Bit.tokens ++ ts) n ∧
      (Bit.areParted parted bits = true → Parted (bits.flatMap Bit.chars ++ rest)) := by
  induction bits with
  | nil => exact ⟨h, hrest⟩
  | cons bit bits ih =>
    rw [List.flatMap_cons, List.flatMap_cons, List.append_assoc, List.append_assoc]
    cases bit with
    | gap => exact ⟨(ih hfit).1.gap rfl, fun _ => .cons rfl⟩
    | word w =>
      simp only [Bit.fit, Bool.and_eq_true] at hfit
      obtain ⟨hscans, hparted⟩ := ih hfit.2
      exact ⟨hscans.word (hparted hfit.1.2) hfit.1.1, by rintro ⟨⟩⟩
    | sign c =>
      simp only [Bit.fit, Bool.and_eq_true, List.contains_eq_mem, decide_eq_true_eq] at hfit
      refine ⟨(ih hfit.2).1.sign hfit.1, fun _ => .cons ?_⟩
      have hc := hfit.1
      simp only [List.mem_cons, List.not_mem_nil, or_false] at hc
      obtain rfl | rfl | rfl | rfl := hc <;> rfl

end Token

/-- A dialect whose placeholders the engine tells apart: they have no names, or each its own. -/
inductive Readable (d : Dialect) : Prop where
  | anonymous (h : ∀ k, d.placeholder k = "?")
  | named (c : Char) (name : Nat → List Char) (hc : c = '$' ∨ c = ':')
    (h : ∀ k, d.placeholder k = String.ofList (c :: name k))
    (hname : ∀ k, name k ≠ [] ∧ ∀ x ∈ name k, Token.isNameChar x = true)
    (hinjective : ∀ j k, name j = name k → j = k)

theorem isNameChar_of_isDigit {c : Char} (h : c.isDigit = true) : Token.isNameChar c = true := by
  simp [Token.isNameChar, Char.isAlphanum, h]

theorem readable_default : Readable .default := .anonymous fun _ => rfl

theorem readable_postgres : Readable .postgres := by
  refine .named '$' Text.decimal (.inl rfl) ?_ ?_ ?_
  · intro k
    exact (String.ofList_append).symm
  · intro k
    exact ⟨Nat.toDigits_ne_nil, fun x hx => isNameChar_of_isDigit (Text.isDigit_of_mem_decimal hx)⟩
  · intro j k h
    exact Text.decimal_injective h

theorem readable_named : Readable .named := by
  refine .named ':' (fun k => 'p' :: Text.decimal k) (.inr rfl) ?_ ?_ ?_
  · intro k
    exact (String.ofList_append).symm
  · intro k
    refine ⟨by rintro ⟨⟩, ?_⟩
    intro x hx
    obtain rfl | hx := List.mem_cons.mp hx
    · decide
    · exact isNameChar_of_isDigit (Text.isDigit_of_mem_decimal hx)
  · intro j k h
    exact Text.decimal_injective (List.cons.inj h).2

def marks (d : Dialect) (k : Nat) : List (Option String) :=
  (List.range k).map fun i =>
    if d.placeholder (i + 1) = "?" then none else some (d.placeholder (i + 1))

theorem length_marks (d : Dialect) (k : Nat) : (marks d k).length = k := by
  rw [marks, List.length_map, List.length_range]

theorem marks_succ (d : Dialect) (k : Nat) :
    marks d (k + 1) = marks d k ++
      [if d.placeholder (k + 1) = "?" then none else some (d.placeholder (k + 1))] := by
  rw [marks, List.range_succ, List.map_append]
  rfl

theorem scans_placeholder {d : Dialect} (hd : Readable d) {k n : Nat} {rest : List Char}
    {ts : List Token} (h : Token.Scans (marks d (k + 1)) rest ts n) (hrest : Token.Parted rest) :
    Token.Scans (marks d k) ((d.placeholder (k + 1)).toList ++ rest) (.parameter k :: ts) n := by
  cases hd with
  | anonymous hmark =>
    rw [marks_succ, if_pos (hmark _)] at h
    rw [hmark]
    refine h.first rfl rfl ?_ rfl
    rw [Token.numbered, length_marks]
  | named c name hc hmark hname hinjective =>
    have hne : ∀ j, d.placeholder j ≠ "?" := by
      intro j hj
      rw [hmark] at hj
      have hhead := (List.cons.inj (String.ofList_injective hj)).1
      obtain rfl | rfl := hc <;> cases hhead
    have htake := Text.takeWhile_run (hname (k + 1)).2 hrest
    have hfirst : Token.first? (c :: (name (k + 1) ++ rest)) =
        some ((name (k + 1)).length + 1, .parameter (some (d.placeholder (k + 1)))) := by
      have hparameter := And.intro hc (hname (k + 1)).1
      rw [hmark, Token.first?, htake]
      obtain rfl | rfl := hc
      · exact if_pos hparameter
      · exact if_pos hparameter
    have hnew : (marks d k).idxOf? (some (d.placeholder (k + 1))) = none := by
      rw [List.idxOf?_eq_none_iff, marks, List.mem_map]
      rintro ⟨i, hi, heq⟩
      rw [if_neg (hne _), hmark, hmark] at heq
      have hname := (List.cons.inj (String.ofList_injective (Option.some.inj heq))).2
      have hik := hinjective _ _ hname
      rw [List.mem_range] at hi
      omega
    rw [marks_succ, if_neg (hne _)] at h
    rw [hmark, String.toList_ofList]
    refine h.first ?_ hfirst ?_ List.drop_left
    · obtain rfl | rfl := hc <;> rfl
    · rw [Token.numbered, hnew, length_marks]

def separated : List (List Token) → List Token
  | [] => []
  | [ts] => ts
  | ts :: us :: rest => ts ++ .sign "," :: separated (us :: rest)

structure Reads (d : Dialect) (n : Nat) (k : Nat) (parted : Bool) (t : Template)
    (ts : List Token) : Prop where
  scans : Token.Scans (marks d k) (Template.fill d.placeholder (k + 1) t).toList ts n
  parted : parted = true → Token.Parted (Template.fill d.placeholder (k + 1) t).toList

namespace Reads

open Token (Bit)

variable {d : Dialect} {n k : Nat} {parted : Bool} {t : Template} {ts : List Token}

theorem nil (d : Dialect) (k : Nat) : Reads d k k true [] [] := by
  constructor
  · have h := Token.Scans.nil (marks d k)
    rwa [length_marks] at h
  · rintro - c ⟨⟩

theorem glue {s : String} (bits : List Bit) (h : Reads d n k parted t ts)
    (hs : s.toList = bits.flatMap Bit.chars) (hfit : Bit.fit parted bits = true) :
    Reads d n k (Bit.areParted parted bits) (.text s :: t) (bits.flatMap Bit.tokens ++ ts) := by
  obtain ⟨hscans, hparted⟩ := h.scans.bits h.parted hfit
  constructor
  · rw [Template.fill, String.toList_append, hs]
    exact hscans
  · rw [Template.fill, String.toList_append, hs]
    exact hparted

theorem name {name : String} (h : Reads d n k true t ts) (hname : isBareName name = true) :
    Reads d n k false (.text name :: t) (.word name :: ts) := by
  constructor
  · rw [Template.fill, String.toList_append]
    exact h.scans.word (h.parted rfl) (Bool.and_eq_true_iff.mp hname).1
  · rintro ⟨⟩

theorem gap (hd : Readable d) (h : Reads d n (k + 1) true t ts) :
    Reads d n k false (.gap :: t) (.parameter k :: ts) := by
  constructor
  · rw [Template.fill, String.toList_append]
    exact scans_placeholder hd h.scans (h.parted rfl)
  · rintro ⟨⟩

theorem comparison (h : Reads d n k parted t ts) (c : Comparison) :
    Reads d n k true (.text " " :: .text c.sign :: .text " " :: t) (.sign c.sign :: ts) := by
  constructor
  · simp only [Template.fill, String.toList_append]
    exact (h.scans.comparison c).gap rfl
  · rintro -
    simp only [Template.fill, String.toList_append]
    exact .cons rfl

theorem never (h : Reads d n k parted t ts) :
    Reads d n k false (.text "1 = 0" :: .text ")" :: t)
      (.number (.integer 1) :: .sign "=" :: .number (.integer 0) :: .sign ")" :: ts) := by
  have hclose : Token.Scans (marks d k) (')' :: (Template.fill d.placeholder (k + 1) t).toList)
      (.sign ")" :: ts) n := h.scans.sign (by simp)
  have hzero : Token.Scans (marks d k)
      ('0' :: ')' :: (Template.fill d.placeholder (k + 1) t).toList)
      (.number (.integer 0) :: .sign ")" :: ts) n := hclose.first rfl rfl rfl rfl
  constructor
  · simp only [Template.fill, String.toList_append]
    exact ((hzero.comparison .eq).gap rfl).first rfl rfl rfl rfl
  · rintro ⟨⟩

end Reads

namespace Reads

variable {d : Dialect} {n k : Nat} {t : Template} {ts : List Token}

theorem commas {α : Type} {g : Nat} (template : α → Template) (tokens : Nat → α → List Token)
    {as : List α} (hne : as ≠ [])
    (hitem : ∀ a ∈ as, ∀ k t ts, Reads d n (k + g) true t ts →
      Reads d n k false (template a ++ t) (tokens k a ++ ts))
    (h : Reads d n (k + g * as.length) true t ts) :
    Reads d n k false (Template.commas (as.map template) ++ t)
      (separated (spread g tokens k as) ++ ts) := by
  induction as generalizing k with
  | nil => exact absurd rfl hne
  | cons a as ih =>
    cases as with
    | nil => exact hitem a List.mem_cons_self k t ts (by simpa using h)
    | cons b as =>
      have hk : k + g * (b :: as).length + g = k + g * (a :: b :: as).length := by
        simp only [List.length_cons, Nat.mul_add, Nat.mul_one]
        omega
      rw [← hk, Nat.add_right_comm] at h
      have hrest := ih (by simp) (fun c hc => hitem c (List.mem_cons_of_mem a hc)) h
      have hcomma := hrest.glue [.sign ',', .gap] (s := ", ") rfl rfl
      have hfirst := hitem a List.mem_cons_self k _ _ hcomma
      simpa [Template.commas, spread, separated] using hfirst

end Reads

def parameterToken (k : Nat) (_ : Value) : List Token := [.parameter k]

def predicateTokens (k : Nat) : Predicate → List Token
  | .compare column comparison _ => [.word column, .sign comparison.sign, .parameter k]
  | .null column false => [.word column, .word "is", .word "null"]
  | .null column true => [.word column, .word "is", .word "not", .word "null"]
  | .among _ [] => [.number (.integer 1), .sign "=", .number (.integer 0)]
  | .among column (v :: vs) =>
    .word column :: .word "in" :: .sign "(" ::
      (separated (spread 1 parameterToken k (v :: vs)) ++ [.sign ")"])

def conditionTokens (joint : String) : Nat → List Predicate → List Token
  | _, [] => []
  | k, p :: ps =>
    .word joint :: .sign "(" ::
      (predicateTokens k p ++ .sign ")" :: conditionTokens "and" (k + p.values.length) ps)

def keyTokens (k : SortKey) : List Token :=
  [.word k.column, .word (if k.ascending then "asc" else "desc")]

def orderTokens : List SortKey → List Token
  | [] => []
  | k :: ks => .word "order" :: .word "by" :: separated ((k :: ks).map keyTokens)

def nameTokens (names : List String) : List Token := separated (names.map fun n => [.word n])

def assignmentTokens (k : Nat) (name : String) : List Token :=
  [.word name, .sign "=", .parameter k]

end UnitOfWork.Sqlite

namespace UnitOfWork.Sqlite.Reads

open Template (spread spread_plain)
open Token (Bit)

variable {d : Dialect} {n k : Nat} {parted : Bool} {t : Template} {ts : List Token}

theorem names {names : List String} (hne : names ≠ [])
    (hnames : ∀ name ∈ names, isBareName name = true) (h : Reads d n k true t ts) :
    Reads d n k false (Template.columns names ++ t) (nameTokens names ++ ts) := by
  have hlist := commas (g := 0) (fun name => [.text name]) (fun _ name => [.word name]) hne
    (fun name hname k t ts h => h.name (hnames name hname)) (by simpa using h)
  rwa [spread_plain] at hlist

theorem close (h : Reads d n k parted t ts) :
    Reads d n k true (.text ")" :: t) (.sign ")" :: ts) := h.glue [.sign ')'] rfl rfl

theorem predicate (hd : Readable d) {p : Predicate} (hp : isBareName p.column = true)
    (h : Reads d n (k + p.values.length) parted t ts) :
    Reads d n k false (p.template ++ .text ")" :: t)
      (predicateTokens k p ++ .sign ")" :: ts) := by
  cases p with
  | compare column comparison v => exact ((h.close.gap hd).comparison comparison).name hp
  | null column negated =>
    cases negated with
    | false =>
      exact (h.close.glue [.gap, .word "is", .gap, .word "null"] (s := " is null") rfl rfl).name hp
    | true =>
      exact (h.close.glue [.gap, .word "is", .gap, .word "not", .gap, .word "null"]
        (s := " is not null") rfl rfl).name hp
  | among column vs =>
    cases vs with
    | nil => exact h.never
    | cons v vs =>
      have hvalues := commas (g := 1) (fun _ => [.gap]) parameterToken (List.cons_ne_nil v vs)
        (fun v hv k t ts h => h.gap hd) (by rw [Nat.one_mul]; exact h.close.close)
      have hopen := hvalues.glue [.gap, .word "in", .gap, .sign '('] (s := " in (") rfl rfl
      have hlist := hopen.name hp
      simpa [Predicate.template, predicateTokens, Predicate.column] using hlist

theorem conditions (hd : Readable d) {joint w : String} (ps : List Predicate)
    (hjoint : joint = " where (" ∧ w = "where" ∨ joint = " and (" ∧ w = "and")
    (hps : ∀ p ∈ ps, isBareName p.column = true)
    (h : Reads d n (k + (ps.flatMap Predicate.values).length) true t ts) :
    Reads d n k true (Template.conditions joint ps ++ t) (conditionTokens w k ps ++ ts) := by
  induction ps generalizing k joint w with
  | nil => exact h
  | cons p ps ih =>
    rw [List.flatMap_cons, List.length_append, ← Nat.add_assoc] at h
    have hrest := ih (.inr ⟨rfl, rfl⟩) (fun q hq => hps q (List.mem_cons_of_mem p hq)) h
    have hp := hrest.predicate hd (hps p List.mem_cons_self)
    obtain ⟨rfl, rfl⟩ | ⟨rfl, rfl⟩ := hjoint
    · have hopen := hp.glue [.gap, .word "where", .gap, .sign '('] (s := " where (") rfl rfl
      simpa [Template.conditions, conditionTokens] using hopen
    · have hopen := hp.glue [.gap, .word "and", .gap, .sign '('] (s := " and (") rfl rfl
      simpa [Template.conditions, conditionTokens] using hopen

theorem order {keys : List SortKey} (hkeys : ∀ key ∈ keys, isBareName key.column = true)
    (h : Reads d n k true t ts) :
    Reads d n k true (Template.sorted " order by " keys ++ t) (orderTokens keys ++ ts) := by
  cases keys with
  | nil => exact h
  | cons key keys =>
    have hkey : ∀ key' ∈ key :: keys, ∀ k t ts, Reads d n (k + 0) true t ts →
        Reads d n k false (key'.template ++ t) (keyTokens key' ++ ts) := by
      intro key' hkey' k t ts h
      obtain ⟨column, ascending⟩ := key'
      cases ascending with
      | true =>
        exact (h.glue [.gap, .word "asc"] (s := " asc") rfl rfl).name (hkeys _ hkey')
      | false =>
        exact (h.glue [.gap, .word "desc"] (s := " desc") rfl rfl).name (hkeys _ hkey')
    have hlist := commas (g := 0) SortKey.template (fun _ => keyTokens)
      (List.cons_ne_nil key keys) hkey (by simpa using h)
    have hopen := hlist.glue [.gap, .word "order", .gap, .word "by", .gap] (s := " order by ")
      rfl rfl
    rw [spread_plain] at hopen
    simpa [Template.sorted, orderTokens] using hopen

theorem equals (h : Reads d n k parted t ts) :
    Reads d n k true (.text " = " :: t) (.sign "=" :: ts) := by
  constructor
  · rw [Template.fill, String.toList_append]
    exact (h.scans.comparison .eq).gap rfl
  · rintro -
    rw [Template.fill, String.toList_append]
    exact .cons rfl

theorem assignments (hd : Readable d) {names : List String} (hne : names ≠ [])
    (hnames : ∀ name ∈ names, isBareName name = true) {m : Nat} (hm : k + names.length = m)
    (h : Reads d n m true t ts) :
    Reads d n k false (Template.assignments names ++ t)
      (separated (spread 1 assignmentTokens k names) ++ ts) := by
  refine commas (g := 1) (fun name => [.text name, .text " = ", .gap]) assignmentTokens hne ?_
    (by rwa [Nat.one_mul, hm])
  intro name hname k t ts h
  exact (h.gap hd).equals.name (hnames name hname)

theorem scanText (h : Reads d n 0 parted t ts) (vs : List Value) :
    ∃ ls, Token.scanText (Template.statement d t vs).sql = .ok ⟨ls, n⟩ ∧
      ls.map Lexeme.token = ts :=
  h.scans _ 0 (Nat.le_of_eq String.length_toList)

end UnitOfWork.Sqlite.Reads

namespace UnitOfWork.Sqlite

open Reads
open Template (spread)

variable {d : Dialect} (hd : Readable d) {table : String} (htable : isBareName table = true)
  {clauses : List Clause}
  (hclauses : ∀ c ∈ clauses, ∀ name ∈ c.columns, isBareName name = true)

def choiceTokens (k : Nat) (clauses : List Clause) : List Token :=
  conditionTokens "where" k (clauses.filterMap Clause.predicate?)

def selectTokens (columns : List String) (table : String) (clauses : List Clause) : List Token :=
  .word "select" :: (nameTokens columns ++ .word "from" :: .word table ::
    (choiceTokens 0 clauses ++ orderTokens (clauses.flatMap Clause.sortKeys)))

def countTokens (table : String) (clauses : List Clause) : List Token :=
  .word "select" :: .word "count" :: .sign "(" :: .sign "*" :: .sign ")" :: .word "from" ::
    .word table :: choiceTokens 0 clauses

def updateTokens (table : String) (columns : List String) (clauses : List Clause) :
    List Token :=
  .word "update" :: .word table :: .word "set" ::
    (separated (spread 1 assignmentTokens 0 columns) ++ choiceTokens columns.length clauses)

def deleteTokens (table : String) (clauses : List Clause) : List Token :=
  .word "delete" :: .word "from" :: .word table :: choiceTokens 0 clauses

include hd hclauses in
theorem reads_choice {n k m : Nat} {t : Template} {ts : List Token}
    (hm : k + (Clause.bound clauses).length = m) (h : Reads d n m true t ts) :
    Reads d n k true (Template.choice clauses ++ t) (choiceTokens k clauses ++ ts) := by
  rw [← hm, Clause.bound_eq] at h
  exact conditions hd _ (.inl ⟨rfl, rfl⟩) (Clause.forall_predicate hclauses) h

include hd htable hclauses in
theorem reads_select {columns : List String} (hne : columns ≠ [])
    (hcolumns : ∀ name ∈ columns, isBareName name = true) :
    Reads d (Clause.bound clauses).length 0 false (Template.select columns table clauses)
      (selectTokens columns table clauses) := by
  have horder := order (Clause.forall_key hclauses) (.nil d (Clause.bound clauses).length)
  have htail := (reads_choice hd hclauses (Nat.zero_add _) horder).name htable
  have hfrom := htail.glue [.gap, .word "from", .gap] (s := " from ") rfl rfl
  have hselect := (names hne hcolumns hfrom).glue [.word "select", .gap] (s := "select ") rfl rfl
  simpa [Template.select, Template.order, selectTokens] using hselect

include hd htable hclauses in
theorem reads_count :
    Reads d (Clause.bound clauses).length 0 false (Template.count table clauses)
      (countTokens table clauses) := by
  have htail := (reads_choice hd hclauses (Nat.zero_add _) (.nil d _)).name htable
  have hcount := htail.glue [.word "select", .gap, .word "count", .sign '(', .sign '*', .sign ')',
    .gap, .word "from", .gap] (s := "select count(*) from ") rfl rfl
  simpa [Template.count, countTokens] using hcount

include hd htable hclauses in
theorem reads_delete :
    Reads d (Clause.bound clauses).length 0 false (Template.delete table clauses)
      (deleteTokens table clauses) := by
  have htail := (reads_choice hd hclauses (Nat.zero_add _) (.nil d _)).name htable
  have hdelete := htail.glue [.word "delete", .gap, .word "from", .gap] (s := "delete from ")
    rfl rfl
  simpa [Template.delete, deleteTokens] using hdelete

include hd htable hclauses in
theorem reads_update {columns : List String} (hne : columns ≠ [])
    (hcolumns : ∀ name ∈ columns, isBareName name = true) :
    Reads d (columns.length + (Clause.bound clauses).length) 0 false
      (Template.update table columns clauses) (updateTokens table columns clauses) := by
  have hchoice := reads_choice hd hclauses rfl
    (.nil d (columns.length + (Clause.bound clauses).length))
  have hset := (assignments hd hne hcolumns (Nat.zero_add _) hchoice).glue
    [.gap, .word "set", .gap] (s := " set ") rfl rfl
  have hupdate := (hset.name htable).glue [.word "update", .gap] (s := "update ") rfl rfl
  simpa [Template.update, updateTokens] using hupdate

end UnitOfWork.Sqlite
