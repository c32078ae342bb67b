import UnitOfWork.Proofs.Calendar.RoundTrip
import UnitOfWork.Proofs.Json.Number
import UnitOfWork.Proofs.Json.Text
import UnitOfWork.Value.Json

namespace UnitOfWork.Value

open Json

theorem readString_writeText (s : String) (rest : List Char) :
    readString (writeText s ++ rest) = some (s, rest) := by
  rw [writeText, List.cons_append, List.cons_append, List.append_assoc, List.singleton_append,
    readString, readBody_escaped, Option.map_some, String.ofList_toList]

theorem readInteger_signed {least most i : Int} (hleast : least ≤ i) (hmost : i ≤ most)
    {rest : List Char} (hrest : Stops rest) :
    readInteger least most (Text.signed i ++ rest) = some (i, rest) := by
  obtain ⟨n, hread, hvalue⟩ := readNumber_signed hrest i
  simp only [readInteger, hread, hvalue, Option.bind_eq_bind, Option.bind_some,
    if_pos (And.intro hleast hmost)]

theorem readInteger_byte (b : UInt8) {rest : List Char} (hrest : Stops rest) :
    readInteger 0 255 (dropSpace (Text.decimal b.toNat ++ rest)) =
      some ((b.toNat : Int), rest) := by
  have hmost : (b.toNat : Int) ≤ 255 := by
    have hlt := b.toNat_lt
    omega
  rw [dropSpace_of_head fun _ => isSpace_of_head_decimal]
  exact readInteger_signed (Int.natCast_nonneg _) hmost hrest

theorem readBytes_last (b : UInt8) (rest : List Char) :
    readBytes (Text.decimal b.toNat ++ ']' :: rest) = some ([b], rest) := by
  have hdrop : dropSpace (']' :: rest) = ']' :: rest := dropSpace_of_head (by simp; decide)
  rw [readBytes]
  simp only [readInteger_byte b (Stops.of_cons rest (c := ']') (by decide)), hdrop,
    Int.toNat_natCast, Nat.toUInt8_eq, UInt8.ofNat_toNat]

theorem readBytes_next (b : UInt8) (rest : List Char) :
    readBytes (Text.decimal b.toNat ++ ',' :: rest) =
      (readBytes rest).map fun p => (b :: p.1, p.2) := by
  have hdrop : dropSpace (',' :: rest) = ',' :: rest := dropSpace_of_head (by simp; decide)
  have hshorter : rest.length < (Text.decimal b.toNat ++ ',' :: rest).length := by
    rw [List.length_append, List.length_cons]
    omega
  rw [readBytes]
  simp only [readInteger_byte b (Stops.of_cons rest (c := ',') (by decide)), hdrop, hshorter,
    dif_pos, Int.toNat_natCast, Nat.toUInt8_eq, UInt8.ofNat_toNat]

def byteList (bytes : List UInt8) : List Char :=
  [','].intercalate (bytes.map fun b => Text.decimal b.toNat)

theorem byteList_cons_cons (b b' : UInt8) (bytes : List UInt8) :
    byteList (b :: b' :: bytes) = Text.decimal b.toNat ++ ',' :: byteList (b' :: bytes) := by
  rw [byteList, List.map_cons, List.map_cons, List.intercalate_cons_cons, List.append_assoc]
  rfl

theorem readBytes_byteList (b : UInt8) (bytes : List UInt8) (rest : List Char) :
    readBytes (byteList (b :: bytes) ++ ']' :: rest) = some (b :: bytes, rest) := by
  induction bytes generalizing b with
  | nil =>
    rw [byteList, List.map_singleton, List.intercalate_singleton, readBytes_last]
  | cons b' bytes ih =>
    rw [byteList_cons_cons, List.append_assoc, List.cons_append, readBytes_next, ih]
    rfl

theorem byteList_start (b : UInt8) (bytes : List UInt8) :
    ∃ s, byteList (b :: bytes) = Text.decimal b.toNat ++ s := by
  cases bytes with
  | nil => exact ⟨[], by rw [byteList, List.map_singleton, List.intercalate_singleton,
      List.append_nil]⟩
  | cons b' bytes => exact ⟨_, byteList_cons_cons b b' bytes⟩

theorem readBlob_bytesToJson (bytes : List UInt8) (rest : List Char) :
    readBlob (bytesToJson bytes ++ rest) = some (bytes, rest) := by
  cases bytes with
  | nil => rfl
  | cons b bytes =>
    have hshape : bytesToJson (b :: bytes) ++ rest =
        '[' :: (byteList (b :: bytes) ++ ']' :: rest) := by
      simp [bytesToJson, byteList]
    have hstart : ∀ c ∈ (byteList (b :: bytes) ++ ']' :: rest).head?, c.isDigit = true := by
      obtain ⟨s, hs⟩ := byteList_start b bytes
      rw [hs, List.append_assoc]
      exact fun _ => Text.head?_run (Text.decimal_ne_nil _) fun _ => Text.isDigit_of_mem_decimal
    rw [hshape, readBlob, dropSpace_of_head fun c hc => isSpace_of_isDigit (hstart c hc)]
    split
    · rename_i r hr
      rw [hr] at hstart
      cases hstart ']' rfl
    · exact readBytes_byteList b bytes rest

structure Written (key : String) (content : List Char) (v : Value) : Prop where
  start : ∃ c s, content = c :: s ∧ isSpace c = false
  read : ∀ rest, Stops rest → readContent key (content ++ rest) = some (v, rest)

theorem Written.ofJson? {key : String} {content : List Char} {v : Value}
    (h : Written key content v) : ofJson? (tagged key content) = some v := by
  obtain ⟨c, s, hcontent, hc⟩ := h.start
  have hshape : tagged key content =
      '\x7b' :: (writeText key ++ ':' :: (content ++ ['\x7d'])) := by
    simp [tagged]
  have hquote : dropSpace (writeText key ++ ':' :: (content ++ ['\x7d'])) =
      writeText key ++ ':' :: (content ++ ['\x7d']) :=
    dropSpace_of_head (by simp [writeText]; decide)
  have hcolon : dropSpace (':' :: (content ++ ['\x7d'])) = ':' :: (content ++ ['\x7d']) :=
    dropSpace_of_head (by simp; decide)
  have hstart : dropSpace (content ++ ['\x7d']) = content ++ ['\x7d'] :=
    dropSpace_of_head (by simp [hcontent, hc])
  have hread := h.read ['\x7d'] (Stops.of_cons [] (by decide))
  have hjson : readJson (tagged key content) = some (v, []) := by
    rw [hshape, readJson, hquote]
    simp only [readString_writeText, Option.bind_eq_bind, Option.bind_some, hcolon, Text.readChar,
      if_true, hstart, hread]
    rfl
  rw [Value.ofJson?, dropSpace_of_head (by simp [tagged]; decide)]
  simp only [hjson, Option.bind_eq_bind, Option.bind_some]
  rfl

theorem written_text (s : String) : Written "Text" (writeText s) (text s) := by
  constructor
  case start => exact ⟨_, _, rfl, by decide⟩
  case read =>
    intro rest _
    simp only [readContent, String.reduceEq, if_false, if_true, readString_writeText,
      Option.map_some]

theorem written_blob (bytes : List UInt8) : Written "Blob" (bytesToJson bytes) (blob bytes) := by
  constructor
  case start => exact ⟨_, _, rfl, by decide⟩
  case read =>
    intro rest _
    simp only [readContent, String.reduceEq, if_false, if_true, readBlob_bytesToJson,
      Option.map_some]

theorem written_int (i : Int64) : Written "Int" (Text.signed i.toInt) (int i) := by
  constructor
  case start =>
    cases i.toInt with
    | ofNat n =>
      obtain ⟨c, s, hs⟩ := List.exists_cons_of_ne_nil (Text.decimal_ne_nil n)
      have hdigit : c.isDigit = true := by
        apply Text.isDigit_of_mem_decimal (n := n)
        rw [hs]
        exact List.mem_cons_self
      exact ⟨c, s, hs, isSpace_of_isDigit hdigit⟩
    | negSucc n => exact ⟨_, _, rfl, by decide⟩
  case read =>
    intro rest hrest
    have hleast : Int64.minValue.toInt ≤ i.toInt := Int64.minValue_le_toInt i
    simp only [readContent, String.reduceEq, if_false, if_true,
      readInteger_signed hleast (Int64.toInt_le i) hrest, Option.map_some, Int64.ofInt_toInt]

theorem written_bool (b : Bool) :
    Written "Bool" (if b then "true" else "false").toList (bool b) := by
  cases b <;> constructor
  case true.start | false.start => exact ⟨_, _, rfl, by decide⟩
  case true.read | false.read =>
    intro rest _
    simp only [readContent, String.reduceEq, if_false, if_true]
    rfl

theorem written_timestamp (t : Timestamp) :
    Written "Timestamp" (writeText t.lettered) (timestamp t.shown) := by
  constructor
  case start => exact ⟨_, _, rfl, by decide⟩
  case read =>
    intro rest _
    simp only [readContent, String.reduceEq, if_false, if_true, readString_writeText,
      Option.bind_eq_bind, Option.bind_some, t.read_lettered]

def shown : Value → Value
  | timestamp t => timestamp t.shown
  | v => v

def IsShown (v : Value) : Prop := ∀ t, v = timestamp t → t.IsShown

theorem shown_eq_self_iff {v : Value} : v.shown = v ↔ v.IsShown := by
  cases v with
  | timestamp t => simp [shown, IsShown, Timestamp.shown_eq_self_iff]
  | _ => exact iff_of_true rfl (by rintro t ⟨⟩)

theorem toJson_shown (v : Value) : v.shown.toJson = v.toJson := by
  cases v with
  | timestamp t =>
    have htext : t.shown.lettered = t.lettered := congrArg String.ofList (t.print_shown 'T')
    rw [shown, toJson, toJson, htext]
  | _ => rfl

theorem ofJson?_toJson {v : Value} (h : v.kind ≠ .float) : ofJson? v.toJson = some v.shown := by
  cases v with
  | null => decide +kernel
  | text s => exact (written_text s).ofJson?
  | blob bytes => exact (written_blob bytes).ofJson?
  | int i => exact (written_int i).ofJson?
  | float x => exact absurd rfl h
  | bool b => exact (written_bool b).ofJson?
  | timestamp t => exact (written_timestamp t).ofJson?

theorem toJson_inj {v w : Value} (h : v.kind ≠ .float) (hw : w.kind ≠ .float) :
    w.toJson = v.toJson ↔ w.shown = v.shown := by
  refine ⟨fun heq => ?_, fun heq => ?_⟩
  · have hread := ofJson?_toJson hw
    rw [heq, ofJson?_toJson h] at hread
    exact (Option.some.inj hread).symm
  · rw [← toJson_shown w, ← toJson_shown v, heq]

/-- Nothing is lost in exchange, and no two values become one, but for leap seconds inside a minute,
of which only what is shown is kept. -/
theorem json_reads_back_iff {v : Value} (h : v.kind ≠ .float) :
    ofJson? v.toJson = some v.shown ∧ (ofJson? v.toJson = some v ↔ v.IsShown) ∧
      ∀ w : Value, w.kind ≠ .float → (w.toJson = v.toJson ↔ w.shown = v.shown) ∧
        (v.IsShown → w.IsShown → w ≠ v → w.toJson ≠ v.toJson) := by
  refine ⟨ofJson?_toJson h, ?_, fun w hw => ⟨toJson_inj h hw, ?_⟩⟩
  · rw [ofJson?_toJson h, Option.some.injEq, shown_eq_self_iff]
  · intro hv hw' hne heq
    rw [toJson_inj h hw, shown_eq_self_iff.mpr hv, shown_eq_self_iff.mpr hw'] at heq
    exact hne heq

theorem json_reads_back_leap_second :
    let v : Value := .timestamp ⟨-262143, 1, 1, 23, 59, 59, 1999999999, by decide, by decide⟩
    let w : Value := .text "\"\x01😀"
    v.kind ≠ .float ∧ w.kind ≠ .float ∧ v.IsShown ∧ w.IsShown ∧ w ≠ v ∧
      v.toJson = "\x7b\"Timestamp\":\"-262143-01-01T23:59:60.999999999\"\x7d".toList ∧
      w.toJson = "\x7b\"Text\":\"\\\"\\u0001😀\"\x7d".toList ∧
      ofJson? v.toJson = some v ∧ w.toJson ≠ v.toJson := by
  intro v w
  have hne : w ≠ v := nofun
  have hw : w.IsShown := fun _ ht => absurd ht nofun
  have hv : v.IsShown := by
    intro t ht
    obtain rfl := timestamp.inj ht
    decide
  obtain ⟨-, hread, htold⟩ := json_reads_back_iff (v := v) (by decide)
  exact ⟨by decide, by decide, hv, hw, hne, by decide +kernel, by decide +kernel, hread.mpr hv,
    (htold w (by decide)).2 hv hw hne⟩

/-- A leap second inside a minute is written as the next second is. -/
theorem leap_second_written_as_next :
    let v : Value := .timestamp ⟨2015, 6, 30, 23, 56, 4, 1333333333, by decide, by decide⟩
    let w : Value := .timestamp ⟨2015, 6, 30, 23, 56, 5, 333333333, by decide, by decide⟩
    v.toJson = "\x7b\"Timestamp\":\"2015-06-30T23:56:05.333333333\"\x7d".toList ∧
      ofJson? v.toJson = some w ∧ w ≠ v ∧ w.toJson = v.toJson := by
  intro v w
  have hshown : v.shown = w := by decide
  have hread : ofJson? v.toJson = some w := hshown ▸ ofJson?_toJson (by decide)
  refine ⟨by decide +kernel, hread, by decide, ?_⟩
  rw [← hshown, toJson_shown]

end UnitOfWork.Value
