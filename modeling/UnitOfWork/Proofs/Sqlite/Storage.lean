import UnitOfWork.Proofs.Calendar.RoundTrip
import UnitOfWork.Proofs.Text.Utf8
import UnitOfWork.Row.Getters
import UnitOfWork.Sqlite.Engine

namespace UnitOfWork

inductive Getter where
  | string
  | bytes
  | bool
  | time
  | int64
  | integer (t : IntegerType)
  | float64
  | float32

namespace Getter

def Result : Getter → Type
  | string => String
  | bytes => List UInt8
  | bool => Bool
  | time => Timestamp
  | int64 => Int64
  | integer _ => Int
  | float64 => Decimal.Float64
  | float32 => UInt32

def ofValue : (g : Getter) → Value → Option g.Result
  | string => Value.string?
  | bytes => Value.bytes?
  | bool => Value.bool?
  | time => Value.time?
  | int64 => Value.asInt?
  | integer t => Value.integer? t
  | float64 => Value.asFloat?
  | float32 => Value.float32?

def read : (g : Getter) → Row → String → Option g.Result
  | string => Row.string?
  | bytes => Row.bytes?
  | bool => Row.bool?
  | time => Row.time?
  | int64 => Row.int64?
  | integer t => Row.integer? t
  | float64 => Row.float64?
  | float32 => Row.float32?

theorem read_eq (g : Getter) {r : Row} {key : String} {v : Value} (h : r.get? key = some v) :
    g.read r key = g.ofValue v := by
  cases g <;> exact congrArg (· >>= _) h

end Getter

namespace Sqlite

def restored : Value → Value
  | .bool b => .int (if b then 1 else 0)
  | .timestamp t => .text t.spaced
  | v => v

theorem ofParameter_eq {v : Value} (h : ∀ x, v = .float x → x.isNaN = false) :
    Cell.ofParameter v = Cell.ofValue v := by
  cases v with
  | float x =>
    have hx : ¬x.isNaN = true := by simp [h x rfl]
    exact if_neg hx
  | _ => rfl

theorem toValue_ofValue (column : Nat) (v : Value) :
    (Cell.ofValue v).toValue column = .ok (restored v) := by
  cases v with
  | text s | timestamp t =>
    simp only [Cell.ofValue, Cell.ofText, Cell.toValue, Text.decodeUtf8_encodeUtf8, restored]
  | _ => rfl

theorem ofValue_restored (v : Value) (hv : ∀ t, v = .timestamp t → t.IsShown) (g : Getter)
    {x : g.Result} (h : g.ofValue v = some x) : g.ofValue (restored v) = some x := by
  cases v with
  | bool b =>
    cases g with
    | bool =>
      cases h
      cases b <;> rfl
    | _ => cases h
  | timestamp t =>
    cases g with
    | time =>
      cases h
      exact (hv t rfl).ofText?_spaced
    | _ => cases h
  | _ => exact h

structure ReadsAs (v w : Value) : Prop where
  getter : ∀ (g : Getter) (r r' : Row) (key : String) (x : g.Result), r.get? key = some v →
    r'.get? key = some w → g.read r key = some x → g.read r' key = some x
  truth : ∀ b, v = .bool b → w = .int (if b then 1 else 0)
  time : ∀ t, v = .timestamp t → w = .text t.spaced ∧ Timestamp.ofText? t.spaced = some t

theorem readsAs_restored_iff (v : Value) :
    ReadsAs v (restored v) ↔ ∀ t, v = .timestamp t → t.IsShown := by
  constructor
  · rintro h t rfl
    have hread := (h.time t rfl).2
    rw [t.ofText?_spaced] at hread
    exact Timestamp.shown_eq_self_iff.mp (Option.some.inj hread)
  · intro hv
    constructor
    case getter =>
      intro g r r' key x hr hr' hx
      rw [g.read_eq hr] at hx
      rw [g.read_eq hr']
      exact ofValue_restored v hv g hx
    case truth =>
      rintro b rfl
      rfl
    case time =>
      rintro t rfl
      exact ⟨rfl, (hv t rfl).ofText?_spaced⟩

/-- What a getter reads from a value, it reads from what is captured once that value is stored,
unless the value is a timestamp in a leap second inside a minute, which is read as what is shown of
it. -/
theorem stored_reads_back_iff (v : Value) (hv : ∀ x, v = .float x → x.isNaN = false)
    (cells : List Cell) (column : Nat) (hcell : cells[column]? = some (Cell.ofParameter v)) :
    Cell.ofParameter v = Cell.ofValue v ∧
      ∃ w, (sourceOf cells).capture column = .ok w ∧
        (ReadsAs v w ↔ ∀ t, v = .timestamp t → t.IsShown) ∧
        ∀ t, v = .timestamp t → w = .text t.spaced ∧ Timestamp.ofText? t.spaced = some t.shown := by
  have hkept := ofParameter_eq hv
  have hcapture : (sourceOf cells).capture column = .ok (restored v) := by
    simp only [sourceOf, hcell, hkept]
    exact toValue_ofValue column v
  refine ⟨hkept, restored v, hcapture, readsAs_restored_iff v, ?_⟩
  rintro t rfl
  exact ⟨rfl, t.ofText?_spaced⟩

theorem stored_reads_back_leap_second :
    let t : Timestamp := ⟨-44, 3, 15, 23, 59, 59, 1250000000, by decide, by decide⟩
    t.IsShown ∧ ∃ w, (sourceOf [.null, Cell.ofParameter (.timestamp t)]).capture 1 = .ok w ∧
      ReadsAs (.timestamp t) w := by
  intro t
  have hshown : t.IsShown := by decide
  obtain ⟨-, w, hcapture, hreads, -⟩ := stored_reads_back_iff (.timestamp t) (by rintro x ⟨⟩)
    [.null, Cell.ofParameter (.timestamp t)] 1 rfl
  refine ⟨hshown, w, hcapture, hreads.mpr ?_⟩
  rintro t' ⟨⟩
  exact hshown

/-- A leap second inside a minute is stored as the next second, and read back as that. -/
theorem leap_second_read_as_next :
    let t : Timestamp := ⟨2015, 6, 30, 23, 56, 4, 1333333333, by decide, by decide⟩
    let next : Timestamp := ⟨2015, 6, 30, 23, 56, 5, 333333333, by decide, by decide⟩
    (sourceOf [Cell.ofParameter (.timestamp t)]).capture 0 =
        .ok (.text "2015-06-30 23:56:05.333333333") ∧
      t.spaced = "2015-06-30 23:56:05.333333333" ∧
      Timestamp.ofText? t.spaced = some next ∧ t ≠ next ∧
      ¬ReadsAs (.timestamp t) (.text "2015-06-30 23:56:05.333333333") := by
  intro t next
  have hspaced : t.spaced = "2015-06-30 23:56:05.333333333" := by decide +kernel
  have hrestored : restored (.timestamp t) = .text "2015-06-30 23:56:05.333333333" :=
    congrArg Value.text hspaced
  refine ⟨?_, hspaced, ?_, by decide, ?_⟩
  · rw [← hrestored]
    exact toValue_ofValue 0 (.timestamp t)
  · rw [t.ofText?_spaced]
    decide
  · rw [← hrestored, readsAs_restored_iff]
    exact fun h => absurd (h t rfl) (by decide)

end Sqlite

end UnitOfWork
