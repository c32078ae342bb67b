import UnitOfWork.Row.Getters
import UnitOfWork.Row.Reading
import UnitOfWork.Value.Display

namespace UnitOfWork

def Row.missingField (r : Row) (entity column : String) : Failure :=
  let start := "failed to get " ++ column ++ " for " ++ entity ++ ": "
  match r.get? column with
  | some v => .mapping (start ++ "invalid " ++ v.kind.name ++ " value: " ++ v.display)
  | none => .mapping (start ++ "missing")

def Row.field {α : Type} (r : Row) (entity : String) (get : Row → String → Option α)
    (column : String) : Except Failure α :=
  match get r column with
  | some a => .ok a
  | none => .error (r.missingField entity column)

structure Message where
  id : String
  text : String
  pinned : Bool
  postedAt : Timestamp

namespace Message

def ofRow (entity : String) (r : Row) : Except Failure Message := do
  let id ← r.field entity Row.string? "id"
  let text ← r.field entity Row.string? "text"
  let pinned ← r.field entity Row.bool? "pinned"
  let postedAt ← r.field entity Row.time? "posted_at"
  return ⟨id, text, pinned, postedAt⟩

def toRow (m : Message) : Row :=
  .ofList [("id", .text m.id), ("text", .text m.text), ("pinned", .bool m.pinned),
    ("posted_at", .timestamp m.postedAt)]

end Message

end UnitOfWork
