import UnitOfWork.Entity
import UnitOfWork.Stage
import UnitOfWork.Proofs.Scene
import UnitOfWork.Proofs.Driver.Traced
import UnitOfWork.Proofs.LinearUse
import UnitOfWork.Proofs.Cleanup
import UnitOfWork.Proofs.Timeline
import UnitOfWork.Proofs.UnitTree
import UnitOfWork.Proofs.Pool
import UnitOfWork.Proofs.Postgres.Blocks
import UnitOfWork.Proofs.Postgres.Sessions
import UnitOfWork.Proofs.Postgres.Outcome
import UnitOfWork.Proofs.AllOrNothing
import UnitOfWork.Proofs.Statement.Lockstep
import UnitOfWork.Proofs.Poison
import UnitOfWork.Proofs.Sqlite.Statements
import UnitOfWork.Proofs.Statement.Alike
import UnitOfWork.Proofs.Sqlite.Content
import UnitOfWork.Proofs.Sqlite.Atomicity
import UnitOfWork.Proofs.Scene.Fate
import UnitOfWork.Proofs.Scene.Passage
import UnitOfWork.Proofs.Scene.Kinship
import UnitOfWork.Proofs.Interruption
import UnitOfWork.Proofs.Levels
import UnitOfWork.Proofs.Repository
import UnitOfWork.Proofs.Driver.Plain
import UnitOfWork.Proofs.Causes
import UnitOfWork.Proofs.Calendar.RoundTrip
import UnitOfWork.Proofs.Sqlite.Storage
import UnitOfWork.Proofs.Sqlite.Agreement
import UnitOfWork.Proofs.Postgres.Mismatch
import UnitOfWork.Proofs.Precedence
import UnitOfWork.Proofs.Row.Pairs
import UnitOfWork.Proofs.Sqlite.Chronology
import UnitOfWork.Proofs.Statement.Legible
import UnitOfWork.Proofs.Statement.Partition
import UnitOfWork.Proofs.Statement.Pairing
import UnitOfWork.Proofs.Derivations
import UnitOfWork.Proofs.Row.Columns
import UnitOfWork.Proofs.Row.Limits
import UnitOfWork.Proofs.Value.Json
import UnitOfWork.Proofs.Calendar.Formats
import UnitOfWork.Proofs.Row.Integers
