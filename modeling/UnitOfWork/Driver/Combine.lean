import UnitOfWork.Driver

namespace UnitOfWork.Driver

variable {α β σ τ : Type}

def either (A : Driver α σ) (B : Driver β τ) : Driver (α ⊕ β) (σ ⊕ τ) where
  database
    | .inl a, i => A.database a i
    | .inr b, i => B.database b i
  dialect
    | .inl a, i => A.dialect a i
    | .inr b, i => B.dialect b i
  beginDelay
    | .inl a, i => A.beginDelay a i
    | .inr b, i => B.beginDelay b i
  begin
    | .inl a, i => ((A.begin a i).1.map .inl, (A.begin a i).2.1, .inl (A.begin a i).2.2)
    | .inr b, i => ((B.begin b i).1.map .inr, (B.begin b i).2.1, .inr (B.begin b i).2.2)
  delay
    | .inl a, .inl s => A.delay a s
    | .inr b, .inr t => B.delay b t
    | _, _ => 0
  run
    | .inl a, .inl s, c, st => ((A.run a s c st).1, .inl (A.run a s c st).2)
    | .inr b, .inr t, c, st => ((B.run b t c st).1, .inr (B.run b t c st).2)
    | d, _, _, _ => (.error .transactionClosed, d)
  commit
    | .inl a, .inl s => ((A.commit a s).1, .inl (A.commit a s).2)
    | .inr b, .inr t => ((B.commit b t).1, .inr (B.commit b t).2)
    | d, _ => (.error .transactionClosed, d)
  rollback
    | .inl a, .inl s => ((A.rollback a s).1, .inl (A.rollback a s).2)
    | .inr b, .inr t => ((B.rollback b t).1, .inr (B.rollback b t).2)
    | d, _ => (.error .transactionClosed, d)
  release
    | .inl a, .inl s, runtime => ((A.release a s runtime).1, .inl (A.release a s runtime).2)
    | .inr b, .inr t, runtime => ((B.release b t runtime).1, .inr (B.release b t runtime).2)
    | d, _, _ => ([], d)
  close
    | .inl a, i => .inl (A.close a i)
    | .inr b, i => .inr (B.close b i)

def numbered (A : Driver α σ) : Driver (List α) (Nat × σ) where
  database ds i := (ds[i]?.map fun a => A.database a 0).getD .recording
  dialect ds i := (ds[i]?.map fun a => A.dialect a 0).getD .default
  beginDelay ds i := (ds[i]?.map fun a => A.beginDelay a 0).getD 0
  begin ds i :=
    match ds[i]? with
    | none => (.error .transactionClosed, [], ds)
    | some a =>
      let r := A.begin a 0
      (r.1.map fun s => (i, s), r.2.1, ds.set i r.2.2)
  delay ds s := (ds[s.1]?.map fun a => A.delay a s.2).getD 0
  run ds s c st :=
    match ds[s.1]? with
    | none => (.error .transactionClosed, ds)
    | some a =>
      let r := A.run a s.2 c st
      (r.1, ds.set s.1 r.2)
  commit ds s :=
    match ds[s.1]? with
    | none => (.error .transactionClosed, ds)
    | some a =>
      let r := A.commit a s.2
      (r.1, ds.set s.1 r.2)
  rollback ds s :=
    match ds[s.1]? with
    | none => (.error .transactionClosed, ds)
    | some a =>
      let r := A.rollback a s.2
      (r.1, ds.set s.1 r.2)
  release ds s runtime :=
    match ds[s.1]? with
    | none => ([], ds)
    | some a =>
      let r := A.release a s.2 runtime
      (r.1, ds.set s.1 r.2)
  close ds i := ds.modify i fun a => A.close a 0

end UnitOfWork.Driver
