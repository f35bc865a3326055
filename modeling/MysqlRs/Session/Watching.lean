import MysqlRs.Library.Histories
import MysqlRs.Session.Operations
import MysqlRs.Tokio.Transaction

namespace MySQL.Tokio

open Transaction (COMMIT ROLLBACK setIsolationLevel startTransaction alreadyInOne)

-- A statement that is about to be sent, and whether it is the one that begins a transaction in `begin_with`.
structure Remark where
  conn   : Connection
  op     : Operation
  starts : Bool

-- A connection with everything that has been said on it.
structure Watched where
  conn : Connection
  said : List Remark

namespace Watched

def note (op : Operation) (starts : Bool) (w : Watched) : Watched :=
  { w with said := w.said ++ [⟨w.conn, op, starts⟩] }

def onConn {α : Type} (x : Proc Error Connection α) : Proc Error Watched α :=
  x.zoom conn fun c w => { w with conn := c }

variable [Libraries]

def tell (op : Operation) (starts : Bool) : Proc Error Watched Unit := do
  modify (note op starts)
  onConn op.run

def query (sql : Text) : Proc Error Watched Unit :=
  tell (.query sql false) false

def rollbackDirtyTransaction : Proc Error Watched Unit := do
  let c := (← get).conn
  if c.transactionDirty || c.inTransaction then
    query ROLLBACK
    onConn (modify ({ · with transactionDirty := false }))

-- What `begin_with` does when an abandoned transaction has been dealt with.
def beginClean (options : TxOptions) : Proc Error Watched Unit := do
  if (← get).conn.inTransaction then
    Proc.throw alreadyInOne
  match options.isolationLevel with
  | some level => query (setIsolationLevel level)
  | none       => pure ()
  tell (.query (startTransaction options.readOnly) false) true

def beginWith (options : TxOptions) : Proc Error Watched Unit := do
  rollbackDirtyTransaction
  beginClean options

def execute (sql : Text) (args : Option (List Value)) : Proc Error Watched Unit := do
  let sql ← Proc.ofExcept ((← get).conn.mogrify sql args)
  query sql

def act : Act → Proc Error Watched Unit
  | .begin                 => beginWith {}
  | .beginWith options     => beginWith options
  | .query sql u           => tell (.query sql u) false
  | .execute sql args      => execute sql args
  | .savepoint name        => query ("SAVEPOINT ".toList ++ name)
  | .rollbackTo name       => query ("ROLLBACK TO SAVEPOINT ".toList ++ name)
  | .releaseSavepoint name => query ("RELEASE SAVEPOINT ".toList ++ name)
  | .commit                => query COMMIT
  | .rollback              => query ROLLBACK
  | .drop                  => onConn (modify Connection.markTransactionDirty)
  | .forget                => pure ()
  | .directCommit          => tell .commit false
  | .directRollback        => tell .rollback false

def actAll : List Act → Proc Error Watched Unit
  | []          => pure ()
  | a :: rest => do
    (act a).attempt
    actAll rest

section Erasure

open Proc (Erases)

variable {α : Type}

omit [Libraries] in
theorem onConn_erases (x : Proc Error Connection α) : (onConn x).Erases conn x := by
  intro w
  rw [onConn, Proc.zoom_apply]
  cases x w.conn <;> rfl

theorem tell_erases (op : Operation) (starts : Bool) : (tell op starts).Erases conn op.run :=
  .skip (fun _ => ⟨(), _, rfl, rfl⟩) fun _ => onConn_erases _

-- The count of the affected rows is not used.
theorem query_erases (sql : Text) {x : Proc Error Watched α} {y : Proc Error Connection α} (h : x.Erases conn y) :
    (query sql >>= fun _ => x).Erases conn (Connection.query sql false >>= fun _ => y) := by
  have hq : (Connection.query sql false >>= fun _ => y) = (Operation.query sql false).run >>= fun _ => y := by
    funext c
    simp only [Operation.run, Proc.bind_apply, Outcome.bind_assoc]
    rfl
  exact hq ▸ .bind (tell_erases _ _) fun _ => h

theorem rollbackDirtyTransaction_erases :
    rollbackDirtyTransaction.Erases conn Connection.rollbackDirtyTransaction := by
  intro w
  exact Erases.ite (query_erases ROLLBACK (onConn_erases _)) (.pure ()) w

theorem beginWith_erases (options : TxOptions) : (beginWith options).Erases conn (Transaction.beginWith options) := by
  obtain ⟨level, readOnly⟩ := options
  refine .bind rollbackDirtyTransaction_erases fun _ => ?_
  have hs := tell_erases (.query (startTransaction readOnly) false) true
  intro w
  cases level
  case none => exact Erases.ite (.bind (.throw alreadyInOne) fun _ => hs) hs w
  case some level =>
    have hl := query_erases (setIsolationLevel level) hs
    exact Erases.ite (.bind (.throw alreadyInOne) fun _ => hl) hl w

-- What the guards do is a query on the connection.
theorem tell_erases_of {x : Proc Error Connection Unit} {sql : Text} {u : Bool}
    (h : x = do let _ ← Connection.query sql u) : (tell (.query sql u) false).Erases conn x :=
  h ▸ tell_erases _ _

theorem execute_erases (sql : Text) (args : Option (List Value)) :
    (execute sql args).Erases conn (do let _ ← Connection.execute sql args) := by
  intro w
  rw [execute, Connection.execute]
  simp only [Proc.bind_apply, Proc.get_apply, Outcome.bind_ok]
  cases w.conn.mogrify sql args
  case error e => rfl
  case ok sql  => exact tell_erases (.query sql false) false w

theorem act_erases (a : Act) : (act a).Erases conn a.run := by
  cases a
  case begin          => exact beginWith_erases {}
  case beginWith      => exact beginWith_erases _
  case execute        =>
    rw [Act.run, Transaction.execute, Act.guarded_onConn]
    exact execute_erases _ _
  case query          => exact tell_erases_of (Act.guarded_onConn _)
  case commit         => exact tell_erases_of (Act.consumed_finished _)
  case rollback       => exact tell_erases_of (Act.consumed_finished _)
  case drop           => exact onConn_erases _
  case forget         => exact .pure ()
  case directCommit   => exact tell_erases .commit false
  case directRollback => exact tell_erases .rollback false
  all_goals exact tell_erases_of (Act.guarded_onConn_unit _)

-- Watching changes nothing about a run.
theorem actAll_erases (acts : List Act) : (actAll acts).Erases conn (Act.runAll acts) := by
  induction acts
  case nil            => exact .pure ()
  case cons a acts ih => exact .bind (.attempt (act_erases a)) fun _ => ih

end Erasure
end Watched
end MySQL.Tokio
