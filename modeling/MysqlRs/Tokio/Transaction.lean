import MysqlRs.Tokio.Operations

namespace MySQL.Tokio

open ClientError

inductive IsolationLevel
  | readUncommitted
  | readCommitted
  | repeatableRead
  | serializable

def IsolationLevel.asSql : IsolationLevel → Text
  | readUncommitted => "READ UNCOMMITTED".toList
  | readCommitted   => "READ COMMITTED".toList
  | repeatableRead  => "REPEATABLE READ".toList
  | serializable    => "SERIALIZABLE".toList

structure TxOptions where
  isolationLevel : Option IsolationLevel := none
  readOnly       : Bool := false

-- The guard has the connection to itself for as long as it exists.
structure Transaction where
  conn     : Connection
  finished : Bool

def Connection.markTransactionDirty (c : Connection) : Connection :=
  { c with transactionDirty := true }

namespace Transaction

def COMMIT : Text :=
  "COMMIT".toList

def ROLLBACK : Text :=
  "ROLLBACK".toList

def setIsolationLevel (level : IsolationLevel) : Text :=
  "SET TRANSACTION ISOLATION LEVEL ".toList ++ level.asSql

def startTransaction (readOnly : Bool) : Text :=
  if readOnly then "START TRANSACTION READ ONLY".toList else "START TRANSACTION".toList

def alreadyInOne : Error :=
  .programmingError CR_COMMANDS_OUT_OF_SYNC "Cannot begin a transaction while already in one"

def drop (t : Transaction) : Connection :=
  if t.finished then t.conn else t.conn.markTransactionDirty

variable [Libraries]

-- Where this succeeds, there is a guard with `finished = false`.
def beginWith (options : TxOptions) : Proc Error Connection Unit := do
  Connection.rollbackDirtyTransaction
  if (← get).inTransaction then
    Proc.throw alreadyInOne
  match options.isolationLevel with
  | some level =>
    let _ ← Connection.query (setIsolationLevel level) false
  | none       => pure ()
  let _ ← Connection.query (startTransaction options.readOnly) false

def begin : Proc Error Connection Unit :=
  beginWith {}

def onConn {α : Type} (x : Proc Error Connection α) : Proc Error Transaction α :=
  x.zoom conn fun c t => { t with conn := c }

def commit : Proc Error Transaction Unit := do
  modify ({ · with finished := true })
  let _ ← onConn (Connection.query COMMIT false)

def rollback : Proc Error Transaction Unit := do
  modify ({ · with finished := true })
  let _ ← onConn (Connection.query ROLLBACK false)

def execute (query : Text) (args : Option (List Value)) : Proc Error Transaction Int64 :=
  onConn (Connection.execute query args)

def query (sql : Text) (unbuffered : Bool) : Proc Error Transaction Int64 :=
  onConn (Connection.query sql unbuffered)

def savepoint (name : Text) : Proc Error Transaction Unit := do
  let _ ← query ("SAVEPOINT ".toList ++ name) false

def rollbackTo (name : Text) : Proc Error Transaction Unit := do
  let _ ← query ("ROLLBACK TO SAVEPOINT ".toList ++ name) false

def releaseSavepoint (name : Text) : Proc Error Transaction Unit := do
  let _ ← query ("RELEASE SAVEPOINT ".toList ++ name) false

end Transaction

-- What is done with a connection through its own methods and through guards on it.
inductive Act
  | begin
  | beginWith (options : TxOptions)
  | query (sql : Text) (unbuffered : Bool)
  | execute (query : Text) (args : Option (List Value))
  | savepoint (name : Text)
  | rollbackTo (name : Text)
  | releaseSavepoint (name : Text)
  | commit
  | rollback
  | drop
  | forget
  | directCommit
  | directRollback

namespace Act

variable [Libraries]

-- A guard is used, and is still there afterwards.
def guarded {α : Type} (x : Proc Error Transaction α) : Proc Error Connection Unit := do
  let _ ← x.zoom (⟨·, false⟩) fun t _ => t.conn

-- A guard is used up: it is dropped at the end.
def consumed (x : Proc Error Transaction Unit) : Proc Error Connection Unit :=
  x.zoom (⟨·, false⟩) fun t _ => t.drop

def run : Act → Proc Error Connection Unit
  | begin                 => Transaction.begin
  | beginWith options     => Transaction.beginWith options
  | query sql u           => guarded (Transaction.query sql u)
  | execute sql args      => guarded (Transaction.execute sql args)
  | savepoint name        => guarded (Transaction.savepoint name)
  | rollbackTo name       => guarded (Transaction.rollbackTo name)
  | releaseSavepoint name => guarded (Transaction.releaseSavepoint name)
  | commit                => consumed Transaction.commit
  | rollback              => consumed Transaction.rollback
  | drop                  => consumed (pure ())
  | forget                => pure ()
  | directCommit          => Connection.commit
  | directRollback        => Connection.rollback

-- Acts one after another, each awaited to its end. An error is handed to the caller, who goes on.
def runAll : List Act → Proc Error Connection Unit
  | []          => pure ()
  | act :: acts => do
    act.run.attempt
    runAll acts

variable {α : Type}

omit [Libraries] in
theorem guarded_onConn (x : Proc Error Connection α) :
    guarded (Transaction.onConn x) = (do let _ ← x) := by
  funext c
  simp only [guarded, Transaction.onConn, Proc.bind_apply, Proc.zoom_apply]
  cases x c <;> rfl

omit [Libraries] in
theorem guarded_onConn_unit (x : Proc Error Connection α) :
    guarded (do let _ ← Transaction.onConn x) = (do let _ ← x) := by
  funext c
  simp only [guarded, Transaction.onConn, Proc.bind_apply, Proc.zoom_apply]
  cases x c <;> rfl

omit [Libraries] in
-- A guard that has been committed or rolled back leaves no mark, whatever has come of it.
theorem consumed_finished (x : Proc Error Connection α) :
    consumed (do
      modify ({ · with finished := true })
      let _ ← Transaction.onConn x) = (do let _ ← x) := by
  funext c
  simp only [consumed, Transaction.onConn, Proc.bind_apply, Proc.zoom_apply, Proc.modify_apply, Outcome.bind_ok]
  cases x c <;> rfl

end Act
end MySQL.Tokio
