import MysqlRs.Pool.Lifetime
import MysqlRs.Session.Transactions

namespace MySQL.Pool

-- A connection, and whether the server has a transaction open on it.
structure Served where
  client : Tokio.Connection
  opened : Bool

instance : Link Served where
  isOpen k := Tokio.Connection.isOpen k.client

namespace Served

def asks (k : Served) : Bool :=
  k.client.transactionDirty || k.client.inTransaction

-- A transaction that is open shows on the connection.
def Known (k : Served) : Prop :=
  k.opened = true → k.asks = true

variable [Libraries] {k k' : Served}

end Served

variable [Libraries] {config : PoolConfig} {s s' : State Served} {label : Label Served} {labels : List (Label Served)}

namespace State

-- What is stored next has been known.
def Knows (config : PoolConfig) (s : State Served) : Label Served → Prop
  | .rolledBack (.ok _) => ∀ conn createdAt, s.phase = .rollingBack conn createdAt →
    s.now - createdAt < config.maxLifetime → conn.conn.Known
  | _                   => True

end State

section Examples

open Libraries Server Tokio Tokio.Connection

abbrev vacant : State Served :=
  .initial ⟨[], 0⟩ 0

def returned (k : Served) : State Served :=
  { vacant with manager := ⟨[], 1⟩, issued := 1, queue := [.return_ ⟨k, 0⟩ 0] }

def rolling (k : Served) : State Served :=
  { vacant with issued := 1, phase := .rollingBack ⟨k, 0⟩ 0 }

def stored (k : Served) : State Served :=
  { vacant with manager := ⟨[⟨⟨k, 0⟩, 0, 0⟩], 0⟩, issued := 1 }

def insert : Text :=
  "INSERT INTO t VALUES (1)".toList

end Examples
end MySQL.Pool
