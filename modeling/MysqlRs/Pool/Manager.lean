import MysqlRs.Tokio.Operations

namespace MySQL.Pool

open ClientError

-- What the pool uses of its connections. What they go through between two steps is left to their users and
-- to the server.
class Link (κ : Type) where
  isOpen : κ → Bool

instance : Link Tokio.Connection where
  isOpen := Tokio.Connection.isOpen

-- Durations are in nanoseconds, and so are instants, from some instant on.
structure PoolConfig where
  maxSize        : Nat
  minIdle        : Nat
  maxIdleTime    : Nat
  maxLifetime    : Nat
  acquireTimeout : Nat

def fromSecs (n : Nat) : Nat :=
  n * 1000000000

def PoolConfig.default : PoolConfig where
  maxSize        := 10
  minIdle        := 1
  maxIdleTime    := fromSecs 600
  maxLifetime    := fromSecs 1800
  acquireTimeout := fromSecs 30

-- The instant at which a connection was established goes with it. The pool does not have it: it has the
-- instants `createdAt` that it keeps itself.
structure Dated (κ : Type) where
  conn        : κ
  established : Nat

structure IdleConnection (κ : Type) where
  conn      : Dated κ
  createdAt : Nat
  idleSince : Nat

-- `idle` has the connection first that would be popped first.
structure PoolManager (κ : Type) where
  idle        : List (IdleConnection κ)
  activeCount : Nat

def sizeZero : Error :=
  .programmingError CR_UNKNOWN_ERROR "max_size must be greater than 0"

def minIdleTooLarge : Error :=
  .programmingError CR_UNKNOWN_ERROR "min_idle must not exceed max_size"

def poolExhausted : Error :=
  .operationalError CR_CONN_HOST_ERROR "Connection pool exhausted"

variable {κ : Type}

-- The connections that are established in advance, from the attempts to do so and the instants at which
-- those came to their ends.
def connectIdle (idle : List (IdleConnection κ)) : List (Except Error κ × Nat) → Except Error (List (IdleConnection κ))
  | []                     => .ok idle
  | (.error e, _) :: _     => .error e
  | (.ok conn, t) :: rest  => connectIdle (⟨⟨conn, t⟩, t, t⟩ :: idle) rest

-- `connects` are the attempts that `start` makes, up to the first failure.
def start (config : PoolConfig) (connects : List (Except Error κ × Nat)) : Except Error (PoolManager κ) := do
  if config.maxSize = 0 then .error sizeZero
  if config.maxSize < config.minIdle then .error minIdleTooLarge
  let idle ← connectIdle [] (connects.take config.minIdle)
  return { idle, activeCount := 0 }

section Handlers

variable [Link κ] (config : PoolConfig) (now : Nat)

def isHealthy (idleConn : IdleConnection κ) : Bool :=
  if !Link.isOpen idleConn.conn.conn then false
  else if config.maxLifetime ≤ now - idleConn.createdAt then false
  else if config.maxIdleTime ≤ now - idleConn.idleSince then false
  else true

-- Pops connections until one is healthy.
def popHealthy : List (IdleConnection κ) → Option (Dated κ) × List (IdleConnection κ)
  | []               => (none, [])
  | idleConn :: idle =>
    if isHealthy config now idleConn then (some idleConn.conn, idle) else popHealthy idle

-- What `handle_acquire` comes to before it waits for anything: a reply, or an attempt to connect.
inductive Answer (κ : Type)
  | reply (result : Except Error (Dated κ))
  | connect

def handleAcquire (manager : PoolManager κ) : Answer κ × PoolManager κ :=
  match popHealthy config now manager.idle with
  | (some conn, idle) => (.reply (.ok conn), { manager with idle, activeCount := manager.activeCount + 1 })
  | (none, idle)      =>
    if manager.activeCount < config.maxSize then
      (.connect, { manager with idle, activeCount := manager.activeCount + 1 })
    else
      (.reply (.error poolExhausted), { manager with idle })

-- `handle_return` up to the point where it checks the connection.
def handleReturn (manager : PoolManager κ) : PoolManager κ :=
  { manager with activeCount := manager.activeCount - 1 }

-- The end of `handle_return`, when the connection has been rolled back.
def returnIdle (conn : Dated κ) (createdAt : Nat) (manager : PoolManager κ) : PoolManager κ :=
  if config.maxLifetime ≤ now - createdAt then manager
  else { manager with idle := ⟨conn, createdAt, now⟩ :: manager.idle }

def evictExpired (manager : PoolManager κ) : PoolManager κ :=
  {
    manager with
    idle := manager.idle.filter fun idleConn =>
      let idleExpired := config.maxIdleTime ≤ now - idleConn.idleSince
      let lifetimeExpired := config.maxLifetime ≤ now - idleConn.createdAt
      !idleExpired && !lifetimeExpired
  }

end Handlers
end MySQL.Pool
