import MysqlRs.Pool.Sessions
import MysqlRs.Pool.Handing
import MysqlRs.Session.CaughtUp

namespace MySQL.Pool

variable {config : PoolConfig} {labels : List (Label Tokio.Connection)}

namespace State

variable [Libraries]

-- A connection that is established has nothing outstanding. A connection that is returned is rolled back as the
-- code does it, and the server answers.
def Serves (s : State Tokio.Connection) : Label Tokio.Connection → Prop
  | .connected (.ok c)   => c.CaughtUp
  | .rolledBack (.ok c') => ∀ conn createdAt, s.phase = .rollingBack conn createdAt →
    conn.conn.rollbackDirtyTransaction = .ok () c' ∧ (conn.conn.asks = true → conn.conn.Answers "ROLLBACK".toList)
  | _                    => True

-- A connection that is returned has nothing outstanding, or knows of it and is rolled back.
def GivesBack (config : PoolConfig) (s : State Tokio.Connection) : Label Tokio.Connection → Prop
  | .drop id => ∀ pooled, lookup id s.lent = some pooled → Link.isOpen pooled.conn.conn → s.hasRoom config →
    pooled.conn.conn.Restorable
  | _        => True

theorem Serves.vets {s : State Tokio.Connection} {label : Label Tokio.Connection} (hs : s.Serves label)
    (hg : s.GivesBack config label) : s.Vets Tokio.Connection.CaughtUp Tokio.Connection.Restorable config label := by
  cases label
  case connected result =>
    cases result
    case ok    => exact hs
    case error => trivial
  case rolledBack result =>
    cases result
    case error => trivial
    case ok c' =>
      intro conn createdAt hp hr
      have ⟨hrb, ha⟩ := hs conn createdAt hp
      exact hr.rolledBack ha hrb
  case drop => exact hg
  all_goals trivial

end State

variable [Libraries] {s s' : State Tokio.Connection}

-- As long as nothing is returned that is unknown to the connection, whoever is handed a connection gets the answers
-- to its own commands, whatever the borrowers do and wherever they give up.
theorem handsOut_unmixed (hs : Started config s) (hi : ∀ c ∈ s.manager.idle, c.conn.conn.CaughtUp)
    (hh : Along (State.step config) State.Serves s labels) (hg : Along (State.step config) (State.GivesBack config) s labels)
    (hr : Runs (State.step config) s labels s') : ∀ c, s'.HandsOut c → c.Unmixed := by
  rintro _ ⟨id, conn, hl, rfl⟩
  have hv := (along_and.mpr ⟨hh, hg⟩).imp (I := fun _ => True) (fun _ _ _ _ _ _ => trivial)
    (fun _ _ _ h => State.Serves.vets h.left h.right) trivial
  have hvetted := State.Vetted.run (hs.vetted hi) hv hr
  exact (hvetted.replies id conn (mem_of_lookup hl)).unmixed

section Examples

open Libraries Tokio Tokio.Connection

omit [Libraries]

-- A connection is established and lent.
def lending (k : Tokio.Connection) : List (Label Tokio.Connection) :=
  [.reserve, .sendAcquire, .receive, .connected (.ok k), .collect 0]

def borrowed (k : Tokio.Connection) : State Tokio.Connection :=
  { empty with manager := ⟨[], 1⟩, issued := 1, lent := [(0, ⟨⟨k, 0⟩, 0⟩)] }

theorem lending_runs (k : Tokio.Connection) : Runs (State.step single) empty (lending k) (borrowed k) :=
  .cons rfl <| .cons rfl <| .cons rfl <| .cons rfl <| .cons rfl <| .nil _

theorem borrowed_atRest (k : Tokio.Connection) : (borrowed k).AtRest :=
  ⟨rfl, rfl, rfl⟩

theorem borrowed_lookup (k : Tokio.Connection) : lookup 0 (borrowed k).lent = some ⟨⟨k, 0⟩, 0⟩ :=
  rfl

-- A transaction has been dropped.
def stranded : Tokio.Connection :=
  { established [rollbackExchange.pieces.map .ok] with transactionDirty := true }

-- What is handed out next has been rolled back.
theorem stranded_unmixed :
    ∃ k s', let labels := lending (established [rollbackExchange.pieces.map .ok]) ++
        ([.use 0 stranded, .drop 0, .receive] ++ [.rolledBack (.ok k), .reserve, .sendAcquire, .receive])
      Runs (State.step single) empty labels s' ∧ s'.HandsOut k ∧ @Unmixed utf8Only k := by
  let := utf8Only
  have hx : rollbackExchange.Orderly (16 * 1024 * 1024) :=
    Exchange.inTwo_orderly 1 (by decide) (by decide) (by decide) (by decide)
  have fresh := established_ready [rollbackExchange.pieces.map .ok]
  have ready : stranded.Ready := fresh.withDirty true
  obtain ⟨n, c, hq, hf, _⟩ := ready.query_ok rfl rfl hx.cut
  have ready₂ := hf.ready.withDirty false
  have hrb : rollbackDirtyTransaction stranded = .ok () { c with transactionDirty := false } := by
    have hd : (stranded.transactionDirty || stranded.inTransaction) = true := rfl
    have hq : Tokio.Connection.query "ROLLBACK".toList false stranded = .ok n c := hq
    simp only [rollbackDirtyTransaction, Proc.bind_apply, Proc.get_apply, Outcome.bind_ok, hd, if_true, hq,
      Proc.modify_apply]
  -- The run, up to the rollback and from there on.
  have started := lending_runs (established [rollbackExchange.pieces.map .ok])
  have rest := borrowed_atRest (established [rollbackExchange.pieces.map .ok])
  have dropped := rest.drop single (k := stranded) Nat.one_pos (borrowed_lookup _) (congrArg (!·) ready.open_)
  have ho : Link.isOpen ({ c with transactionDirty := false } : Tokio.Connection) := congrArg (!·) ready₂.open_
  have hqueues := reaches_queues empty_started (started.append dropped)
  obtain ⟨s', handed, hout⟩ := State.handsOut_next single hqueues rfl rfl rfl Nat.one_pos (by decide)
    (by decide) ho
  have hrun := started.append (dropped.append handed)
  refine ⟨_, s', hrun, hout, handsOut_unmixed empty_started (List.forall_mem_nil _) ?_ ?_ hrun _ hout⟩
  case refine_1 =>
    refine .append started ?_ (.append dropped ?_ ?_)
    · exact .cons rfl trivial <| .cons rfl trivial <| .cons rfl trivial <| .cons rfl fresh.caughtUp <|
        .cons rfl trivial trivial
    · exact .of_forall (by simp [State.Serves])
    · refine ⟨?_, fun _ _ => .of_forall (by simp [State.Serves])⟩
      rintro _ _ ⟨⟩
      exact ⟨hrb, fun _ => ⟨fun _ => ⟨_, _, hx, rfl⟩, by rintro ⟨⟩⟩⟩
  case refine_2 =>
    refine .append started (.of_forall (by simp [lending, State.GivesBack])) (.append dropped ?_ ?_)
    · refine ⟨trivial, fun _ hu => ⟨?_, fun _ _ => .of_forall (by simp [State.GivesBack])⟩⟩
      rintro _ hl - -
      obtain rfl := Option.some.inj hu
      obtain rfl := Option.some.inj hl
      exact .inl ready.caughtUp
    · exact .of_forall (by simp [State.GivesBack])

end Examples
end MySQL.Pool
