import MysqlRs.Session.Transactions

namespace MySQL.Tokio

open Transaction (ROLLBACK startTransaction alreadyInOne)

-- The statements that end a transaction or begin one.
def Operation.Disturbs (op : Operation) : Prop :=
  op = .query ROLLBACK false ∨ ∃ readOnly, op = .query (startTransaction readOnly) false

-- A transaction is in progress, and has not been abandoned.
structure Connection.InProgress (c : Connection) : Prop where
  transaction : c.inTransaction = true
  kept        : c.transactionDirty = false

namespace Watched

variable [Libraries] {c : Connection} {options : TxOptions}

-- `begin_with` refuses to begin a transaction, and leaves the one in progress alone.
def Spares (options : TxOptions) (c : Connection) : Prop :=
  ∃ w, beginWith options ⟨c, []⟩ = .error alreadyInOne w ∧ (∀ r ∈ w.said, ¬r.op.Disturbs) ∧
    w.conn.inTransaction = true

-- What `begin_with` does when it has asked for the transaction to be rolled back.
def afterRollback (options : TxOptions) : Proc Error Watched Unit := do
  onConn (Operation.query ROLLBACK false).run
  onConn (modify ({ · with transactionDirty := false }))
  beginClean options

-- The clean-up looks at the same status as the check behind it.
theorem beginWith_inTransaction (h : c.inTransaction = true) :
    beginWith options ⟨c, []⟩ = afterRollback options (note (.query ROLLBACK false) false ⟨c, []⟩) := by
  simp only [beginWith, rollbackDirtyTransaction, query, tell, Proc.bind_apply, Proc.get_apply, Outcome.bind_ok, h,
    Bool.or_true, if_true, Proc.modify_apply, Outcome.bind_assoc]
  rfl

theorem afterRollback_reflects (P : Nat → Remark → Prop) (options : TxOptions) :
    (afterRollback options).Reflects (Each P) :=
  .bind (onConn_reflects P _) fun _ => .bind (onConn_reflects P _) fun _ => beginClean_reflects P options

-- Whatever comes of it, `begin_with` first asks for the transaction in progress to be rolled back.
theorem begin_never_spares (h : c.InProgress) :
    (beginWith options ⟨c, []⟩).mapState conn = Transaction.beginWith options c ∧ ¬Spares options c := by
  refine ⟨beginWith_erases options ⟨c, []⟩, ?_⟩
  rintro ⟨w, hw, hsaid, _⟩
  rw [beginWith_inTransaction h.transaction] at hw
  have hnote := afterRollback_reflects (fun _ r => ¬r.op.Disturbs) options (note (.query ROLLBACK false) false ⟨c, []⟩) <| by
    rw [hw]
    exact fun k r hk => hsaid r (List.mem_of_getElem? hk)
  exact (each_note.mp hnote).right (.inl rfl)

end Watched

section Examples

open Libraries Tokio.Connection Watched

theorem begin_never_spares_readOnly :
    let := utf8Only
    let c := { established [] with inner.serverStatus := 3 }
    (Watched.beginWith { readOnly := true } ⟨c, []⟩).mapState conn = Transaction.beginWith { readOnly := true } c ∧
      ¬Spares { readOnly := true } c := by
  let := utf8Only
  exact begin_never_spares ⟨by decide, rfl⟩

theorem Connection.Ready.withStatus {c : Connection} (h : c.Ready) (status : UInt16) :
    Ready { c with inner.serverStatus := status } where
  open_    := h.open_
  sent     := h.sent
  stream   := h.stream
  idle     := h.idle
  incoming := h.incoming
  result   := h.result

-- The server answers two statements. A transaction has been opened by a statement with autocommit turned off.
def implicitly : Connection :=
  { established ([rollbackExchange, startExchange].map (·.pieces.map .ok)) with inner.serverStatus := 1 }

-- The transaction is rolled back, another one is begun, and all of it is a success.
theorem begin_rolls_back :
    let := utf8Only
    implicitly.InProgress ∧ ¬Spares {} implicitly ∧ ∃ c, Transaction.begin implicitly = .ok () c ∧
      ∃ w, Watched.beginWith {} ⟨implicitly, []⟩ = .ok () w ∧
        w.said.map (·.op) = [.query ROLLBACK false, .query (startTransaction false) false] := by
  intro this
  have hs : startExchange.Orderly (16 * 1024 * 1024) :=
    Exchange.inTwo_orderly 1 (by decide) (by decide) (by decide) (by decide)
  have hr : rollbackExchange.Orderly (16 * 1024 * 1024) :=
    Exchange.inTwo_orderly 1 (by decide) (by decide) (by decide) (by decide)
  have ready : implicitly.Ready := (established_ready _).withStatus 1
  obtain ⟨n₁, c₁, q₁, f₁, s₁⟩ := ready.query_ok rfl rfl hr.cut
  have ready₁ := f₁.ready.withDirty false
  have a₁ : c₁.answers = [startExchange].map (·.pieces.map .ok) := f₁.answers
  have m₁ : c₁.inner.packetStream.maxAllowedPacket = 16 * 1024 * 1024 := f₁.alike.max
  obtain ⟨n₂, c₂, q₂, _⟩ := ready₁.query_ok rfl (congrArg List.head? a₁) (m₁.symm ▸ hs.cut)
  let start := Operation.query (startTransaction false) false
  let w₁ : Watched := ⟨{ c₁ with transactionDirty := false }, [⟨implicitly, .query ROLLBACK false, false⟩]⟩
  let w₂ : Watched := ⟨c₂, w₁.said ++ [⟨w₁.conn, start, true⟩]⟩
  have open₀ : implicitly.inTransaction = true := by decide
  have clean : Watched.rollbackDirtyTransaction ⟨implicitly, []⟩ = .ok () w₁ := rollbackDirtyTransaction_query open₀ q₁
  have begun₁ : beginClean {} w₁ = .ok () w₂ := beginClean_query ((inTransaction_eq s₁).trans (by decide)) q₂
  have hrun : Watched.beginWith {} ⟨implicitly, []⟩ = .ok () w₂ := by
    rw [Watched.beginWith, Proc.bind_apply, clean, Outcome.bind_ok, begun₁]
  refine ⟨⟨open₀, rfl⟩, ?_, c₂, ?_, w₂, hrun, rfl⟩
  · rintro ⟨w, hw, _⟩
    cases hrun.symm.trans hw
  · rw [Transaction.begin, ← beginWith_erases {} ⟨implicitly, []⟩, hrun]
    rfl

end Examples
end MySQL.Tokio
