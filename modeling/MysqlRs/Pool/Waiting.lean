import MysqlRs.Pool.Lifetime

namespace MySQL.Pool

variable {κ : Type} [Link κ] {config : PoolConfig} {s s' : State κ} {labels : List (Label κ)}

-- An acquirer whose request is processed now is not refused.
def State.Waits (config : PoolConfig) (s : State κ) : Prop :=
  ∀ e, (handleAcquire config s.now s.manager).1 ≠ .reply (.error e)

omit [Link κ] in
-- When all connections are lent, none is idle, and the count says so.
theorem State.full (hs : s.ledger.Sound config.maxSize) (hl : s.lent.length = config.maxSize) :
    s.manager.idle = [] ∧ s.manager.activeCount = config.maxSize := by
  have ⟨hc, hw⟩ := hs
  have hl' : s.lent.length ≤ s.ledger.circulating := by
    simp only [ledger, circulating]
    omega
  have hi : s.ledger.idle = 0 := by omega
  have ha : s.ledger.active = config.maxSize := by omega
  exact ⟨List.length_eq_zero_iff.mp hi, ha⟩

theorem handleAcquire_full (hs : s.ledger.Sound config.maxSize) (hl : s.lent.length = config.maxSize) :
    handleAcquire config s.now s.manager = (.reply (.error poolExhausted), s.manager) := by
  have ⟨hi, ha⟩ := State.full hs hl
  simp only [handleAcquire, hi, popHealthy, ha, Nat.lt_irrefl, if_false]
  rw [← hi, ← ha]

-- Whoever asks for a connection when all of them are lent is refused at once.
theorem refused_when_full (hs : Started config s) (hr : Runs (State.step config) s labels s')
    (hl : s'.lent.length = config.maxSize) :
    ¬s'.Waits config ∧
      ∀ id queue, s'.phase = .receiving → s'.queue = .acquire id :: queue → id ∈ s'.waiting →
        s'.step config .receive = some { s' with queue, replies := s'.replies ++ [(id, .error poolExhausted)] } := by
  have ha := handleAcquire_full (hs.reaches_sound hr) hl
  refine ⟨fun h => h poolExhausted (congrArg Prod.fst ha), fun id queue hp hq hw => ?_⟩
  simp only [State.step, hp, hq, State.receive, ha, State.reply, hw, if_true]

section Examples

abbrev askAgain : List (Label Tokio.Connection) :=
  borrow ++ [.reserve, .sendAcquire]

theorem askAgain_refused :
    ∃ s', Runs (State.step single) empty askAgain s' ∧ s'.lent.length = 1 ∧ s'.queue = [.acquire 1] ∧ ¬s'.Waits single :=
  have hr := .cons rfl <| .cons rfl <| .cons rfl <| .cons rfl <| .cons rfl <| .cons rfl <| .cons rfl <| .nil _
  ⟨_, hr, rfl, rfl, (refused_when_full empty_started hr rfl).left⟩

-- The second acquirer has its answer before the first has returned its connection.
theorem askAgain_fails :
    Started single empty ∧ ∃ s', Runs (State.step single) empty (askAgain ++ [.receive]) s' ∧
      s'.lent.length = single.maxSize ∧ s'.now = 0 ∧ s'.replies = [(1, .error poolExhausted)] :=
  ⟨empty_started, _, .cons rfl <| .cons rfl <| .cons rfl <| .cons rfl <| .cons rfl <| .cons rfl <| .cons rfl <|
    .cons rfl <| .nil _, rfl, rfl, rfl⟩

end Examples
end MySQL.Pool
