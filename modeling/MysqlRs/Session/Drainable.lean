import MysqlRs.Core.Commands
import MysqlRs.Framing.Compression

namespace MySQL.Connection

open Command MySQLResult

-- These packets have been received.
def holding (c : Connection) (queue : List MysqlPacket) : Connection :=
  c.setStream { c.packetStream with recvQueue := queue }

-- What has been received is handed over like a list.
theorem holding_holds (c : Connection) : received.Holds c.holding id .needMoreData where
  next _ _ := rfl
  nil      := rfl

variable [Libraries]

-- These packets hold the results that follow one another, up to one that announces no other.
inductive Finishes (feed : MysqlPacket → Proc Error MySQLResult (Option Int64)) : List MysqlPacket → Prop
  | last {queue n rest r} :
    Source.feedList feed queue {} = .ok (some (n, rest)) r → r.hasNext = false → Finishes feed queue
  | next {queue n rest r} :
    Source.feedList feed queue {} = .ok (some (n, rest)) r → r.hasNext = true → Finishes feed rest →
    Finishes feed queue

section Results

variable {c c' : Connection} {queue : List MysqlPacket}

-- What is left when a result that follows has been taken.
def passed (c : Connection) (n : Int64) (r : MySQLResult) : Connection :=
  { c with serverStatus := r.serverStatus.getD c.serverStatus, affectedRows := n, result := none }

theorem receivedResults_eq (hr : c.result = none) :
    receivedResults.next c =
      (received.feedLocal feedStep {} c).bind fun x c' => .ok (some x.2) (c'.passed x.1 x.2) := by
  obtain ⟨⟩ := c
  obtain rfl := hr
  simp only [receivedResults, nextResult, readQueryResult, Proc.bind_apply, Proc.get_apply, Proc.modify_apply,
    Outcome.bind_ok, Outcome.bind_assoc]
  rfl

theorem receivedResults_eq_ok {x : Option MySQLResult} (hr : c.result = none) :
    receivedResults.next (c.holding queue) = .ok x c' ↔
      ∃ n rest r, Source.feedList (feedStep · c) queue {} = .ok (some (n, rest)) r ∧ x = some r ∧
        c' = (c.passed n r).holding rest := by
  have feed {n : Int64} {r : MySQLResult} {c₁ : Connection} :
      received.feedLocal feedStep {} (c.holding queue) = .ok (n, r) c₁ ↔
        ∃ rest, Source.feedList (feedStep · c) queue {} = .ok (some (n, rest)) r ∧ c₁ = c.holding rest :=
    (holding_holds c).feedLocal_eq_ok feedStep fun _ _ => rfl
  rw [receivedResults_eq (c := c.holding queue) hr, Outcome.bind_eq_ok]
  constructor
  · rintro ⟨⟨n, r⟩, c₁, h₁, h₂⟩
    obtain ⟨rest, hf, rfl⟩ := feed.mp h₁
    obtain ⟨rfl, rfl⟩ := Outcome.ok.inj h₂
    exact ⟨n, rest, r, hf, rfl, rfl⟩
  · rintro ⟨n, rest, r, hf, rfl, rfl⟩
    exact ⟨(n, r), c.holding rest, feed.mpr ⟨rest, hf, rfl⟩, rfl⟩

theorem Finishes.of_drain (hr : c.result = none)
    (h : receivedResults.feedLocal lastStep () (c.holding queue) = .ok ((), ()) c') : Finishes (feedStep · c) queue := by
  induction hn : queue.length using Nat.strong_induction_on generalizing c queue
  case h n ih =>
    cases hx : receivedResults.next (c.holding queue)
    case ok x c₁ =>
      have hlt := receivedResults.decreasing hx
      rw [receivedResults.feedLocal_ok hx] at h
      obtain ⟨n, rest, r, hf, rfl, rfl⟩ := (receivedResults_eq_ok hr).mp hx
      cases hh : r.hasNext
      case false => exact .last hf hh
      case true  =>
        simp only [lastStep, Option.map_some, Option.getD_some, hh, if_true, Proc.pure_apply] at h
        exact .next hf hh (ih _ (hn ▸ hlt) (c := c.passed n r) rfl h rfl)
    case error =>
      rw [Source.feedLocal, receivedResults.feed_next_error hx] at h
      cases h
    case pending =>
      rw [Source.feedLocal, receivedResults.feed_next_pending hx] at h
      cases h

theorem Finishes.drain (hr : c.result = none) (h : Finishes (feedStep · c) queue) :
    ∃ c', receivedResults.feedLocal lastStep () (c.holding queue) = .ok ((), ()) c' := by
  generalize hs : (feedStep · c) = step at h
  induction h generalizing c
  case last n rest r hf hh =>
    subst hs
    have hx := (receivedResults_eq_ok hr).mpr ⟨n, rest, r, hf, rfl, rfl⟩
    refine ⟨(c.passed n r).holding rest, ?_⟩
    rw [receivedResults.feedLocal_ok hx]
    simp only [lastStep, Option.map_some, Option.getD_some, hh, Bool.false_eq_true, if_false, Proc.pure_apply]
  case next n rest r hf hh _ ih =>
    subst hs
    have hx := (receivedResults_eq_ok hr).mpr ⟨n, rest, r, hf, rfl, rfl⟩
    obtain ⟨c', h⟩ := ih (c := c.passed n r) rfl rfl
    refine ⟨c', ?_⟩
    rw [receivedResults.feedLocal_ok hx]
    simp only [lastStep, Option.map_some, Option.getD_some, hh, if_true, Proc.pure_apply]
    exact h

theorem drainResults_iff (hr : c.result = none) (t : MySQLResult) :
    (∃ c', drainResults t (c.holding queue) = .ok () c') ↔ (t.hasNext = true → Finishes (feedStep · c) queue) := by
  rw [drainResults]
  cases t.hasNext
  case false => exact iff_of_true ⟨_, rfl⟩ nofun
  case true  =>
    constructor
    · rintro ⟨c', h⟩ _
      obtain ⟨_, c₁, h₁, _⟩ := Outcome.bind_eq_ok.mp h
      exact .of_drain hr h₁
    · intro h
      obtain ⟨c', h⟩ := (h rfl).drain hr
      exact ⟨c', Outcome.bind_eq_ok.mpr ⟨_, c', h, rfl⟩⟩

end Results

-- What the current result promises has been received.
def Drainable (c : Connection) : Prop :=
  match c.result with
  | none   => True
  | some r =>
    if r.unbufferedActive then
      ∃ rest r', Source.feedList (eofStep · c) c.packetStream.recvQueue r = .ok (some ((), rest)) r' ∧
        (r'.hasNext = true → Finishes (feedStep · c) rest)
    else
      r.hasNext = true → Finishes (feedStep · c) c.packetStream.recvQueue

theorem drainPending_iff (c : Connection) : (∃ c', drainPending c = .ok () c') ↔ c.Drainable := by
  rw [drainPending, Proc.bind_apply, Proc.get_apply, Outcome.bind_ok, Drainable]
  cases c.result
  case none   => exact iff_of_true ⟨c, rfl⟩ trivial
  case some r =>
    let c₀ : Connection := { c with result := none }
    show (∃ c', ((finishUnbufferedQuery r >>= drainResults) (c₀.holding c.packetStream.recvQueue)) = .ok () c') ↔ _
    simp only [finishUnbufferedQuery]
    cases r.unbufferedActive
    case false => exact drainResults_iff rfl r
    case true  =>
      constructor
      · rintro ⟨c', h⟩
        obtain ⟨t, c₁, h₁, h₂⟩ := Outcome.bind_eq_ok.mp h
        obtain ⟨⟨_, t₂⟩, c₂, h₃, h₄⟩ := Outcome.bind_eq_ok.mp h₁
        obtain ⟨rest, hf, rfl⟩ := ((holding_holds c₀).feedLocal_eq_ok eofStep fun _ _ => rfl).mp h₃
        obtain ⟨rfl, rfl⟩ := Outcome.ok.inj h₄
        exact ⟨rest, t₂, hf, (drainResults_iff (c := c₀) rfl t₂).mp ⟨c', h₂⟩⟩
      · rintro ⟨rest, t, hf, h⟩
        have h₁ := ((holding_holds c₀).feedLocal_eq_ok eofStep fun _ _ => rfl).mpr ⟨rest, hf, rfl⟩
        obtain ⟨c', h₂⟩ := (drainResults_iff (c := c₀) rfl t).mpr h
        exact ⟨c', Outcome.bind_eq_ok.mpr ⟨t, _, Outcome.bind_eq_ok.mpr ⟨_, _, h₁, rfl⟩, h₂⟩⟩

end MySQL.Connection
