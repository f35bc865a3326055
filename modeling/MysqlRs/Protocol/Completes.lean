import MysqlRs.Core.FeedPacket
import MysqlRs.Library.Source

namespace MySQL.MySQLResult

open MysqlPacket

-- What the reader of a result waits for.
inductive Waiting
  | first
  | definitions (n : Nat)
  | rows

-- The packets complete a result, and the last OK or EOF packet among them carries this status.
inductive Completes (unbuffered : Bool) : Waiting → List MysqlPacket → UInt16 → Prop
  | ok {p d} :
    OkPacketWrapper.fromPacket.run' p = .ok d → Completes unbuffered .first [p] d.serverStatus
  | count {p n ps s} :
    p.isOkPacket = false → readLengthEncodedInteger.run' p = .ok n →
    Completes unbuffered (.definitions (n.getD 0).toNat) ps s →
    Completes unbuffered .first (p :: ps) s
  | definition {p n ps s} :
    Completes unbuffered (.definitions n) ps s →
    Completes unbuffered (.definitions (n + 1)) (p :: ps) s
  | opened {p d} :
    unbuffered = true → EofPacketWrapper.fromPacket.run' p = .ok d →
    Completes unbuffered (.definitions 0) [p] d.serverStatus
  | header {p d ps s} :
    unbuffered = false → EofPacketWrapper.fromPacket.run' p = .ok d →
    Completes unbuffered .rows ps s → Completes unbuffered (.definitions 0) (p :: ps) s
  | row {p ps s} :
    p.isEofPacket = false → Completes unbuffered .rows ps s → Completes unbuffered .rows (p :: ps) s
  | done {p d} :
    EofPacketWrapper.fromPacket.run' p = .ok d → Completes unbuffered .rows [p] d.serverStatus

theorem isOkPacket_of_run {p : MysqlPacket} {d : OkPacketWrapper}
    (h : OkPacketWrapper.fromPacket.run' p = .ok d) : p.isOkPacket = true := by
  cases hp : p.isOkPacket
  case true  => rfl
  case false => simp [StateT.run', OkPacketWrapper.fromPacket, hp, Functor.map, Except.map] at h

theorem isEofPacket_of_run {p : MysqlPacket} {d : EofPacketWrapper}
    (h : EofPacketWrapper.fromPacket.run' p = .ok d) : p.isEofPacket = true := by
  cases hp : p.isEofPacket
  case true  => rfl
  case false => simp [StateT.run', EofPacketWrapper.fromPacket, hp, Functor.map, Except.map] at h

-- No result is the beginning of another, and its packets determine the status.
theorem Completes.unique {u : Bool} {w : Waiting} {ps qs xs ys : List MysqlPacket} {s t : UInt16}
    (h₁ : Completes u w ps s) (h₂ : Completes u w qs t) (h : ps ++ xs = qs ++ ys) : s = t := by
  induction h₁ generalizing qs
  case ok hd =>
    cases h₂
    case ok hd' =>
      obtain ⟨rfl, _⟩ := List.cons.inj h
      obtain rfl := Except.ok.inj (hd.symm.trans hd')
      rfl
    case count hn _ _ =>
      obtain ⟨rfl, _⟩ := List.cons.inj h
      exact nomatch hn.symm.trans (isOkPacket_of_run hd)
  case count hp hn _ ih =>
    cases h₂
    case ok hd =>
      obtain ⟨rfl, _⟩ := List.cons.inj h
      exact nomatch hp.symm.trans (isOkPacket_of_run hd)
    case count hn' h₂ =>
      obtain ⟨rfl, hps⟩ := List.cons.inj h
      obtain rfl := Except.ok.inj (hn.symm.trans hn')
      exact ih h₂ hps
  case definition ih =>
    obtain ⟨⟩ | ⟨⟩ | h₂ := h₂
    exact ih h₂ (List.cons.inj h).right
  case opened hu hd =>
    cases h₂
    case opened hd' =>
      obtain ⟨rfl, _⟩ := List.cons.inj h
      obtain rfl := Except.ok.inj (hd.symm.trans hd')
      rfl
    case header hu' _ _ => exact nomatch hu.symm.trans hu'
  case header hu _ _ ih =>
    cases h₂
    case opened hu' _  => exact nomatch hu.symm.trans hu'
    case header _ _ h₂ => exact ih h₂ (List.cons.inj h).right
  case row hp _ ih =>
    cases h₂
    case row h₂ => exact ih h₂ (List.cons.inj h).right
    case done hd =>
      obtain ⟨rfl, _⟩ := List.cons.inj h
      exact nomatch hp.symm.trans (isEofPacket_of_run hd)
  case done hd =>
    cases h₂
    case row hp _ =>
      obtain ⟨rfl, _⟩ := List.cons.inj h
      exact nomatch hp.symm.trans (isEofPacket_of_run hd)
    case done hd' =>
      obtain ⟨rfl, _⟩ := List.cons.inj h
      obtain rfl := Except.ok.inj (hd.symm.trans hd')
      rfl

-- What a result that is being read waits for.
def Waits (unbuffered : Bool) (r : MySQLResult) : Waiting → Prop
  | .first         => r.readState = .initial ∧ r.unbufferedActive = unbuffered
  | .definitions n =>
    r.readState = .descriptions ∧ r.unbufferedActive = unbuffered ∧
      r.fields.length + n = r.fieldCount.toNat
  | .rows          => r.readState = .rows

variable [Libraries] {u : Bool} {r r' : MySQLResult} {p : MysqlPacket} {conn : Connection}

omit [Libraries] in
theorem run_eq_ok {σ α : Type} {reader : Reader α} {t t' : σ} {a : α} :
    p.run reader t = .ok a t' ↔ reader.run' p = .ok a ∧ t = t' := by
  rw [MysqlPacket.run]
  cases reader.run' p
  case error => simp
  case ok    => simp

omit [Libraries] in
theorem run_eq_pure {σ α : Type} {reader : Reader α} {a : α} (h : reader.run' p = .ok a) :
    p.run reader = (pure a : Proc Error σ α) := by
  rw [MysqlPacket.run, h, Proc.ofExcept_ok]

-- What one packet does.
structure Takes (u : Bool) (w : Waiting) (p : MysqlPacket) (r' : MySQLResult) (result : FeedResult) :
    Prop where
  ends : result ≠ .needMore → ∃ s, r'.serverStatus = some s ∧ Completes u w [p] s
  goes : result = .needMore →
    ∃ w', r'.Waits u w' ∧ ∀ ps s, Completes u w' ps s → Completes u w (p :: ps) s

omit [Libraries] in
theorem feedInitial_takes {result : FeedResult} (hw : r.Waits u .first)
    (h : feedInitial p conn r = .ok result r') : Takes u .first p r' result := by
  rw [feedInitial] at h
  split at h
  case isTrue =>
    have ⟨d, _, hd, h₁⟩ := Outcome.bind_eq_ok.mp h
    obtain ⟨hd₁, rfl⟩ := run_eq_ok.mp hd
    obtain ⟨rfl, rfl⟩ := Outcome.ok.inj h₁
    exact ⟨fun _ => ⟨_, rfl, .ok hd₁⟩, nofun⟩
  case isFalse hp =>
    split at h
    case isTrue  => exact nomatch h
    case isFalse =>
      have ⟨n, _, hn, h₁⟩ := Outcome.bind_eq_ok.mp h
      obtain ⟨hn₁, rfl⟩ := run_eq_ok.mp hn
      obtain ⟨rfl, rfl⟩ := Outcome.ok.inj h₁
      refine ⟨nofun, fun _ => ⟨.definitions (n.getD 0).toNat, ⟨rfl, hw.right, Nat.zero_add _⟩, ?_⟩⟩
      exact fun ps s hc => .count (Bool.eq_false_iff.mpr hp) hn₁ hc

theorem feedDescription_takes {result : FeedResult} {n : Nat} (hw : r.Waits u (.definitions n))
    (h : feedDescription p conn r = .ok result r') : Takes u (.definitions n) p r' result := by
  have ⟨hs, hu, hl⟩ := hw
  simp only [feedDescription, Proc.bind_apply, Proc.get_apply, Outcome.bind_ok] at h
  split at h
  case isTrue hlt =>
    obtain ⟨m, rfl⟩ := Nat.exists_eq_add_one_of_ne_zero (show n ≠ 0 by omega)
    have ⟨field, r₁, hf, h₁⟩ := Outcome.bind_eq_ok.mp h
    obtain rfl : r₁ = r := Proc.Keeps.ofExcept (f := id) _ hf
    obtain ⟨rfl, rfl⟩ := Outcome.ok.inj h₁
    refine ⟨nofun, fun _ => ⟨.definitions m, ⟨hs, hu, ?_⟩, fun ps s hc => .definition hc⟩⟩
    simpa [Nat.add_assoc, Nat.add_comm 1 m] using hl
  case isFalse hge =>
    obtain rfl : n = 0 := by omega
    split at h
    case isTrue  => exact nomatch h
    case isFalse =>
      have ⟨d, _, hd, h₁⟩ := Outcome.bind_eq_ok.mp h
      obtain ⟨hd₁, rfl⟩ := run_eq_ok.mp hd
      obtain ⟨rfl, rfl⟩ := Outcome.ok.inj h₁
      cases hb : r.unbufferedActive
      case true =>
        refine ⟨fun _ => ⟨_, rfl, .opened (hu.symm.trans hb) hd₁⟩, by simp⟩
      case false =>
        refine ⟨by simp, fun _ => ⟨.rows, ?_, fun ps s hc => .header (hu.symm.trans hb) hd₁ hc⟩⟩
        simp [Waits, hb]

omit [Libraries] in
theorem checkPacketIsEof_eq_ok {b : Bool} :
    checkPacketIsEof p r = .ok b r' → if b then
      ∃ d, EofPacketWrapper.fromPacket.run' p = .ok d ∧ r' = {
        r with
        warningCount := d.warningCount
        hasNext := d.hasNext
        serverStatus := some d.serverStatus
      }
    else p.isEofPacket = false ∧ r' = r := by
  intro h
  rw [checkPacketIsEof] at h
  split at h
  case isTrue hp =>
    obtain ⟨rfl, rfl⟩ := Outcome.ok.inj h
    exact ⟨by simpa using hp, rfl⟩
  case isFalse =>
    have ⟨d, _, hd, h₁⟩ := Outcome.bind_eq_ok.mp h
    obtain ⟨hd₁, rfl⟩ := run_eq_ok.mp hd
    obtain ⟨rfl, rfl⟩ := Outcome.ok.inj h₁
    exact ⟨d, hd₁, rfl⟩

theorem feedRow_takes {result : FeedResult} (hw : r.Waits u .rows)
    (h : feedRow p r = .ok result r') : Takes u .rows p r' result := by
  have ⟨b, r₁, hb, h₁⟩ := Outcome.bind_eq_ok.mp h
  have hb := checkPacketIsEof_eq_ok hb
  cases b
  case true =>
    obtain ⟨d, hd, rfl⟩ := hb
    obtain ⟨rfl, rfl⟩ := Outcome.ok.inj h₁
    exact ⟨fun _ => ⟨_, rfl, .done hd⟩, nofun⟩
  case false =>
    obtain ⟨hp, rfl⟩ := hb
    have ⟨row, r₂, hr, h₂⟩ := Outcome.bind_eq_ok.mp h₁
    obtain ⟨_, rfl⟩ := run_eq_ok.mp hr
    obtain ⟨rfl, rfl⟩ := Outcome.ok.inj h₂
    exact ⟨nofun, fun _ => ⟨.rows, hw, fun ps s hc => .row hp hc⟩⟩

theorem feedPacket_takes {w : Waiting} {result : FeedResult} (hw : r.Waits u w)
    (h : feedPacket p conn r = .ok result r') : Takes u w p r' result := by
  simp only [feedPacket, Proc.bind_apply, Proc.get_apply, Outcome.bind_ok] at h
  cases w
  case first         => exact feedInitial_takes hw (by rwa [hw.left] at h)
  case definitions n => exact feedDescription_takes hw (by rwa [hw.left] at h)
  case rows =>
    have hs : r.readState = .rows := hw
    exact feedRow_takes hw (by rwa [hs] at h)

-- A result that has been read says what the last OK or EOF packet has said.
theorem feed_completes {σ : Type} {src : Source Error σ MysqlPacket} (conn : σ → Connection) {s s' : σ}
    {n : Int64}
    (h : src.feedLocal (fun p s => feedStep p (conn s)) { unbufferedActive := u } s = .ok (n, r) s') :
    ∃ ps status, src.Supplies s ps s' ∧ Completes u .first ps status ∧
      r.serverStatus = some status := by
  have ⟨ps, hs, hc⟩ := Source.Supplies.of_feedLocal
    (P := fun r ps _ r' => ∀ w, r.Waits u w → ∃ s, r'.serverStatus = some s ∧ Completes u w ps s)
    (fun p s r a r' hstep w hw => ?_) (fun p s r r' ps a r'' hstep ih w hw => ?_) h
  case refine_1 =>
    have ⟨result, r₁, hf, h₁⟩ := Outcome.bind_eq_ok.mp hstep
    have ht := feedPacket_takes hw hf
    cases result
    case needMore => exact nomatch h₁
    all_goals
      obtain ⟨_, rfl⟩ := Outcome.ok.inj h₁
      exact ht.ends nofun
  case refine_2 =>
    have ⟨result, r₁, hf, h₁⟩ := Outcome.bind_eq_ok.mp hstep
    have ht := feedPacket_takes hw hf
    cases result
    case needMore =>
      obtain ⟨_, rfl⟩ := Outcome.ok.inj h₁
      have ⟨w', hw', hc⟩ := ht.goes rfl
      have ⟨status, hr, hcs⟩ := ih w' hw'
      exact ⟨status, hr, hc ps status hcs⟩
    all_goals exact nomatch h₁
  have ⟨status, hr, hc⟩ := hc .first ⟨rfl, rfl⟩
  exact ⟨ps, status, hs, hc, hr⟩

end MySQL.MySQLResult
