import MysqlRs.Auth.Opening

namespace MySQL

open MysqlPacket

namespace Connection

section Success

variable [Libraries] [Crypto] [Host] {c : Connection} {a : Arrival} {p : Bytes}

-- Authentication is over only when the packet is an OK packet, whatever has come behind it.
def SucceedsOnOk (c : Connection) (p : Bytes) : Prop :=
  ∀ a c', a.payload = p → authStep a c = .ok .success c' → (new p).isOkPacket

-- Outside of the flows of the sha2 plugins, the packet is one of those that are told apart.
def Recognized (c : Connection) (p : Bytes) : Prop :=
  c.authPhase = .initial → (new p).isOkPacket ∨ (new p).isAuthSwitchRequest ∨
    (new p).isExtraAuthData ∨ (new p).isErrorPacket

theorem authStep_success {c' : Connection} (h : authStep a c = .ok .success c') :
    (c.authPhase = .initial ∧ ¬(new a.payload).isAuthSwitchRequest ∧ ¬(new a.payload).isExtraAuthData ∧
      ¬(new a.payload).isErrorPacket) ∨
    (c.authPhase = .cachingSha2FastSuccess ∧ (new a.payload).isOkPacket) := by
  have hr := reacts c a.payload
  obtain ⟨hs, _⟩ | ⟨_, hst, _⟩ | ⟨_, _, _, _, _, hst, _⟩ := authStep_ok h
  · generalize reaction c (new a.payload) = x at hr hs
    cases hr
    case unchecked hi hn hx he => exact .inl ⟨hi, hn, hx, he⟩
    case fastOk hi ho          => exact .inr ⟨hi, ho⟩
    case switchSha256 | sha256Start =>
      simp only [sha256Answer] at hs
      split_ifs at hs
    all_goals cases hs
  · cases hst
  · cases hst

theorem authStep_unchecked (a : Arrival) (hi : c.authPhase = .initial)
    (hs : ¬(new a.payload).isAuthSwitchRequest) (hx : ¬(new a.payload).isExtraAuthData)
    (he : ¬(new a.payload).isErrorPacket) :
    authStep a c = .ok .success (c.setStream (c.packetStream.past a)) := by
  have hr : reaction c (new a.payload) = (c, .success) := by
    rw [reaction, hi]
    exact (if_neg hs).trans ((if_neg hx).trans (if_neg he))
  rw [authStep_eq, hr]
  rfl

theorem succeedsOnOk_iff : SucceedsOnOk c p ↔ Recognized c p := by
  constructor
  case mp =>
    intro h hi
    by_contra hn
    simp only [not_or] at hn
    have hs := authStep_unchecked (.alone 0 p) hi hn.right.left hn.right.right.left hn.right.right.right
    exact hn.left (h _ _ rfl hs)
  case mpr =>
    rintro h a c' rfl hs
    obtain ⟨hi, hs, hx, he⟩ | ⟨_, ho⟩ := authStep_success hs
    · obtain ho | hs' | hx' | he' := h hi
      · exact ho
      · exact absurd hs' hs
      · exact absurd hx' hx
      · exact absurd he' he
    · exact ho

-- In a run of the machine, every success is due to an OK packet as long as every packet is recognized.
theorem run_succeedsOnOk_iff (as : List Arrival) (c : Connection) :
    EachStep SucceedsOnOk as c ↔ EachStep Recognized as c :=
  EachWith.congr (I := fun _ _ => True) (fun _ _ _ _ => succeedsOnOk_iff) (fun _ _ _ _ _ _ _ _ => trivial)
    trivial

end Success

section Examples

attribute [local instance] Libraries.utf8Only Crypto.transparent Host.initProcess

-- A request to switch to the authentication of old is taken for a success.
theorem oldAuthSwitch_succeeds :
    ∃ c₀ c, Greeted plainOptions sha256Greeting c₀ ∧ Began c₀ c false ∧
      ¬EachStep SucceedsOnOk [.alone 3 [0xFE]] c := by
  have ⟨c₀, c, hg, hb, _⟩ := sha256Session
  refine ⟨c₀, c, hg, hb, fun h => ?_⟩
  have hi := (hb.opened hg.secure_eq hg.plain).authPhase_eq
  have ho := h.head _ _ rfl (authStep_unchecked (.alone 3 [0xFE]) hi (by decide) (by decide) (by decide))
  exact absurd ho (by decide)

end Examples
end Connection
end MySQL
