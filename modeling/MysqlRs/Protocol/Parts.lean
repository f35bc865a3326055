import MysqlRs.Protocol.Responses

namespace MySQL.Server

open MysqlPacket MySQLResult

-- What is still to come of a result set whose definitions have been read. An error takes the place of
-- the EOF packet when it cuts the rows short.
structure Body where
  rows : List (List (Option Bytes))
  eof  : Option Eof

def Body.payloads (b : Body) : List Bytes :=
  b.rows.map rowPayload ++ (b.eof.map (·.payload)).toList

-- What is left when one packet has been read.
def Body.tail (b : Body) : Option Body :=
  match b.rows with
  | []        => none
  | _ :: rows => some ⟨rows, b.eof⟩

-- One of the results of a response.
inductive Part
  | ok (d : Ok)
  | set (r : ResultSet)
  -- The first `n` packets of a result set that an error cuts short.
  | cut (r : ResultSet) (n : Nat)

namespace Part

def payloads : Part → List Bytes
  | ok d    => [d.payload]
  | set r   => r.payloads
  | cut r n => r.payloads.take n

-- The packets up to the point where reading gives a result.
def head (u : Bool) : Part → List Bytes
  | ok d    => [d.payload]
  | set r   => if u then r.header else r.payloads
  | cut r n => if u ∧ r.header.length ≤ n then r.header else r.payloads.take n

-- Whether reading gets to that point, and what is left of this result then.
def rest (u : Bool) : Part → Option (Option Body)
  | ok _    => some none
  | set r   => some (if u then some ⟨r.rows, some r.rowsEof⟩ else none)
  | cut r n =>
    if u ∧ r.header.length ≤ n then some (some ⟨r.rows.take (n - r.header.length), none⟩) else none

def body (u : Bool) (p : Part) : Option Body :=
  (p.rest u).getD none

def bodyPayloads (b : Option Body) : List Bytes :=
  (b.map (·.payloads)).getD []

-- Whether something is announced or sent after this result: `follows` says if something is.
def Announces (follows : Bool) : Part → Prop
  | ok d    => hasMoreResults d.status = follows
  | set r   => hasMoreResults r.rowsEof.status = follows
  | cut r n => follows = true ∧ n < r.payloads.length

-- The number of packets that reading takes. A result that is cut short before that point takes the
-- error.
def need (u : Bool) (p : Part) : Nat :=
  if (p.rest u).isSome then (p.head u).length else (p.head u).length + 1

instance (follows : Bool) : DecidablePred (Announces follows)
  | ok d    => inferInstanceAs (Decidable (hasMoreResults d.status = follows))
  | set r   => inferInstanceAs (Decidable (hasMoreResults r.rowsEof.status = follows))
  | cut r n => inferInstanceAs (Decidable (follows = true ∧ n < r.payloads.length))

theorem payloads_split (u : Bool) {follows : Bool} {p : Part} (h : p.Announces follows) :
    p.payloads = p.head u ++ bodyPayloads (p.body u) := by
  cases p
  case ok d  => rfl
  case set r =>
    cases u
    case false => exact (List.append_nil _).symm
    case true  => rfl
  case cut r n =>
    simp only [payloads, head, body, rest]
    split
    case isFalse => exact (List.append_nil _).symm
    case isTrue hu =>
      obtain ⟨m, rfl⟩ := Nat.exists_eq_add_of_le hu.right
      have hn := h.right
      simp only [ResultSet.payloads, ResultSet.body, List.length_append, List.length_map,
        List.length_singleton] at hn
      rw [ResultSet.payloads, List.take_length_add_append, ResultSet.body,
        List.take_append_of_le_length (by simp; omega), ← List.map_take]
      simp [bodyPayloads, Body.payloads]

theorem not_error (p : Part) : ∀ q ∈ p.payloads, ¬IsError q := by
  cases p
  case ok d    => exact List.forall_mem_singleton.mpr d.not_error
  case set r   => exact r.not_error
  case cut r n => exact fun q hq => r.not_error q (List.mem_of_mem_take hq)

theorem not_loadLocal {p : Part} {q : Bytes} (h : q ∈ p.payloads.head?) :
    (new q).isLoadLocalPacket = false := by
  cases p
  case ok d    => exact (Response.ok d).not_loadLocal h
  case set r   => exact (Response.set r).not_loadLocal h
  case cut r n =>
    cases n
    case zero   => exact nomatch h
    case succ n => exact (Response.aborted r (n + 1) []).not_loadLocal h

variable [Libraries] (conn : Connection)

def result (u : Bool) : Part → MySQLResult
  | ok d            => d.result u
  | set r | cut r _ => if u then r.opened conn true else r.result conn

theorem feed_head {u : Bool} {p : Part} {b : Option Body} (hb : p.rest u = some b)
    (h : ∀ q ∈ p.head u, q.length ≤ usizeMax) :
    Source.feedList (step conn) (p.head u) { unbufferedActive := u } =
      .ok (some ((p.result conn u).affectedRows, [])) (p.result conn u) := by
  have opened (r : ResultSet) (h : ∀ q ∈ r.header, q.length ≤ usizeMax) :
      Source.feedList (step conn) r.header { unbufferedActive := true } =
        .ok (some (0, [])) (r.opened conn true) := by
    have hf := r.feed_header conn true [] h
    rwa [List.append_nil, if_pos rfl] at hf
  cases p
  case ok d  => exact feed_ok conn d u [] (h _ (List.mem_singleton_self _))
  case set r =>
    cases u
    case false => exact Response.feed_set conn r h
    case true  => exact opened r h
  case cut r n =>
    rw [rest] at hb
    split at hb
    case isFalse => exact nomatch hb
    case isTrue hu =>
      rw [head, if_pos hu] at h ⊢
      obtain rfl := hu.left
      exact opened r h

theorem feed_head_cut {u follows : Bool} {p : Part} (hp : p.Announces follows) (hb : p.rest u = none)
    (h : ∀ q ∈ p.head u, q.length ≤ usizeMax) :
    ∃ t, Source.feedList (step conn) (p.head u) { unbufferedActive := u } = .ok none t := by
  cases p
  case cut r n =>
    rw [rest] at hb
    split at hb
    case isTrue  => cases hb
    case isFalse hu =>
      rw [head, if_neg hu] at h ⊢
      by_cases hn : n < r.header.length
      case pos =>
        rw [ResultSet.payloads, List.take_append_of_le_length (Nat.le_of_lt hn)] at h ⊢
        exact r.feed_header_cut conn u hn h
      case neg =>
        have hu : u = false := by simpa [Nat.le_of_not_lt hn] using hu
        subst hu
        exact Response.feed_aborted conn r hp.right h
  all_goals cases hb

theorem feed_head_take {u follows : Bool} {p : Part} {j : Nat} (hp : p.Announces follows)
    (hj : j < p.need u) (h : ∀ q ∈ p.head u, q.length ≤ usizeMax) :
    ∃ t, Source.feedList (step conn) ((p.head u).take j) { unbufferedActive := u } = .ok none t := by
  cases hb : p.rest u
  case none =>
    have ⟨t, hf⟩ := feed_head_cut conn hp hb h
    rw [← List.take_append_drop j (p.head u)] at hf
    exact Source.feedList_none_left hf
  case some b =>
    have hf := feed_head conn hb h
    rw [← List.take_append_drop j (p.head u)] at hf
    rw [need, hb, Option.isSome_some, if_pos rfl] at hj
    exact Source.feedList_incomplete hf (by rw [List.length_nil, List.length_drop]; omega)

end Part
end MySQL.Server
