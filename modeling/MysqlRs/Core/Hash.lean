import MysqlRs.Core.Converters

namespace MySQL

-- `==` of `f64`: the zeros are equal, and NaN is equal to nothing.
def Float64.isZero (x : Float64) : Bool :=
  x.exponentField = 0 ∧ x.fraction = 0

def Float64.eq (x y : Float64) : Bool :=
  !x.isNan && !y.isNan && (x.bits = y.bits || x.isZero && y.isZero)

-- What a hasher is fed with.
inductive Write
  | isize (n : Nat)
  | usize (n : Nat)
  | u8 (n : UInt8)
  | i64 (i : Int64)
  | u64 (n : UInt64)
  | bytes (b : Bytes)

-- `Hash` of the calendar and the decimal library, `PartialEq` of decimals, and what a `DefaultHasher` makes
-- of what it is fed with. Equal decimals are hashed alike.
class Hashing where
  date : NaiveDate → List Write
  time : NaiveTime → List Write
  dateTime : NaiveDateTime → List Write
  timeSpan : TimeDelta → List Write
  decimal : Decimal → List Write
  decimalEq : Decimal → Decimal → Bool
  finish : List Write → UInt64
  decimalEq_refl : ∀ a, decimalEq a a = true
  decimalEq_symm : ∀ {a b}, decimalEq a b = true → decimalEq b a = true
  decimalEq_trans : ∀ {a b c}, decimalEq a b = true → decimalEq b c = true → decimalEq a c = true
  decimal_coherent : ∀ {a b}, decimalEq a b = true → decimal a = decimal b

namespace Value

variable [Hashing]

mutual

-- `PartialEq`. Sets are equal when they are of the same size and one contains the elements of the other.
def eq : Value → Value → Bool
  | null, null             => true
  | bool a, bool b         => a = b
  | int a, int b           => a = b
  | float a, float b       => a.eq b
  | string a, string b     => a = b
  | bytes a, bytes b       => a = b
  | date a, date b         => a = b
  | time a, time b         => a = b
  | dateTime a, dateTime b => a = b
  | timeSpan a, timeSpan b => a = b
  | decimal a, decimal b   => Hashing.decimalEq a b
  | list xs, list ys       => eqItems xs ys
  | set xs, set ys         => xs.length = ys.length && eachIn xs ys
  | _, _                   => false

def eqItems : List Value → List Value → Bool
  | [], []           => true
  | x :: xs, y :: ys => eq x y && eqItems xs ys
  | _, _             => false

def eachIn : List Value → List Value → Bool
  | [], _       => true
  | x :: xs, ys => ys.any (fun y => eq x y) && eachIn xs ys

end

mutual

-- `Hash`. A set is hashed by the XOR of the hashes of its elements.
def hash : Value → List Write
  | null        => [.isize 0]
  | bool b      => [.isize 1, .u8 (if b then 1 else 0)]
  | int i       => [.isize 2, .i64 i]
  | float f     => [.isize 3, .u64 f.bits]
  | string s    => [.isize 4, .bytes s.asBytes, .u8 255]
  | bytes b     => [.isize 5, .usize b.length, .bytes b]
  | date d      => .isize 6 :: Hashing.date d
  | time t      => .isize 7 :: Hashing.time t
  | dateTime dt => .isize 8 :: Hashing.dateTime dt
  | timeSpan td => .isize 9 :: Hashing.timeSpan td
  | decimal d   => .isize 10 :: Hashing.decimal d
  | list items  => .isize 11 :: .usize items.length :: hashItems items
  | set items   => [.isize 12, .u64 (combined 0 items)]

def hashItems : List Value → List Write
  | []            => []
  | item :: items => hash item ++ hashItems items

def combined (acc : UInt64) : List Value → UInt64
  | []            => acc
  | item :: items => combined (acc ^^^ Hashing.finish (hash item)) items

end

mutual

-- What `HashSet` guarantees whatever `Hash` and `PartialEq` are: no two elements of a set are equal and hashed
-- alike.
def Sound : Value → Prop
  | list items => SoundItems items
  | set items  =>
    items.Pairwise (fun a b => ¬(eq a b = true ∧ eq b a = true ∧ hash a = hash b)) ∧ SoundItems items
  | _          => True

def SoundItems : List Value → Prop
  | []            => True
  | item :: items => Sound item ∧ SoundItems items

end

-- A value that contains no other one.
def Leaf : Value → Prop
  | list _ | set _ => False
  | _              => True

omit [Hashing] in
-- Induction on how values are nested.
theorem nested {P : Value → Prop} (leaf : ∀ v, v.Leaf → P v) (list : ∀ items, (∀ v ∈ items, P v) → P (list items))
    (set : ∀ items, (∀ v ∈ items, P v) → P (set items)) (v : Value) : P v := by
  refine @Value.rec P (fun items => ∀ v ∈ items, P v) ?_ ?_ ?_ ?_ ?_ ?_ ?_ ?_ ?_ ?_ ?_ list set
    (List.forall_mem_nil _) (fun _ _ hv hs => List.forall_mem_cons.mpr ⟨hv, hs⟩) v
  all_goals
    intros
    exact leaf _ trivial

end Value
end MySQL
