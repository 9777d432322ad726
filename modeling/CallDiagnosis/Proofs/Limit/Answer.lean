import CallDiagnosis.Limit.Cache
import CallDiagnosis.Proofs.Inquiry.Sequencing
import Mathlib.Algebra.Group.Nat.Defs

/-
  What a cache of limits answers.

  Key definitions include:
    * `CallDiagnosis.LimitCache.answer`
    * `CallDiagnosis.LimitCache.asked`
    * `CallDiagnosis.LimitAnswers`

  Key theorems include:
    * `CallDiagnosis.LimitCache.value_lookup`
    * `CallDiagnosis.toInt_eq_of_toNat_lt`
    * `CallDiagnosis.toNat_eq_of_pos`

  A look-up costs a question to the host unless the cache
  holds the limit.  Three look-ups in a row, for the limits
  that have to do with lengths, are taken together here: what
  each was answered, and in which state they left the host.
-/

------------------------------------------------------------
-- One Limit
------------------------------------------------------------

namespace CallDiagnosis

namespace LimitCache

variable {σ : Type}
variable (cache : LimitCache)
variable (host : Host surroundings σ)
variable (level : Log.Level)
variable (state : σ)
variable (limit : PathLimit)
variable (path : String)

/-
  The answer about a limit at a path, and the host's state
  after it.
-/
def answer :
    Except Fault Int64 × σ :=
  match cache.held? limit with
  | some value => (.ok value, state)
  | none => host.answer (.pathLimit limit path) state

/- The questions that the answer costs. -/
def asked : List Question :=
  if (cache.held? limit).isSome then
    []
  else
    [.pathLimit limit path]

@[simp] theorem value_lookup
    (hPath : path ≠ "") :
    ((cache.lookup limit path).run host level state).value =
      (cache.answer host state limit path).1 := by
  unfold lookup answer
  rw [if_neg hPath]
  cases cache.held? limit with
  | none => rfl
  | some value => rfl

@[simp] theorem state_lookup
    (hPath : path ≠ "") :
    ((cache.lookup limit path).run host level state).state =
      (cache.answer host state limit path).2 := by
  unfold lookup answer
  rw [if_neg hPath]
  cases cache.held? limit with
  | none => rfl
  | some value => rfl

@[simp] theorem questions_lookup
    (hPath : path ≠ "") :
    ((cache.lookup limit path).run
        host level state).questions =
      cache.asked limit path := by
  unfold lookup asked
  rw [if_neg hPath]
  cases cache.held? limit with
  | none => rfl
  | some value => rfl

end LimitCache

end CallDiagnosis

------------------------------------------------------------
-- The Limits on Lengths
------------------------------------------------------------

namespace CallDiagnosis

/-
  What was answered about the length of paths, the length of
  names and the fate of longer names, in this order, and the
  state in which this left the host.
-/
structure LimitAnswers
    (σ : Type) where
  pathMax : Except Fault Int64
  nameMax : Except Fault Int64
  noTrunc : Except Fault Int64
  state : σ

namespace LimitCache

variable {σ : Type}

/- The answers about a path, each asked for once. -/
def answers
    (cache : LimitCache)
    (host : Host surroundings σ)
    (state : σ)
    (path : String) :
    LimitAnswers σ :=
  let longest := cache.answer host state .pathMax path
  let named := cache.answer host longest.2 .nameMax path
  let kept := cache.answer host named.2 .noTrunc path
  ⟨longest.1, named.1, kept.1, kept.2⟩

/- The questions that the answers cost. -/
def askedAll
    (cache : LimitCache)
    (path : String) :
    List Question :=
  cache.asked .pathMax path ++ cache.asked .nameMax path ++
    cache.asked .noTrunc path

/- What an answer costs leads from a state to one like it. -/
theorem same_answer
    (cache : LimitCache)
    (host : Host surroundings σ)
    (same : σ → σ → Prop)
    (hLimit :
      ∀ limit path state other, same state other →
        same state
          (host.answer (.pathLimit limit path) other).2)
    (state other : σ)
    (limit : PathLimit)
    (path : String)
    (hSame : same state other) :
    same state (cache.answer host other limit path).2 := by
  unfold answer
  cases cache.held? limit with
  | none => exact hLimit limit path state other hSame
  | some value => exact hSame

end LimitCache

namespace LimitAnswers

variable {σ : Type}

/-
  The limit for single names.  There is none where names are
  cut short, or where it is not known whether they are.
-/
def nameLimit
    (a : LimitAnswers σ) :
    Option UInt64 :=
  match a.nameMax, a.noTrunc with
  | .ok longest, .ok kept =>
      if 0 < kept then some longest.toUInt64 else none
  | _, _ => none

theorem nameLimit_eq_some
    (a : LimitAnswers σ)
    (longest kept : Int64)
    (hLongest : a.nameMax = .ok longest)
    (hKept : a.noTrunc = .ok kept)
    (hRefused : 0 < kept) :
    a.nameLimit = some longest.toUInt64 := by
  simp [nameLimit, hLongest, hKept, hRefused]

theorem nameLimit_eq_none
    (a : LimitAnswers σ)
    (hOpen :
      ∀ longest kept, a.nameMax = .ok longest →
        a.noTrunc = .ok kept → ¬ 0 < kept) :
    a.nameLimit = none := by
  unfold nameLimit
  split
  · rename_i longest kept hLongest hKept
    rw [if_neg (hOpen longest kept hLongest hKept)]
  · rfl

end LimitAnswers

end CallDiagnosis

------------------------------------------------------------
-- Signed Limits
------------------------------------------------------------

namespace CallDiagnosis

/- A limit that is small as a length is what was reported. -/
theorem toInt_eq_of_toNat_lt
    (limit : Int64)
    (hSmall : limit.toUInt64.toNat < 2 ^ 63) :
    limit.toInt = limit.toUInt64.toNat := by
  have hBits :
      2 * limit.toBitVec.toNat < 2 ^ 64 := by
    change 2 * limit.toUInt64.toNat < 2 ^ 64
    omega
  rw [← Int64.toInt_toBitVec, BitVec.toInt_eq_toNat_cond,
    if_pos hBits]
  rfl

/- So a negative one is not small. -/
theorem nonneg_of_toNat_lt
    (limit : Int64)
    (hSmall : limit.toUInt64.toNat < 2 ^ 63) :
    0 ≤ limit := by
  rw [Int64.le_iff_toInt_le,
    toInt_eq_of_toNat_lt limit hSmall]
  exact Int.natCast_nonneg _

/- One that is positive is the same as a length. -/
theorem toNat_eq_of_pos
    (limit : Int64)
    (hPositive : 0 < limit) :
    limit.toUInt64.toNat = limit.toNatClampNeg := by
  rw [Int64.lt_iff_toInt_lt] at hPositive
  have hZero : (0 : Int64).toInt = 0 := rfl
  have hSmall : limit.toUInt64.toNat < 2 ^ 63 := by
    apply Nat.lt_of_not_le
    intro hGreat
    have hBits :
        ¬ 2 * limit.toBitVec.toNat < 2 ^ 64 := by
      change ¬ 2 * limit.toUInt64.toNat < 2 ^ 64
      omega
    have hBound := limit.toBitVec.isLt
    rw [← Int64.toInt_toBitVec limit,
      BitVec.toInt_eq_toNat_cond, if_neg hBits]
      at hPositive
    omega
  have hValue := toInt_eq_of_toNat_lt limit hSmall
  unfold Int64.toNatClampNeg
  omega

end CallDiagnosis
