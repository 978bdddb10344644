/-!
# Words

The integers of the library are 64-bit words. Arithmetic on them is exact: an operation has a
result only if the exact one fits in a word, and nothing wraps. One difference stops at the ends of
the words instead. Where this namespace is open, powers are the ones of the core library, whatever
else is in scope.
-/

set_option autoImplicit false

namespace Sharding.Word

attribute [scoped instance (high)] instPowNat

def Fits (n : Int) : Prop :=
  -2 ^ (63 : Nat) ≤ n ∧ n < 2 ^ (63 : Nat)

instance (n : Int) : Decidable (Fits n) :=
  inferInstanceAs (Decidable (_ ∧ _))

def ofInt? (n : Int) : Option Int64 :=
  if Fits n then some (Int64.ofInt n) else none

def neg? (a : Int64) : Option Int64 :=
  ofInt? (-a.toInt)

def add? (a b : Int64) : Option Int64 :=
  ofInt? (a.toInt + b.toInt)

def sub? (a b : Int64) : Option Int64 :=
  ofInt? (a.toInt - b.toInt)

def mul? (a b : Int64) : Option Int64 :=
  ofInt? (a.toInt * b.toInt)

/-- The difference, or the word that is nearest to it. -/
def nearestSub (a b : Int64) : Int64 :=
  Int64.ofInt (max (-2 ^ (63 : Nat)) (min (2 ^ (63 : Nat) - 1) (a.toInt - b.toInt)))

/-- The quotient truncated toward zero. The least word over `-1` has none; zero divisors are the
caller's concern. -/
def div? (a b : Int64) : Option Int64 :=
  ofInt? (Int.tdiv a.toInt b.toInt)

/-- The remainder with the sign of the dividend. It exists only beside a quotient, so the least
word has no remainder by `-1`. -/
def rem? (a b : Int64) : Option Int64 :=
  (div? a b).bind fun _ => ofInt? (Int.tmod a.toInt b.toInt)

def text (n : Int64) : String :=
  toString n.toInt

theorem fits_toInt (n : Int64) : Fits n.toInt :=
  ⟨Int64.le_toInt n, Int64.toInt_lt n⟩

theorem toInt_of_ofInt? {n : Int} {w : Int64} (h : ofInt? n = some w) : w.toInt = n := by
  unfold ofInt? at h
  split at h
  next fits =>
    cases h
    exact Int64.toInt_ofInt_of_le fits.1 fits.2
  next => cases h

theorem ofInt?_eq_some_iff {n : Int} {w : Int64} : ofInt? n = some w ↔ w.toInt = n := by
  refine ⟨toInt_of_ofInt?, fun h => ?_⟩
  subst h
  simp [ofInt?, fits_toInt]

theorem toInt_nearestSub (a b : Int64) :
    (nearestSub a b).toInt = max (-2 ^ (63 : Nat)) (min (2 ^ (63 : Nat) - 1) (a.toInt - b.toInt)) :=
  Int64.toInt_ofInt_of_le (by omega) (by omega)

end Sharding.Word
