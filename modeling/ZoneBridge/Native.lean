import ZoneBridge.Error

/-!
# Native arithmetic

The amplifier's native values are 32-bit signed integers, and the program computes with them in
that width with its arithmetic checked: an addition, subtraction, multiplication or negation
whose exact result leaves `[-2 ^ 31, 2 ^ 31 - 1]` stops the program with the panic of that
operation instead of giving a value. The absolute value negates a negative value, so the most
negative value has none and panics as a negation.
-/

namespace ZoneBridge

/-- An integer that a 32-bit signed field can hold. -/
def Fits32 (n : Int) : Prop := -2147483648 ≤ n ∧ n ≤ 2147483647

instance : DecidablePred Fits32 := fun _ => inferInstanceAs (Decidable (_ ∧ _))

namespace Native

/-- The exact result of an operation, if it fits 32 bits; the operation's panic otherwise. -/
def checked (op : Overflow) (n : Int) : Outcome Int :=
  if Fits32 n then .ok n else .error (.panic op)

def add (a b : Int) : Outcome Int := checked .add (a + b)

def sub (a b : Int) : Outcome Int := checked .sub (a - b)

def mul (a b : Int) : Outcome Int := checked .mul (a * b)

def neg (a : Int) : Outcome Int := checked .neg (-a)

/-- The absolute value: a negative value is negated. -/
def abs (a : Int) : Outcome Int := if a < 0 then neg a else .ok a

theorem checked_of_fits {op : Overflow} {n : Int} (h : Fits32 n) : checked op n = .ok n := by
  simp [checked, h]

theorem checked_of_not_fits {op : Overflow} {n : Int} (h : ¬ Fits32 n) :
    checked op n = .error (.panic op) := by
  simp [checked, h]

/-- Checked arithmetic gives the exact result exactly when it fits. -/
theorem checked_eq_ok_iff {op : Overflow} {n m : Int} : checked op n = .ok m ↔ Fits32 n ∧ n = m := by
  by_cases h : Fits32 n <;> simp [checked, h]

end Native

end ZoneBridge
