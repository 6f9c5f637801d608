/-!
# Balance positions

The amplifier states balance as a position, left, centre or right, written `L`, `C` and `R`,
together with a magnitude. The host sees one signed number instead: negative to the left,
positive to the right, zero at the centre.
-/

namespace ZoneBridge

/-- Where the balance leans. -/
inductive BalancePosition where
  | left
  | center
  | right
deriving DecidableEq, Repr, Inhabited

namespace BalancePosition

/-- The letter of a position. -/
def letter : BalancePosition → String
  | .left => "L"
  | .center => "C"
  | .right => "R"

/-- The letters of all positions, in the order of the constructors. -/
def letters : List String := ["L", "C", "R"]

/-- The position of an index into `letters`. -/
def ofIndex : Nat → BalancePosition
  | 0 => .left
  | 1 => .center
  | _ => .right

/-- The signed value of a position and magnitude: `-m` to the left, `0` at the centre, `m` to
the right. -/
def signed (p : BalancePosition) (m : Int) : Int :=
  match p with
  | .left => -m
  | .center => 0
  | .right => m

/-- The position on the other side: left and right swap, the centre stays. -/
def opposite : BalancePosition → BalancePosition
  | .left => .right
  | .center => .center
  | .right => .left

@[simp] theorem ofIndex_letters (p : BalancePosition) :
    ofIndex (letters.idxOf p.letter) = p := by
  cases p <;> rfl

end BalancePosition

end ZoneBridge
