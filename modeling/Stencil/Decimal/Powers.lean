/-!
# Powers of two and of ten

The two bases that numbers are written in.
-/

namespace Stencil.Decimal

/-- Two to the power `n`. -/
def twoTo (n : Nat) : Nat := Nat.pow 2 n

/-- Ten to the power `n`. -/
def tenTo (n : Nat) : Nat := Nat.pow 10 n

end Stencil.Decimal
