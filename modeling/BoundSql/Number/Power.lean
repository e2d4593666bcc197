/-! Powers of natural numbers, by which numbers of one base are scaled in another. -/
namespace BoundSql

def power (base exponent : Nat) : Nat := Nat.pow base exponent

end BoundSql
