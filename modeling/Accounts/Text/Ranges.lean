/-! Sets of code points, given by the ascending numbers at which membership changes. -/
namespace Accounts.Ranges

/-- Whether `n` is in the set that starts at the first number, ends before the second, starts again at the third,
and so on. The numbers ascend. -/
def contains : List Nat → Nat → Bool
  | [], _ => false
  | [start], n => start ≤ n
  | start :: stop :: rest, n => start ≤ n && (n < stop || contains rest n)

end Accounts.Ranges
