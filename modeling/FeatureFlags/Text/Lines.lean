/-!
# Text/Lines — line ends

A line ends with a line feed, with a carriage return, or with both in this order.
-/

namespace FeatureFlags

namespace Lines

/-- **Every line end as a single line feed.** -/
def unify : List Char → List Char
  | '\r' :: '\n' :: cs => '\n' :: unify cs
  | '\r' :: cs => '\n' :: unify cs
  | c :: cs => c :: unify cs
  | [] => []

/-- Without carriage returns nothing changes. -/
theorem unify_eq_self {cs : List Char} (h : '\r' ∉ cs) : unify cs = cs := by
  fun_induction unify cs <;> simp_all

/-- Every carriage return with a line feed behind it left out. -/
def dropReturns : List Char → List Char
  | '\r' :: '\n' :: cs => '\n' :: dropReturns cs
  | c :: cs => c :: dropReturns cs
  | [] => []

end Lines

end FeatureFlags
