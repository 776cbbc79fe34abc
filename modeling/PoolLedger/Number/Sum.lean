/-!
# Sums

Sums of integers over lists. `sumOf_append` says that a list can be summed in parts.
-/

namespace PoolLedger

/-- The sum of `f a` over the members `a` of a list. -/
def sumOf (f : α → Int) (as : List α) : Int := as.foldr (fun a n => f a + n) 0

@[simp] theorem sumOf_nil (f : α → Int) : sumOf f [] = 0 := rfl

@[simp] theorem sumOf_cons (f : α → Int) (a : α) (as : List α) :
    sumOf f (a :: as) = f a + sumOf f as := rfl

@[simp] theorem sumOf_append (f : α → Int) (as bs : List α) :
    sumOf f (as ++ bs) = sumOf f as + sumOf f bs := by
  induction as with
  | nil => simp
  | cons a as ih => rw [List.cons_append, sumOf_cons, sumOf_cons, ih, Int.add_assoc]

end PoolLedger
