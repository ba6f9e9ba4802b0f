/-!
# Ascending lists

A finite set of indices is listed in ascending order and without repetition.  `ofList` brings any
list into that form.
-/

namespace LocalRepair.Ascending

/-- Puts a number at its place in an ascending list, unless it is there already. -/
def insert (number : Nat) : List Nat → List Nat
  | [] => [number]
  | head :: tail =>
    if number < head then number :: head :: tail
    else if number = head then head :: tail
    else head :: insert number tail

/-- The distinct members of a list, ascending. -/
def ofList (numbers : List Nat) : List Nat :=
  numbers.foldr insert []

theorem mem_insert {number member : Nat} {numbers : List Nat} :
    member ∈ insert number numbers ↔ member = number ∨ member ∈ numbers := by
  induction numbers with
  | nil => simp [insert]
  | cons head tail ih => grind [insert]

theorem pairwise_insert {number : Nat} {numbers : List Nat}
    (ascending : numbers.Pairwise (· < ·)) : (insert number numbers).Pairwise (· < ·) := by
  induction numbers with
  | nil => simp [insert]
  | cons head tail ih =>
    rw [List.pairwise_cons] at ascending
    grind [insert, mem_insert, List.pairwise_cons]

/-- The ascending form has the same members. -/
theorem mem_ofList {member : Nat} {numbers : List Nat} :
    member ∈ ofList numbers ↔ member ∈ numbers := by
  induction numbers with
  | nil => simp [ofList]
  | cons head tail ih =>
    rw [ofList, List.foldr_cons, mem_insert, ← ofList, ih, List.mem_cons]

/-- The ascending form ascends, hence repeats nothing. -/
theorem pairwise_ofList (numbers : List Nat) : (ofList numbers).Pairwise (· < ·) := by
  induction numbers with
  | nil => simp [ofList]
  | cons head tail ih => exact pairwise_insert ih

end LocalRepair.Ascending
