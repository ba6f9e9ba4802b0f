/-!
# Bracketed lists

Messages and reports show a list of block indices between square brackets, its entries separated
by a comma and a blank.  The empty list is `[]`.
-/

namespace LocalRepair.Text

/-- The entries of `numbers` in square brackets. -/
def bracketed (numbers : List Nat) : String :=
  "[" ++ ", ".intercalate (numbers.map toString) ++ "]"

end LocalRepair.Text
