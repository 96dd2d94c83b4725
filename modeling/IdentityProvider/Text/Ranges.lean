/-!
# Ranges of code points

A class of characters is a list of closed ranges of code points in ascending
order, so a look-up may stop at the first range that begins beyond the point.
-/

namespace IdentityProvider.Text

abbrev Ranges := List (Nat × Nat)

def Ranges.holds : Ranges → Nat → Bool
  | [], _ => false
  | (low, high) :: rest, n => if n < low then false else n ≤ high || Ranges.holds rest n

/-- Each range begins beyond the end of the one before it. -/
def Ranges.Ascending : Ranges → Prop
  | [] => True
  | [(low, high)] => low ≤ high
  | (low, high) :: (low', high') :: rest =>
    low ≤ high ∧ high < low' ∧ Ranges.Ascending ((low', high') :: rest)

end IdentityProvider.Text
