/-!
# Ranges of characters

A class of characters is given by its ranges, both ends included, in increasing order.
-/

namespace MapStyle.Text

def isWithin (ranges : Array (Nat × Nat)) (c : Char) : Bool :=
  ranges.any fun r => r.1 ≤ c.toNat && c.toNat ≤ r.2

end MapStyle.Text
