/-!
# Powers

Powers of natural numbers and integers are taken with the exponentiation of `Nat` and `Int`
themselves. A library that adds algebraic structures brings other instances for `x ^ n`, equal
in value but different as terms, and may make one of them the default for numerals. Raising the
priority of the plain instance, for resolution and as the default, makes every power in this
library the same term wherever it is elaborated.
-/

attribute [instance(10000)] instPowNat
attribute [default_instance 10000] instPowNat
