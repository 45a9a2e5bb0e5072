/-!
# Powers

A module that imports a theory of monoids has powers from there, too, and a definition that is read next to it
would be written with those. So that a power is one and the same everywhere, that of core goes first.
-/

namespace EntityMapping

/-- The power of core with a natural exponent. -/
@[default_instance 20000]
instance (priority := high) powNat {α : Type} [NatPow α] : Pow α Nat := instPowNat

end EntityMapping
