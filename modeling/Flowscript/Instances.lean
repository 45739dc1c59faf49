/-!
# Instances

Powers, sums and hashes are those of the core library, whatever else is imported: an algebraic
hierarchy brings others, which mean the same but are other terms.  What is said of all items of a
list is decided item by item, also where their type is finite.
-/

set_option autoImplicit false

attribute [instance (1100)] instPowNat Zero.ofOfNat0 instHashableChar List.decidableBAll

-- The exponent of a literal power is found by a default instance, whatever the others are.
attribute [default_instance 20000] instPowNat
