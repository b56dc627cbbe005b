/-!
# Powers of integers

A power of an integer is the one that the core language computes, also in modules that know of
powers in every monoid. So `2 ^ 63` is the same term in a definition and in a theorem about it.
-/

attribute [instance (1100), default_instance (20000)] instPowNat
