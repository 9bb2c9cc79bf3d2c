/-!
Powers of natural numbers.

`a ^ n` is the natural number power of the core library in every module of this one, also where
algebra is imported that gives every monoid powers of its own: a definition and the statements
about it then speak of the same function.
-/

namespace ControlComponent

attribute [scoped instance (10000)] instPowNat

attribute [default_instance 10000] instPowNat

end ControlComponent
