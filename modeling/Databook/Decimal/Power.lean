/-!
# Powers

The powers of this library are the core's, also where a library of algebra is open beside it and
brings a power of its own for every monoid. The numbers of a decimal are read by computation, and
the decision procedures for naturals know this power.
-/

namespace Databook

attribute [instance (2000)] instPowNat

-- A literal exponent is elaborated through a default instance, not through the one above.
attribute [default_instance (20000)] instPowNat

end Databook
