/-! Powers of whole numbers: throughout this library `b ^ n` is the power of the core library, so
that a definition means the same whatever else is imported beside it. -/

namespace SqlGateway

attribute [scoped instance (default + 100)] instPowNat

-- where only a literal tells what the exponent is
attribute [default_instance high + 1] instPowNat

end SqlGateway
