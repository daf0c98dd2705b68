import SecureWorld.Machine

/-!
# Trial services

Services that try out the way of a call: a greeting and the four operations on 32-bit numbers. A quotient
by zero is zero.
-/

namespace SecureWorld.Arithmetic

variable {σ : Type}

/-- Do nothing but log it. -/
def dummy : Secure σ Word := do
  log .info "tee_services" "Dummy secure service"
  return 0

/-- The sum of two numbers, modulo 2^32. -/
def add (a b : Word) : Secure σ Word :=
  return (a.toUInt32 + b.toUInt32).toUInt64

/-- The difference of two numbers, modulo 2^32. -/
def subtract (a b : Word) : Secure σ Word :=
  return (a.toUInt32 - b.toUInt32).toUInt64

/-- The product of two numbers, modulo 2^32. -/
def multiply (a b : Word) : Secure σ Word :=
  return (a.toUInt32 * b.toUInt32).toUInt64

/-- The quotient of two numbers of 32 bits, zero where there is none. -/
def divide (a b : Word) : Secure σ Word :=
  return (if b.toUInt32 = 0 then 0 else a.toUInt32 / b.toUInt32).toUInt64

end SecureWorld.Arithmetic
