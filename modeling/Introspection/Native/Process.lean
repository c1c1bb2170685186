import Introspection.Failure

/-!
# Calls into the system's shared objects

A function of a system shared object is called with argument registers: integers and pointers
travel in the integer registers in order, floating-point values in the floating-point registers
in order. It answers in two return registers, one of each class, and the caller reads the one
its declared result class names. A function reads the registers its own prototype names, so a
caller that declares other slots passes other values.

What a function reaches of the process is given as operations: reading and writing memory,
reading C strings, allocating and freeing on the C heap, and calling the function at a code
address with integer arguments.
-/

namespace Introspection.Native

/-- The argument registers of a call. -/
structure Registers where
  ints : List Nat := []
  floats : List Nat := []
  deriving Inhabited, Repr

namespace Registers

/-- The `i`-th integer register; zero past the ones the caller filled. -/
def int (r : Registers) (i : Nat) : Nat := r.ints.getD i 0

def float (r : Registers) (i : Nat) : Nat := r.floats.getD i 0

end Registers

/-- The return registers of a call. -/
structure Returned where
  int : Nat := 0
  float : Nat := 0
  deriving Inhabited, Repr

/-- What a function of a shared object reaches of the process. -/
structure Process (m : Type → Type) where
  read : Nat → Nat → m (Except Failure ByteArray)
  write : Nat → ByteArray → m (Except Failure Unit)
  readCString : Nat → m (Except Failure ByteArray)
  alloc : Nat → m (Except Failure Nat)
  free : Nat → m Unit
  /-- Calls the function at a code address with integer arguments, giving the integer return
  register. -/
  callPointer : Nat → List Nat → m (Except Failure Nat)

/-- The value of the low `bits` bits of a register as a signed integer. -/
def toSigned (bits : Nat) (v : Nat) : Int :=
  let v := v % 2 ^ bits
  if v < 2 ^ (bits - 1) then v else (v : Int) - 2 ^ bits

/-- The register holding a 32-bit integer result: the low 32 bits, zero above. -/
def ofInt32 (v : Int) : Nat := (v % 2 ^ 32).toNat

def ofInt64 (v : Int) : Nat := (v % 2 ^ 64).toNat

def leBytes (n v : Nat) : ByteArray :=
  ByteArray.mk ((List.range n).map fun i => (v / 256 ^ i % 256).toUInt8).toArray

def ofLEBytes (b : ByteArray) : Nat :=
  b.toList.foldr (fun x acc => acc * 256 + x.toNat) 0

theorem toSigned_zero (bits : Nat) : toSigned bits 0 = 0 := by
  simp [toSigned]

end Introspection.Native
