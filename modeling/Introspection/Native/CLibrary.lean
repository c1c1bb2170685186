import Introspection.Native.SharedObject
import Introspection.Native.Process
import Introspection.Native.Numerals
import Introspection.Native.FloatBits

/-!
# The functions of the system's shared objects

The C library and the math library define the functions below; the math library also reaches
the C library's. Each function reads its arguments from the registers its prototype names and
answers in the return register of its result class.

* Integers and characters: `abs`, `labs`, `llabs`, `toupper`, `tolower` and the character
  classes (`isdigit` and its kin), which answer their class bit of the C locale.
* Strings and memory: length, comparison (the difference of the first differing bytes, as
  unsigned), search, copying, filling, duplication and the heap (`malloc`, `calloc`, `free`).
* Numerals: `atoi`, `atol`, `strtol` and kin, `atof`, `strtod`, `strtof`.
* Error texts: `strerror` answers a copy of the text of an error number on the heap.
* Sorting and searching: `qsort` is a stable merge sort that halves its range, sorts both halves
  and merges them, comparing through the function pointer it is given; elements wider than 32
  bytes are sorted through pointers and moved once at the end. `bsearch` halves the range,
  comparing the key with the middle element.
* Mathematics: the elementary functions in double and single precision, with exact remainders,
  integral parts and vector lengths.
-/

namespace Introspection.Native

open Introspection.Text

/-- A computation of a shared object's function in a monad that reaches the process. -/
abbrev Routine (m : Type → Type) := ExceptT Failure m

namespace CLibrary

def cNames : List String :=
  ["abs", "labs", "llabs", "toupper", "tolower", "isalnum", "isalpha", "isblank", "iscntrl",
   "isdigit", "isgraph", "islower", "isprint", "ispunct", "isspace", "isupper", "isxdigit",
   "strlen", "strnlen", "strcmp", "strncmp", "memcmp", "strchr", "strrchr", "memchr", "strstr",
   "strcpy", "strncpy", "strcat", "memcpy", "memmove", "memset", "strdup", "malloc", "calloc",
   "free", "atoi", "atol", "atoll", "strtol", "strtoll", "strtoul", "strtoull", "atof", "strtod",
   "strtof", "strerror", "qsort", "bsearch", "sched_yield"]

def unaryDouble : List (String × (Float → Float)) :=
  [("sin", Float.sin), ("cos", Float.cos), ("tan", Float.tan), ("asin", Float.asin),
   ("acos", Float.acos), ("atan", Float.atan), ("sinh", Float.sinh), ("cosh", Float.cosh),
   ("tanh", Float.tanh), ("asinh", Float.asinh), ("acosh", Float.acosh), ("atanh", Float.atanh),
   ("exp", Float.exp), ("exp2", Float.exp2), ("log", Float.log), ("log2", Float.log2),
   ("log10", Float.log10), ("sqrt", Float.sqrt), ("cbrt", Float.cbrt), ("floor", Float.floor),
   ("ceil", Float.ceil), ("round", Float.round)]

def unarySingle : List (String × (Float32 → Float32)) :=
  [("sinf", Float32.sin), ("cosf", Float32.cos), ("tanf", Float32.tan), ("asinf", Float32.asin),
   ("acosf", Float32.acos), ("atanf", Float32.atan), ("sinhf", Float32.sinh),
   ("coshf", Float32.cosh), ("tanhf", Float32.tanh), ("expf", Float32.exp),
   ("exp2f", Float32.exp2), ("logf", Float32.log), ("log2f", Float32.log2),
   ("log10f", Float32.log10), ("sqrtf", Float32.sqrt), ("cbrtf", Float32.cbrt),
   ("floorf", Float32.floor), ("ceilf", Float32.ceil), ("roundf", Float32.round)]

/-- The double-precision functions of two arguments computed by the processor's library. -/
def binaryDouble : List (String × (Float → Float → Float)) :=
  [("pow", Float.pow), ("atan2", Float.atan2)]

/-- The single-precision functions of two arguments computed by the processor's library. -/
def binarySingle : List (String × (Float32 → Float32 → Float32)) :=
  [("powf", Float32.pow), ("atan2f", Float32.atan2)]

def exactNames : List String :=
  ["fabs", "fabsf", "trunc", "truncf", "fmod", "fmodf", "hypot", "hypotf", "fmax", "fmaxf",
   "fmin", "fminf", "copysign", "copysignf", "ldexp", "ldexpf", "scalbn", "scalbnf", "frexp",
   "frexpf", "modf", "modff", "lround", "llround", "lroundf", "llroundf"]

def mathNames : List String :=
  unaryDouble.map (·.1) ++ unarySingle.map (·.1) ++ binaryDouble.map (·.1) ++
    binarySingle.map (·.1) ++ exactNames

def defines : SharedObject → String → Bool
  | .c, name => cNames.contains name
  | .math, name => mathNames.contains name

def finds (o : SharedObject) (name : String) : Bool :=
  o.searchOrder.any fun d => defines d name

/-! ## Characters -/

/-- The class bits of a character of the C locale, as the class functions answer them. -/
def classBits (c : Int) : Nat :=
  if c < 0 || c > 127 then 0
  else
    let c := c.toNat
    let upper := 65 ≤ c && c ≤ 90
    let lower := 97 ≤ c && c ≤ 122
    let digit := 48 ≤ c && c ≤ 57
    let alpha := upper || lower
    let xdigit := digit || (65 ≤ c && c ≤ 70) || (97 ≤ c && c ≤ 102)
    let space := c == 32 || (9 ≤ c && c ≤ 13)
    let print := 32 ≤ c && c ≤ 126
    let graph := 33 ≤ c && c ≤ 126
    let blank := c == 32 || c == 9
    let cntrl := c < 32 || c == 127
    let punct := graph && !alpha && !digit
    let bit (b : Bool) (v : Nat) : Nat := if b then v else 0
    bit upper 256 + bit lower 512 + bit alpha 1024 + bit digit 2048 + bit xdigit 4096 +
      bit space 8192 + bit print 16384 + bit graph 32768 + bit blank 1 + bit cntrl 2 +
      bit punct 4 + bit (alpha || digit) 8

def classBit : String → Nat
  | "isupper" => 256 | "islower" => 512 | "isalpha" => 1024 | "isdigit" => 2048
  | "isxdigit" => 4096 | "isspace" => 8192 | "isprint" => 16384 | "isgraph" => 32768
  | "isblank" => 1 | "iscntrl" => 2 | "ispunct" => 4 | "isalnum" => 8
  | _ => 0

/-- The upper-case form of a character of the C locale; other values stay. -/
def toUpper (c : Int) : Int := if 97 ≤ c && c ≤ 122 then c - 32 else c

/-- The lower-case form of a character of the C locale; other values stay. -/
def toLower (c : Int) : Int := if 65 ≤ c && c ≤ 90 then c + 32 else c

/-! ## Error texts -/

def errorTexts : List String :=
  ["Success", "Operation not permitted", "No such file or directory", "No such process",
   "Interrupted system call", "Input/output error", "No such device or address",
   "Argument list too long", "Exec format error", "Bad file descriptor", "No child processes",
   "Resource temporarily unavailable", "Cannot allocate memory", "Permission denied",
   "Bad address", "Block device required", "Device or resource busy", "File exists",
   "Invalid cross-device link", "No such device", "Not a directory", "Is a directory",
   "Invalid argument", "Too many open files in system", "Too many open files",
   "Inappropriate ioctl for device", "Text file busy", "File too large",
   "No space left on device", "Illegal seek", "Read-only file system", "Too many links",
   "Broken pipe", "Numerical argument out of domain", "Numerical result out of range",
   "Resource deadlock avoided", "File name too long", "No locks available",
   "Function not implemented", "Directory not empty", "Too many levels of symbolic links", "",
   "No message of desired type", "Identifier removed", "Channel number out of range",
   "Level 2 not synchronized", "Level 3 halted", "Level 3 reset", "Link number out of range",
   "Protocol driver not attached", "No CSI structure available", "Level 2 halted",
   "Invalid exchange", "Invalid request descriptor", "Exchange full", "No anode",
   "Invalid request code", "Invalid slot", "", "Bad font file format", "Device not a stream",
   "No data available", "Timer expired", "Out of streams resources",
   "Machine is not on the network", "Package not installed", "Object is remote",
   "Link has been severed", "Advertise error", "Srmount error", "Communication error on send",
   "Protocol error", "Multihop attempted", "RFS specific error", "Bad message",
   "Value too large for defined data type", "Name not unique on network",
   "File descriptor in bad state", "Remote address changed",
   "Can not access a needed shared library", "Accessing a corrupted shared library",
   ".lib section in a.out corrupted", "Attempting to link in too many shared libraries",
   "Cannot exec a shared library directly",
   "Invalid or incomplete multibyte or wide character",
   "Interrupted system call should be restarted", "Streams pipe error", "Too many users",
   "Socket operation on non-socket", "Destination address required", "Message too long",
   "Protocol wrong type for socket", "Protocol not available", "Protocol not supported",
   "Socket type not supported", "Operation not supported", "Protocol family not supported",
   "Address family not supported by protocol", "Address already in use",
   "Cannot assign requested address", "Network is down", "Network is unreachable",
   "Network dropped connection on reset", "Software caused connection abort",
   "Connection reset by peer", "No buffer space available",
   "Transport endpoint is already connected", "Transport endpoint is not connected",
   "Cannot send after transport endpoint shutdown", "Too many references: cannot splice",
   "Connection timed out", "Connection refused", "Host is down", "No route to host",
   "Operation already in progress", "Operation now in progress", "Stale file handle",
   "Structure needs cleaning", "Not a XENIX named type file", "No XENIX semaphores available",
   "Is a named type file", "Remote I/O error", "Disk quota exceeded", "No medium found",
   "Wrong medium type", "Operation canceled", "Required key not available", "Key has expired",
   "Key has been revoked", "Key was rejected by service", "Owner died",
   "State not recoverable", "Operation not possible due to RF-kill",
   "Memory page has hardware error"]

def errorText (e : Int) : String :=
  let known := if e ≥ 0 then errorTexts.getD e.toNat "" else ""
  if known.isEmpty then "Unknown error " ++ toString e else known

/-! ## Routines -/

variable {m : Type → Type} [Monad m]

def step {α : Type} (x : m (Except Failure α)) : Routine m α := ExceptT.mk x

def cstring (p : Process m) (addr : Nat) : Routine m (List UInt8) := do
  return (← step (p.readCString addr)).toList

def bytes (p : Process m) (addr n : Nat) : Routine m (List UInt8) := do
  if n == 0 then return []
  return (← step (p.read addr n)).toList

def put (p : Process m) (addr : Nat) (b : List UInt8) : Routine m Unit :=
  if b.isEmpty then pure () else step (p.write addr (ByteArray.mk b.toArray))

/-- Stores the end of a read numeral through a pointer, when the pointer is not null. -/
def storeEnd (p : Process m) (endp addr : Nat) : Routine m Unit :=
  if endp == 0 then pure () else put p endp (leBytes 8 addr).toList

def int (v : Nat) : Returned := { int := v }

def float (v : Nat) : Returned := { float := v }

/-- Compares through a function pointer, as a signed 32-bit result. -/
def compare (p : Process m) (cmp a b : Nat) : Routine m Int := do
  return toSigned 32 (← step (p.callPointer cmp [a, b]))

/-- The sign of the difference of the first differing bytes of two runs, as the library
answers it. -/
def difference : List UInt8 → List UInt8 → Int
  | a :: as, b :: bs => if a == b then difference as bs else (a.toNat : Int) - b.toNat
  | a :: _, [] => a.toNat
  | [], b :: _ => -(b.toNat : Int)
  | [], [] => 0

def findRun (hay needle : List UInt8) : Option Nat :=
  (List.range (hay.length + 1)).find? fun i => (hay.drop i).take needle.length == needle

/-- Merges two sorted runs of element addresses, comparing through a function pointer; the
left element wins ties. Gives the addresses in merged order. -/
def mergeRuns (p : Process m) (cmp : Nat) : List Nat → List Nat → Nat → Routine m (List Nat)
  | [], ys, _ => pure ys
  | xs, [], _ => pure xs
  | _, _, 0 => pure []
  | x :: xs, y :: ys, fuel + 1 => do
    if (← compare p cmp x y) ≤ 0 then return x :: (← mergeRuns p cmp xs (y :: ys) fuel)
    else return y :: (← mergeRuns p cmp (x :: xs) ys fuel)

/-- Sorts a list of element addresses by what they point at: the first half, then the second,
then a merge. -/
def sortPointers (p : Process m) (cmp : Nat) : Nat → List Nat → Routine m (List Nat)
  | 0, xs => pure xs
  | fuel + 1, xs => do
    if xs.length ≤ 1 then return xs
    let n1 := xs.length / 2
    let left ← sortPointers p cmp fuel (xs.take n1)
    let right ← sortPointers p cmp fuel (xs.drop n1)
    mergeRuns p cmp left right (xs.length + 1)

/-- Sorts `n` elements of `size` bytes in place: each half is sorted in place before the merge,
which compares elements where they stand and then moves the merged run into place. -/
def sortInPlace (p : Process m) (cmp size : Nat) : Nat → Nat → Nat → Routine m Unit
  | 0, _, _ => pure ()
  | fuel + 1, base, n => do
    if n ≤ 1 then return
    let n1 := n / 2
    let n2 := n - n1
    sortInPlace p cmp size fuel base n1
    sortInPlace p cmp size fuel (base + n1 * size) n2
    let left := (List.range n1).map fun i => base + i * size
    let right := (List.range n2).map fun i => base + (n1 + i) * size
    let order ← mergeRuns p cmp left right (n + 1)
    let mut out : List UInt8 := []
    for a in order do
      out := out ++ (← bytes p a size)
    put p base out

def qsort (p : Process m) (base n size cmp : Nat) : Routine m Unit := do
  if n ≤ 1 then return
  if size > 32 then
    let order ← sortPointers p cmp n ((List.range n).map fun i => base + i * size)
    let mut out : List UInt8 := []
    for a in order do
      out := out ++ (← bytes p a size)
    put p base out
  else sortInPlace p cmp size n base n

/-- Searches a sorted array for a key by halving; gives the element's address or zero. -/
def bsearch (p : Process m) (key base size cmp : Nat) : Nat → Nat → Nat → Routine m Nat
  | 0, _, _ => pure 0
  | fuel + 1, lo, hi => do
    if lo ≥ hi then return 0
    let idx := (lo + hi) / 2
    let elem := base + idx * size
    let c ← compare p cmp key elem
    if c < 0 then bsearch p key base size cmp fuel lo idx
    else if c > 0 then bsearch p key base size cmp fuel (idx + 1) hi
    else return elem

def duplicate (p : Process m) (s : List UInt8) : Routine m Nat := do
  let addr ← step (p.alloc (s.length + 1))
  put p addr (s ++ [0])
  return addr

def runC (p : Process m) (name : String) (r : Registers) : Routine m Returned := do
  let i32 (k : Nat) : Int := toSigned 32 (r.int k)
  let i64 (k : Nat) : Int := toSigned 64 (r.int k)
  let ptr (k : Nat) : Nat := r.int k
  match name with
  | "abs" => return int (ofInt32 (i32 0).natAbs)
  | "labs" | "llabs" => return int (ofInt64 (i64 0).natAbs)
  | "toupper" => return int (ofInt32 (toUpper (i32 0)))
  | "tolower" => return int (ofInt32 (toLower (i32 0)))
  | "isalnum" | "isalpha" | "isblank" | "iscntrl" | "isdigit" | "isgraph" | "islower"
  | "isprint" | "ispunct" | "isspace" | "isupper" | "isxdigit" =>
    return int (classBits (i32 0) &&& classBit name)
  | "strlen" => return int (← cstring p (ptr 0)).length
  | "strnlen" => return int (min (← cstring p (ptr 0)).length (r.int 1))
  | "strcmp" => return int (ofInt32 (difference (← cstring p (ptr 0)) (← cstring p (ptr 1))))
  | "strncmp" =>
    let n := r.int 2
    let a := (← cstring p (ptr 0)).take n
    let b := (← cstring p (ptr 1)).take n
    return int (ofInt32 (difference a b))
  | "memcmp" =>
    let n := r.int 2
    return int (ofInt32 (difference (← bytes p (ptr 0) n) (← bytes p (ptr 1) n)))
  | "strchr" | "strrchr" =>
    let s ← cstring p (ptr 0)
    let c := (r.int 1 % 256).toUInt8
    let whole := s ++ [0]
    let hits := (List.range whole.length).filter fun k => whole.getD k 0 == c
    let hit := if name == "strchr" then hits.head? else hits.getLast?
    return int ((hit.map (ptr 0 + ·)).getD 0)
  | "memchr" =>
    let s ← bytes p (ptr 0) (r.int 2)
    let c := (r.int 1 % 256).toUInt8
    return int (((s.findIdx? (· == c)).map (ptr 0 + ·)).getD 0)
  | "strstr" =>
    let h ← cstring p (ptr 0)
    let n ← cstring p (ptr 1)
    return int (((findRun h n).map (ptr 0 + ·)).getD 0)
  | "strcpy" =>
    put p (ptr 0) ((← cstring p (ptr 1)) ++ [0])
    return int (ptr 0)
  | "strncpy" =>
    let n := r.int 2
    let s := (← cstring p (ptr 1)).take n
    put p (ptr 0) (s ++ List.replicate (n - s.length) 0)
    return int (ptr 0)
  | "strcat" =>
    let d ← cstring p (ptr 0)
    put p (ptr 0 + d.length) ((← cstring p (ptr 1)) ++ [0])
    return int (ptr 0)
  | "memcpy" | "memmove" =>
    put p (ptr 0) (← bytes p (ptr 1) (r.int 2))
    return int (ptr 0)
  | "memset" =>
    put p (ptr 0) (List.replicate (r.int 2) (r.int 1 % 256).toUInt8)
    return int (ptr 0)
  | "strdup" => return int (← duplicate p (← cstring p (ptr 0)))
  | "malloc" => return int (← step (p.alloc (r.int 0)))
  | "calloc" =>
    let total := r.int 0 * r.int 1
    if total ≥ 2 ^ 64 then return int 0
    return int (← step (p.alloc total))
  | "free" =>
    p.free (ptr 0)
    return {}
  | "atoi" =>
    let v := ((readInteger (← cstring p (ptr 0)) 10).map (·.signed)).getD 0
    return int (ofInt32 v)
  | "atol" | "atoll" =>
    let v := ((readInteger (← cstring p (ptr 0)) 10).map (·.signed)).getD 0
    return int (ofInt64 v)
  | "strtol" | "strtoll" | "strtoul" | "strtoull" =>
    let s ← cstring p (ptr 0)
    match readInteger s (toSigned 32 (r.int 2)).toNat with
    | none =>
      storeEnd p (ptr 1) (ptr 0)
      return int 0
    | some v =>
      storeEnd p (ptr 1) (ptr 0 + v.used)
      let signed := name == "strtol" || name == "strtoll"
      return int (if signed then ofInt64 v.signed else v.unsigned)
  | "atof" =>
    return float (((readCFloat Decimal.binary64 (← cstring p (ptr 0))).map (·.1)).getD 0)
  | "strtod" | "strtof" =>
    let fmt := if name == "strtod" then Decimal.binary64 else Decimal.binary32
    match readCFloat fmt (← cstring p (ptr 0)) with
    | none =>
      storeEnd p (ptr 1) (ptr 0)
      return float 0
    | some (bits, used) =>
      storeEnd p (ptr 1) (ptr 0 + used)
      return float bits
  | "strerror" => return int (← duplicate p (errorText (i32 0)).toUTF8.toList)
  | "qsort" =>
    qsort p (ptr 0) (r.int 1) (r.int 2) (ptr 3)
    return {}
  | "bsearch" =>
    let n := r.int 2
    return int (← bsearch p (ptr 0) (ptr 1) (r.int 3) (ptr 4) (n.log2 + 2) 0 n)
  | "sched_yield" => return int 0
  | other => throw (.symbolNotFound other none)

/-! ## Mathematics -/

def doubleResult (operands : List Nat) (x : Float) : Nat :=
  if x.isNaN then FloatBits.nanOf Decimal.binary64 operands else x.toBits.toNat

def singleResult (operands : List Nat) (x : Float32) : Nat :=
  if x.isNaN then FloatBits.nanOf Decimal.binary32 operands else x.toBits.toNat

def double (b : Nat) : Float := Float.ofBits b.toUInt64

def single (b : Nat) : Float32 := Float32.ofBits (b % 2 ^ 32).toUInt32

def runMath (p : Process m) (name : String) (r : Registers) : Routine m Returned := do
  let x := r.float 0
  let y := r.float 1
  let xs := x % 2 ^ 32
  let ys := y % 2 ^ 32
  let d := Decimal.binary64
  let s := Decimal.binary32
  if let some (_, f) := unaryDouble.find? (·.1 == name) then
    return float (doubleResult [x] (f (double x)))
  if let some (_, f) := unarySingle.find? (·.1 == name) then
    return float (singleResult [xs] (f (single xs)))
  if let some (_, f) := binaryDouble.find? (·.1 == name) then
    return float (doubleResult [x, y] (f (double x) (double y)))
  if let some (_, f) := binarySingle.find? (·.1 == name) then
    return float (singleResult [xs, ys] (f (single xs) (single ys)))
  match name with
  | "fabs" => return float (FloatBits.magnitude d x)
  | "fabsf" => return float (FloatBits.magnitude s xs)
  | "trunc" => return float (FloatBits.trunc d x)
  | "truncf" => return float (FloatBits.trunc s xs)
  | "fmod" => return float (FloatBits.fmod d x y)
  | "fmodf" => return float (FloatBits.fmod s xs ys)
  | "hypot" => return float (FloatBits.hypot d x y)
  | "hypotf" => return float (FloatBits.hypot s xs ys)
  | "fmax" => return float (FloatBits.fmax d x y (double x > double y))
  | "fmaxf" => return float (FloatBits.fmax s xs ys (single xs > single ys))
  | "fmin" => return float (FloatBits.fmax d x y (double x < double y))
  | "fminf" => return float (FloatBits.fmax s xs ys (single xs < single ys))
  | "copysign" => return float (FloatBits.withSignOf d x y)
  | "copysignf" => return float (FloatBits.withSignOf s xs ys)
  | "ldexp" | "scalbn" =>
    return float (doubleResult [x] ((double x).scaleB (toSigned 32 (r.int 0))))
  | "ldexpf" | "scalbnf" =>
    return float (singleResult [xs] ((single xs).scaleB (toSigned 32 (r.int 0))))
  | "frexp" =>
    let (mant, e) := if FloatBits.isNaN d x || FloatBits.isInf d x || FloatBits.magnitude d x == 0
      then (if FloatBits.isNaN d x then FloatBits.quiet d x else x, (0 : Int))
      else let (fr, e) := (double x).frExp; (fr.toBits.toNat, e)
    put p (r.int 0) (leBytes 4 (ofInt32 e)).toList
    return float mant
  | "frexpf" =>
    let (mant, e) := if FloatBits.isNaN s xs || FloatBits.isInf s xs || FloatBits.magnitude s xs == 0
      then (if FloatBits.isNaN s xs then FloatBits.quiet s xs else xs, (0 : Int))
      else let (fr, e) := (single xs).frExp; (fr.toBits.toNat, e)
    put p (r.int 0) (leBytes 4 (ofInt32 e)).toList
    return float mant
  | "modf" =>
    let (frac, whole) := FloatBits.modf d x
    put p (r.int 0) (leBytes 8 whole).toList
    return float frac
  | "modff" =>
    let (frac, whole) := FloatBits.modf s xs
    put p (r.int 0) (leBytes 4 whole).toList
    return float frac
  | "lround" | "llround" =>
    return int (FloatBits.lround d (doubleResult [x] (double x).round))
  | "lroundf" | "llroundf" =>
    return int (FloatBits.lround s (singleResult [xs] (single xs).round))
  | other => runC p other r

def run (p : Process m) (o : SharedObject) (name : String) (r : Registers) : Routine m Returned :=
  if o == .math && defines .math name then runMath p name r else runC p name r

end CLibrary

end Introspection.Native
