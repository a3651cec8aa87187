import Ipbench.Foundation.Machine
import Ipbench.Foundation.Scanf

namespace Ipbench
namespace Discard

open Foundation

/-!
# The arguments of the discard target

`parse_args` tries its formats one after the other at a pointer into the string, and moves
the pointer by the number that `%n` has stored.  A format at which the string ends gives
EOF, which is not zero, so the pointer moves by the number of an earlier item, or by what
the uninitialised variable holds.  A comma behind an item is skipped, but not required.

The first letters of the formats differ, so at most one of them does not fail.
-/

/-! ## The formats -/

/-- `%llu`, `%u`, `%hu` and `%16[^, ]`. -/
inductive Conversion where
  | llu
  | u
  | hu
  | nameSet
deriving DecidableEq, Repr

inductive Varp where
  | bps
  | size
  | warmup
  | cooldown
  | testTime
  | ifname
  | protocol
deriving DecidableEq, Repr

/-- `struct args`, with the literal text of the format and its conversion. -/
structure Args where
  fmt : List UInt8
  conversion : Conversion
  varp : Varp
deriving DecidableEq, Repr

def argDesc : List Args :=
  [⟨literal "bps=", .llu, .bps⟩, ⟨literal "size=", .u, .size⟩,
    ⟨literal "warmup=", .llu, .warmup⟩, ⟨literal "cooldown=", .llu, .cooldown⟩,
    ⟨literal "test_time=", .llu, .testTime⟩, ⟨literal "if=", .nameSet, .ifname⟩,
    ⟨literal "proto=", .hu, .protocol⟩]

def Conversion.scan : Conversion → List UInt8 → Scan
  | .llu | .u | .hu => scanUnsigned
  | .nameSet => scanSet 16 [44, 32]

def sscanf (arg : List UInt8) (desc : Args) : Scan :=
  scanLiteral desc.conversion.scan desc.fmt arg

/-! ## The globals -/

/-- The globals, the number of `proto` as its bits. -/
structure Globals where
  bps : Nat
  size : Nat
  warmup : Nat
  cooldown : Nat
  testTime : Nat
  ifname : List UInt8
  protocol : Nat
deriving DecidableEq, Repr

def defaults : Globals where
  bps := 10000000
  size := 64
  warmup := 10
  cooldown := 10
  testTime := 10
  ifname := literal "eth1"
  protocol := 0

/-- One more than the largest value of the type. -/
def Conversion.limit : Conversion → Nat
  | .llu => 0x10000000000000000
  | .u => 0x100000000
  | .hu => 0x10000
  | .nameSet => 0x100

/-- What a conversion stores for a number.  Only the library knows it for one that does
not fit. -/
def unsignedValue (overflowed : Nat → List UInt8 → Nat) (limit : Nat) (value : List UInt8) :
    Nat :=
  let magnitude := leadingNumber (value.dropWhile fun byte => !isDigitByte byte)
  if limit ≤ magnitude then overflowed limit value
  else if value.head? = some 45 then (limit - magnitude) % limit
  else magnitude

def store (overflowed : Nat → List UInt8 → Nat) (desc : Args) (value : List UInt8)
    (globals : Globals) : Globals :=
  let number := unsignedValue overflowed desc.conversion.limit value
  match desc.varp with
  | .bps => { globals with bps := number }
  | .size => { globals with size := number }
  | .warmup => { globals with warmup := number }
  | .cooldown => { globals with cooldown := number }
  | .testTime => { globals with testTime := number }
  | .ifname => { globals with ifname := value }
  | .protocol => { globals with protocol := number }

/-! ## The loop -/

def ifnamsiz : Nat := 16

/-- The pointer as an offset in the string, and `nchar`.  Behind the zero byte and before
the string nothing is known. -/
inductive ArgState where
  | scanning (offset : Nat) (nchar : Int) (globals : Globals)
  | returned (status : Int) (globals : Globals)
  | outside
deriving DecidableEq, Repr

/-- An accepted item, with the move of the pointer, the number of characters that it
matched and the number that was left before; and the bytes written to `ifname`. -/
inductive ArgEvent where
  | accepted (advance : Int) (matched left : Nat)
  | ifname (bytes : Nat)
deriving DecidableEq, Repr

/-- The first format whose result is not zero. -/
def recognised (arg : List UInt8) : Option (Args × Scan) :=
  argDesc.findSome? fun desc =>
    if sscanf arg desc = .failed then none else some (desc, sscanf arg desc)

/-- `arg += nchar`, and the comma. -/
def advance (arg : List UInt8) (offset : Nat) (nchar : Int) (globals : Globals) : ArgState :=
  let target := (offset : Int) + nchar
  if 0 ≤ target ∧ target ≤ arg.length then
    if arg[target.toNat]? = some 44 then .scanning (target.toNat + 1) nchar globals
    else .scanning target.toNat nchar globals
  else .outside

/-- A name is stored with a zero byte. -/
def nameEvents (desc : Args) (value : List UInt8) : List ArgEvent :=
  if desc.varp = .ifname then [.ifname (value.length + 1)] else []

/-- One turn of the loop.  `%n` stores an `int`. -/
def turn (overflowed : Nat → List UInt8 → Nat) (arg : CString) :
    ArgState → ArgState × List ArgEvent
  | .scanning offset nchar globals =>
      let text := arg.bytes.drop offset
      if text = [] ∨ text.head? = some 32 then (.returned 0 globals, [])
      else
        match recognised text with
        | none => (.returned 1 globals, [])
        | some (desc, .stored value rest) =>
            let matched := text.length - rest.length
            let count := Int.bmod matched 0x100000000
            (advance arg.bytes offset count (store overflowed desc value globals),
              .accepted count matched text.length :: nameEvents desc value)
        | some (_, _) =>
            (advance arg.bytes offset nchar globals,
              [.accepted nchar text.length text.length])
  | state => (state, [])

def argMachine (overflowed : Nat → List UInt8 → Nat) (arg : CString) :
    Machine ArgState Unit ArgEvent where
  step state _ := turn overflowed arg state

/-- So many turns from the start of the string. -/
def parseArgs (overflowed : Nat → List UInt8 → Nat) (arg : CString) (nchar : Int)
    (globals : Globals) (turns : Nat) : ArgState × List ArgEvent :=
  (argMachine overflowed arg).run (.scanning 0 nchar globals) (List.replicate turns ())

example : (parseArgs (fun _ _ => 0) ⟨literal "size=9,if=lo x", by decide⟩ 7 defaults 3).1 =
    .returned 0 { defaults with size := 9, ifname := literal "lo" } := by decide +kernel

end Discard
end Ipbench
