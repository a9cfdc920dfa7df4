import FunctionMetrics.Value.Basic

/-! # The order of a set

A set of numbers is a row of slots. Each member asks for the slot that its value names and takes another where that one
is taken; the members are listed from slot to slot. What is no number names no slot, so a set with such a member is
listed as it was written. -/

namespace FunctionMetrics

namespace Number

/-- The prime that values are reduced by. -/
def reductionPrime : Nat := 2305843009213693951

/-- A whole number reduced; there is no -1 among the results. -/
def reduced (negative : Bool) (size : Nat) : Int :=
  let rest : Int := size % reductionPrime
  if ! negative then rest else if rest = 1 then -2 else -rest

/-- What a number's value comes to, the same for equal numbers of both kinds. Doubling 61 times changes nothing modulo
the prime, so a unit of `2 ^ -1074` counts as `2 ^ 24`. A NaN has no value. -/
def code? : Number → Option Int
  | .int n => some (reduced (n < 0) n.natAbs)
  | .float (.finite negative m) => some (reduced negative (m.units * 16777216))
  | .float (.infinity negative) => some (if negative then -314159 else 314159)
  | .float .nan => none

end Number

namespace Value

/-- How many slots there are for `count` members: a power of two, and from five members on more than twice as many. -/
def slotCount (count : Nat) : Nat := if count < 5 then 8 else Nat.pow 2 (Nat.log2 (2 * count) + 1)

/-- The first free slot of `slot` and the nine behind it; near the end of the row only `slot` itself is tried. -/
def freeNear? (size : Nat) (taken : List Nat) (slot : Nat) : Option Nat :=
  let near := if slot + 9 < size then 10 else 1
  ((List.range near).map (slot + ·)).find? fun s => ! taken.contains s

/-- A free slot, tried at `slot` first; `rest` is what is left of the member's code. Once that is used up, the jumps
lead to every slot. -/
def freeSlot (fuel size : Nat) (taken : List Nat) (slot rest : Nat) : Nat :=
  match fuel, freeNear? size taken slot with
  | _, some s => s
  | 0, none => slot
  | fuel + 1, none => freeSlot fuel size taken ((slot * 5 + 1 + rest / 32) % size) (rest / 32)

/-- The slots of members with these codes, in their order. A negative code counts from the end of a word of 64 bits. -/
def slotsOf (size : Nat) (codes : List Int) : List Nat :=
  codes.foldl (fun taken code =>
    let word := (code % 18446744073709551616).toNat
    taken ++ [freeSlot (size + 13) size taken (word % size) word]) []

/-- The members of a set in the order in which it lists them. -/
def listed (members : List Value) : List Value :=
  match members.mapM fun v => v.asNumber?.bind Number.code? with
  | none => members
  | some codes =>
    let slots := slotsOf (slotCount members.length) codes
    ((slots.zip members).mergeSort fun a b => a.1 ≤ b.1).map (·.2)

end Value

end FunctionMetrics
