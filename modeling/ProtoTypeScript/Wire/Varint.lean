/-!
# Variable length numbers

A number below 2^64 is written seven bits to a byte, the lowest first; every byte but the last has
its high bit set.

* `encode` writes the shortest form;
* `take?` reads a number of at most ten bytes off the front. Zeros in front of the highest bit are
  accepted, a number of more than 64 bits is not.
-/

namespace ProtoTypeScript.Wire.Varint

/-- The shortest form of a number. -/
def encode (n : Nat) : List UInt8 :=
  if n < 128 then [UInt8.ofNat n]
  else UInt8.ofNat (n % 128 + 128) :: encode (n / 128)
termination_by n
decreasing_by omega

/-- The number of at most `count` bytes at the front, and what follows it. -/
def takeWithin : (count : Nat) → List UInt8 → Option (Nat × List UInt8)
  | 0, _ => none
  | _ + 1, [] => none
  | count + 1, b :: rest =>
    if b.toNat < 128 then some (b.toNat, rest)
    else
      match takeWithin count rest with
      | none => none
      | some (high, rest) => some (b.toNat - 128 + 128 * high, rest)

/-- The number of at most ten bytes and 64 bits at the front, and what follows it. -/
def take? (bytes : List UInt8) : Option (Nat × List UInt8) :=
  match takeWithin 10 bytes with
  | none => none
  | some (n, rest) => if n < UInt64.size then some (n, rest) else none

theorem length_lt_of_takeWithin {count n : Nat} {bytes rest : List UInt8}
    (h : takeWithin count bytes = some (n, rest)) : rest.length < bytes.length := by
  induction count generalizing bytes n rest with
  | zero => simp [takeWithin] at h
  | succ count ih =>
    cases bytes with
    | nil => simp [takeWithin] at h
    | cons b tail =>
      simp only [takeWithin] at h
      split at h
      · simp only [Option.some.injEq, Prod.mk.injEq] at h
        simp [← h.2]
      · split at h
        · simp at h
        · rename_i heq
          simp only [Option.some.injEq, Prod.mk.injEq] at h
          have := ih heq
          rw [← h.2]
          simp only [List.length_cons]
          omega

theorem length_lt_of_take? {n : Nat} {bytes rest : List UInt8}
    (h : take? bytes = some (n, rest)) : rest.length < bytes.length := by
  unfold take? at h
  split at h
  · simp at h
  · split at h
    · simp only [Option.some.injEq, Prod.mk.injEq] at h
      rename_i heq _
      rw [← h.2]
      exact length_lt_of_takeWithin heq
    · simp at h

end ProtoTypeScript.Wire.Varint
