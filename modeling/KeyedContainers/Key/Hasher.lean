/-!
# Hashing

A key is hashed as the bytes that it feeds to a hasher, and a hasher is any function from bytes
to 64-bit words. Five are at hand: the FNV-1a scheme, that scheme with few possible words, the
sum of the bytes, one that ignores them, and the perfect hashing of bytes known beforehand. The
coarse hashers make keys collide; the perfect one tells all known keys apart.
-/

namespace KeyedContainers

/-- Types whose values feed bytes to a hasher. -/
class Feed (α : Type) where
  feed : α → List UInt8

/-- The low bytes of a number, the least significant first. -/
def littleEndian : Nat → Nat → List UInt8
  | 0, _ => []
  | width + 1, n => UInt8.ofNat (n % 256) :: littleEndian width (n / 256)

/-- A function from the fed bytes to a hash. -/
structure Hasher where
  hashBytes : List UInt8 → UInt64

namespace Hasher

/-- The hash of a value. -/
def hash {α : Type} [Feed α] (hasher : Hasher) (a : α) : UInt64 :=
  hasher.hashBytes (Feed.feed a)

/-- The FNV-1a hash of no bytes. -/
def fnvOffset : UInt64 := 0xcbf29ce484222325

/-- The factor of the FNV-1a scheme. -/
def fnvPrime : UInt64 := 0x100000001b3

/-- The FNV-1a scheme: each byte is mixed in and the hash multiplied by the factor. -/
def fnv1a : Hasher :=
  ⟨fun bytes => bytes.foldl (fun hash byte => (hash ^^^ byte.toUInt64) * fnvPrime) fnvOffset⟩

/-- The remainder of another hash by a modulus. -/
def modulo (hasher : Hasher) (modulus : UInt64) : Hasher :=
  ⟨fun bytes => hasher.hashBytes bytes % modulus⟩

/-- The sum of the bytes. -/
def byteSum : Hasher := ⟨fun bytes => bytes.foldl (fun sum byte => sum + byte.toUInt64) 0⟩

/-- The same hash for everything. -/
def constant (hash : UInt64) : Hasher := ⟨fun _ => hash⟩

/-- Perfect hashing: each of the known byte sequences has its place among them for a hash. All
other sequences share one hash more. -/
def perfect (known : List (List UInt8)) : Hasher :=
  ⟨fun bytes => UInt64.ofNat (known.idxOf bytes)⟩

end Hasher

instance : Feed Bool := ⟨fun b => [if b then 1 else 0]⟩

instance : Feed Char := ⟨fun c => littleEndian 4 c.toNat⟩

instance : Feed Int64 := ⟨fun n => littleEndian 8 n.toUInt64.toNat⟩

/-- A text feeds its encoded characters and a byte that no encoding contains. -/
instance : Feed String := ⟨fun s => s.toUTF8.toList ++ [0xff]⟩

/-- A slice feeds what its text does. -/
instance : Feed String.Slice := ⟨fun s => Feed.feed s.copy⟩

end KeyedContainers
