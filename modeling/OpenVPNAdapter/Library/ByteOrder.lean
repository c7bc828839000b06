import Mathlib.Algebra.Group.Nat.Defs
import Mathlib.Data.List.Basic

namespace Library.ByteOrder

abbrev Byte := BitVec 8

inductive Endian
  | little
  | big
deriving DecidableEq, Repr

/-- Four bytes as a word, the first the most significant. -/
def word (b3 b2 b1 b0 : Byte) : BitVec 32 := b3 ++ b2 ++ b1 ++ b0

/-- Byte `i` of a word, byte 0 being the least significant. -/
def byte (w : BitVec 32) (i : Nat) : Byte := w.extractLsb' (8 * i) 8

def store (e : Endian) (w : BitVec 32) : List Byte :=
  match e with
  | .little => [byte w 0, byte w 1, byte w 2, byte w 3]
  | .big => [byte w 3, byte w 2, byte w 1, byte w 0]

def load (e : Endian) (bytes : List Byte) : BitVec 32 :=
  match e, bytes with
  | .little, b0 :: b1 :: b2 :: b3 :: _ => word b3 b2 b1 b0
  | .big, b3 :: b2 :: b1 :: b0 :: _ => word b3 b2 b1 b0
  | _, _ => 0

def swap (w : BitVec 32) : BitVec 32 := word (byte w 0) (byte w 1) (byte w 2) (byte w 3)

/-- Between the order of a machine and the big-endian one; the two directions are the same. -/
def hostToBig (e : Endian) (w : BitVec 32) : BitVec 32 :=
  match e with
  | .little => swap w
  | .big => w

@[simp] theorem byte_word_zero (b3 b2 b1 b0 : Byte) : byte (word b3 b2 b1 b0) 0 = b0 := by
  ext i hi
  simp [byte, word]
  grind

@[simp] theorem byte_word_one (b3 b2 b1 b0 : Byte) : byte (word b3 b2 b1 b0) 1 = b1 := by
  ext i hi
  simp [byte, word]
  grind

@[simp] theorem byte_word_two (b3 b2 b1 b0 : Byte) : byte (word b3 b2 b1 b0) 2 = b2 := by
  ext i hi
  simp [byte, word]
  grind

@[simp] theorem byte_word_three (b3 b2 b1 b0 : Byte) : byte (word b3 b2 b1 b0) 3 = b3 := by
  ext i hi
  simp [byte, word]
  grind

theorem word_byte (w : BitVec 32) : word (byte w 3) (byte w 2) (byte w 1) (byte w 0) = w := by
  ext i hi
  simp [byte, word]
  grind

/-- What a machine stores after the conversion does not depend on its own order. -/
theorem store_hostToBig (e : Endian) (w : BitVec 32) : store e (hostToBig e w) = store .big w := by
  cases e with
  | big => rfl
  | little => simp [store, hostToBig, swap]

theorem hostToBig_load (e : Endian) (b3 b2 b1 b0 : Byte) (bytes : List Byte) :
    hostToBig e (load e (b3 :: b2 :: b1 :: b0 :: bytes)) = word b3 b2 b1 b0 := by
  cases e with
  | big => rfl
  | little => simp [load, hostToBig, swap]

@[simp] theorem store_length (e : Endian) (w : BitVec 32) : (store e w).length = 4 := by
  cases e <;> rfl

theorem store_word (b3 b2 b1 b0 : Byte) : store .big (word b3 b2 b1 b0) = [b3, b2, b1, b0] := by
  simp [store]

end Library.ByteOrder
