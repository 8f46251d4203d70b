/-
# Suffrage.Text.Bytes -- byte strings and their order

Storage keys and addresses are ordered byte by byte.  `bigEndian` writes a number in a
field of fixed width, most significant byte first, so that the order of the bytes is
the order of the numbers.  `scan` finds the keys that start with given bytes: in byte order
they stand together.
-/
import Suffrage.Radix

namespace Suffrage.Text

set_option autoImplicit false

/-- A byte string; `<` compares the first byte that differs. -/
abbrev Bytes := List UInt8

/-- The UTF-8 bytes of a text. -/
def utf8 (s : String) : Bytes := s.toUTF8.data.toList

theorem utf8_inj {s t : String} (same : utf8 s = utf8 t) : s = t :=
  String.toByteArray_inj.mp (ByteArray.ext (Array.toList_inj.mp same))

/-- `n` in `width` bytes, most significant first. -/
def bigEndian : (width : Nat) → Nat → Bytes
  | 0, _ => []
  | width + 1, n =>
      UInt8.ofNat (n / Radix.pow 256 width) :: bigEndian width (n % Radix.pow 256 width)

theorem length_bigEndian (width n : Nat) : (bigEndian width n).length = width := by
  induction width generalizing n with
  | zero => rfl
  | succ width ih => simp [bigEndian, ih]

/-- Of items in ascending order of their keys, those whose keys start with `lead`: from
the first key at or after `lead`, as long as they match. -/
def scan {α : Type} (key : α → Bytes) (lead : Bytes) (items : List α) : List α :=
  (items.dropWhile fun x => key x < lead).takeWhile fun x => lead.isPrefixOf (key x)

end Suffrage.Text
