import SessionTokens.Text.Utf8
/-!
# Numbers as bytes

A number takes up a given width of bytes, the lowest one first (`little`) or last (`big`). Hashes
and most key formats use the latter order, Ed25519 the former.
-/

namespace SessionTokens.Endian

/-- The number of bytes, the lowest one first. -/
def ofLittle : Bytes → Nat
  | [] => 0
  | b :: rest => b.toNat + 256 * ofLittle rest

/-- A number in bytes, the lowest one first. -/
def little : Nat → Nat → Bytes
  | 0, _ => []
  | width + 1, n => UInt8.ofNat (n % 256) :: little width (n / 256)

/-- The number of bytes, the lowest one last. -/
def ofBig (bs : Bytes) : Nat := ofLittle bs.reverse

/-- A number in bytes, the lowest one last. -/
def big (width n : Nat) : Bytes := (little width n).reverse

end SessionTokens.Endian
