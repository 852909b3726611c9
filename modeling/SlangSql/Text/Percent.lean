import SlangSql.Text.Ascii

/-!
# Percent signs

In addresses a percent sign with two hexadecimal digits after it stands for a byte.
Any other percent sign stands for itself.
-/

set_option autoImplicit false

namespace SlangSql.Text

/-- The bytes that characters stand for. -/
def percentBytes : List Char → List UInt8
  | '%' :: a :: b :: rest =>
    match hexValue? a, hexValue? b with
    | some h, some l => UInt8.ofNat (16 * h + l) :: percentBytes rest
    | _, _ => '%'.val.toUInt8 :: percentBytes (a :: b :: rest)
  | c :: rest => (String.singleton c).toUTF8.toList ++ percentBytes rest
  | [] => []

end SlangSql.Text
