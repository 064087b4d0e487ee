/-! Blank characters and trimming. A text is trimmed on both ends before a header, a claim or a
setting is read, and always by this one set of characters. -/

namespace TenantAccess.Text

/-- The space separators of Unicode, the line ends and tabulations, and the byte order mark. The
next-line control, the Mongolian vowel separator and the zero width space are not blank. -/
def isBlank (c : Char) : Bool :=
  let n := c.toNat
  (0x9 ≤ n && n ≤ 0xD) || n == 0x20 || n == 0xA0 || n == 0x1680 || (0x2000 ≤ n && n ≤ 0x200A) ||
    n == 0x2028 || n == 0x2029 || n == 0x202F || n == 0x205F || n == 0x3000 || n == 0xFEFF

/-- The characters between the first and the last one that is not blank. -/
def trimmed (text : List Char) : List Char :=
  ((text.dropWhile isBlank).reverse.dropWhile isBlank).reverse

def trim (text : String) : String :=
  String.ofList (trimmed text.toList)

def isBlankText (text : String) : Bool :=
  text.toList.all isBlank

end TenantAccess.Text
