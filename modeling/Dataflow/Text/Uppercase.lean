namespace Dataflow.Text

/-- The letters beyond ASCII whose capitals are in ASCII: sharp s, dotless i, long s, and the
ligatures of f, i, l, s and t. -/
def asciiCapitals : List (Nat × String) := [
  (0xdf, "SS"), (0x131, "I"), (0x17f, "S"), (0xfb00, "FF"), (0xfb01, "FI"), (0xfb02, "FL"),
  (0xfb03, "FFI"), (0xfb04, "FFL"), (0xfb05, "ST"), (0xfb06, "ST")]

def upperChar (c : Char) : List Char := ((asciiCapitals.lookup c.toNat).map String.toList).getD [c.toUpper]

/-- The text in capitals, as far as these are in ASCII. A letter whose capitals lie elsewhere stays as it is, and so a
text becomes an ASCII word exactly if its upper case is that word. -/
def upper (s : String) : String := String.ofList (s.toList.flatMap upperChar)

end Dataflow.Text
