namespace SyntaxSweep

def isBlank (c : Char) : Bool :=
  let n := c.toNat
  (9 ≤ n && n ≤ 13) || n == 0x20 || n == 0x85 || n == 0xA0 || n == 0x1680 ||
    (0x2000 ≤ n && n ≤ 0x200A) || n == 0x2028 || n == 0x2029 || n == 0x202F || n == 0x205F ||
    n == 0x3000

namespace Text

def trimStart (text : List Char) : List Char :=
  text.dropWhile isBlank

def trimEnd (text : List Char) : List Char :=
  (trimStart text.reverse).reverse

def trim (text : List Char) : List Char :=
  trimEnd (trimStart text)

theorem trimStart_append (text : List Char) {c : Char} (hc : isBlank c) :
    trimStart (text ++ [c]) = if trimStart text = [] then [] else trimStart text ++ [c] := by
  unfold trimStart
  by_cases h : text.dropWhile isBlank = []
  · simp [List.dropWhile_append, h, hc]
  · simp [List.dropWhile_append, h]

theorem trimEnd_append (text : List Char) {c : Char} (hc : isBlank c) :
    trimEnd (text ++ [c]) = trimEnd text := by
  simp [trimEnd, trimStart, hc]

theorem trim_append (text : List Char) {c : Char} (hc : isBlank c) :
    trim (text ++ [c]) = trim text := by
  rw [trim, trim, trimStart_append text hc]
  split
  · next h => rw [h]
  · exact trimEnd_append _ hc

end Text

def trimmedEnd (text : String) : String :=
  String.ofList (Text.trimEnd text.toList)

def trimmed (text : String) : String :=
  String.ofList (Text.trim text.toList)

end SyntaxSweep
