/-!
# Text helpers

White space in the Unicode sense (the `White_Space` property): the ASCII blanks and line
breaks, the next line and no-break space characters, the Ogham space mark, the spaces from
en quad to hair space, the line and paragraph separators, the narrow no-break space, the
medium mathematical space and the ideographic space.  Trimming drops such characters at
either end of a text.
-/

namespace PromptTrainer
namespace Text

/-- Whether a character is white space in the Unicode sense. -/
def isSpace (c : Char) : Bool :=
  let n := c.toNat
  (9 ≤ n && n ≤ 13) || n == 32 || n == 0x85 || n == 0xA0 || n == 0x1680 ||
    (0x2000 ≤ n && n ≤ 0x200A) || n == 0x2028 || n == 0x2029 || n == 0x202F ||
    n == 0x205F || n == 0x3000

/-- The text without white space at its start. -/
def trimStart (s : String) : String := String.ofList (s.toList.dropWhile isSpace)

/-- The text without white space at its end. -/
def trimEnd (s : String) : String :=
  String.ofList ((s.toList.reverse.dropWhile isSpace).reverse)

/-- The text without white space at either end. -/
def trim (s : String) : String := trimEnd (trimStart s)

end Text
end PromptTrainer
