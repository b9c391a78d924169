import ContractTypes.Text.CodePoint
import ContractTypes.Text.PrintableTable

/-!
Quoted texts, as messages show them.

A text stands between single quotes, or between double quotes if it holds a single quote and no
double one.  The quote in use and the backslash are escaped, and so is each code point without a
visible form.
-/

namespace ContractTypes

namespace CodePoint

/-- Whether a code point has a visible form of its own; the space counts as one. -/
def isPrintable (point : CodePoint) : Bool :=
  if point.val < 0x80 then point.isBetween 0x20 0x7E
  else !PrintableTable.hiddenRanges.any (fun range => point.isBetween range.1 range.2)

def numberEscape (point : CodePoint) : Text :=
  if point.val < 0x100 then "\\x" ++ Text.ofHex 2 point.val
  else if point.val < 0x10000 then "\\u" ++ Text.ofHex 4 point.val
  else "\\U" ++ Text.ofHex 8 point.val

def quotedIn (quote point : CodePoint) : Text :=
  if point = quote || point = '\\' then ['\\', point]
  else if point = '\n' then "\\n"
  else if point = '\r' then "\\r"
  else if point = '\t' then "\\t"
  else if point.isPrintable then [point]
  else point.numberEscape

end CodePoint

namespace Text

def quoteOf (text : Text) : CodePoint :=
  if text.contains (CodePoint.ofChar '\'') && !text.contains (CodePoint.ofChar '"') then '"' else
    '\''

def quoted (text : Text) : Text :=
  [text.quoteOf] ++ text.flatMap (CodePoint.quotedIn text.quoteOf) ++ [text.quoteOf]

end Text

end ContractTypes
