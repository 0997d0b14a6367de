import Mathlib.Data.String.Basic

/-!
# Texts

What the language does with strings: `trim` and `toUpperCase`; and what the
parser of XML and `zod` decide about them, as a parameter.
-/

namespace PaymentPortal.Model

/-- The white space and line ends that `trim` removes. -/
def isWhiteSpace (char : Char) : Bool :=
  [0x9, 0xA, 0xB, 0xC, 0xD, 0x20, 0xA0, 0x1680, 0x2000, 0x2001, 0x2002, 0x2003,
    0x2004, 0x2005, 0x2006, 0x2007, 0x2008, 0x2009, 0x200A, 0x2028, 0x2029,
    0x202F, 0x205F, 0x3000, 0xFEFF].contains char.toNat

/-- `trim`. -/
def trimText (text : String) : String :=
  String.ofList (((text.toList.dropWhile isWhiteSpace).reverse.dropWhile
    isWhiteSpace).reverse)

/--
The upper case of a character where that is in ASCII: of ı, ſ, ß and the Latin
ligatures too.  Any other character is left alone.
-/
def upperCase (char : Char) : String :=
  match char.toNat with
  | 0x131 => "I"
  | 0x17F => "S"
  | 0xDF => "SS"
  | 0xFB00 => "FF"
  | 0xFB01 => "FI"
  | 0xFB02 => "FL"
  | 0xFB03 => "FFI"
  | 0xFB04 => "FFL"
  | 0xFB05 => "ST"
  | 0xFB06 => "ST"
  | _ => String.singleton char.toUpper

/-- `toUpperCase`, to be compared with texts in ASCII. -/
def toUpperCase (text : String) : String :=
  String.ofList (text.toList.flatMap fun char => (upperCase char).toList)

/-- What the parser and `zod` decide about texts. -/
structure XmlFormats where
  number : String → Option Rat
  localDateTime : String → Bool
  date : String → Bool

end PaymentPortal.Model
