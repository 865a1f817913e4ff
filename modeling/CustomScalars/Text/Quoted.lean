import CustomScalars.Text.Printable

/-!
# Quoted text

A quoted text stands between two equal quotes: single ones, unless the text holds a single quote
and no double one. The quote itself and the backslash take a backslash, three control characters
have letters of their own, and every other character that is not printable is written as its code
in the shortest of three fixed widths.
-/
namespace CustomScalars.Text

def singleQuote : Char := '\x27'

def doubleQuote : Char := '\x22'

def backslash : Char := '\x5c'

def quoteFor (text : List Char) : Char :=
  if text.contains singleQuote && !text.contains doubleQuote then doubleQuote else singleQuote

/-- The last `width` hexadecimal digits of a code, most significant first. -/
def hexDigits : Nat → Nat → List Char
  | 0, _ => []
  | width + 1, code => hexDigits width (code / 16) ++ [Nat.digitChar (code % 16)]

def escapeCode (code : Nat) : List Char :=
  if code < 0x100 then backslash :: 'x' :: hexDigits 2 code
  else if code < 0x10000 then backslash :: 'u' :: hexDigits 4 code
  else backslash :: 'U' :: hexDigits 8 code

def escapeChar (quote char : Char) : List Char :=
  if char = quote || char = backslash then [backslash, char]
  else if char = '\n' then [backslash, 'n']
  else if char = '\r' then [backslash, 'r']
  else if char = '\t' then [backslash, 't']
  else if isPrintable char then [char]
  else escapeCode char.toNat

def encloseWith (quote : Char) (body : List Char) : List Char := quote :: (body ++ [quote])

def quoted (text : List Char) : List Char :=
  encloseWith (quoteFor text) (text.flatMap (escapeChar (quoteFor text)))

/-- The same form for bytes: beyond the visible ASCII characters a byte is written as its code. -/
def escapeByte (quote : Char) (byte : UInt8) : List Char :=
  if byte.toNat < 0x7F then escapeChar quote (Char.ofNat byte.toNat) else escapeCode byte.toNat

def quotedBytes (bytes : List UInt8) : List Char :=
  let quote := quoteFor (bytes.map fun byte => Char.ofNat byte.toNat)
  'b' :: encloseWith quote (bytes.flatMap (escapeByte quote))

end CustomScalars.Text
