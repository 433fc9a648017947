import PageWalk.Text.Character
import PageWalk.Text.Utf8

/-!
# Percent encoding

A byte is written as a percent sign and two hexadecimal digits. A character that may not stand for
itself is written as the bytes of its UTF-8 form.
-/

namespace PageWalk.Url.Percent

set_option autoImplicit false

def byte (b : UInt8) : List Char :=
  ['%', Text.upperHexDigit (b.toNat / 16), Text.upperHexDigit (b.toNat % 16)]

/-- Writes every character that is not kept as bytes. -/
def encode (keeps : Char → Bool) (s : List Char) : List Char :=
  s.flatMap fun c => if keeps c then [c] else (Text.Utf8.encode [c]).flatMap byte

/-- The bytes of a text, those after percent signs included. -/
def decode : List Char → List UInt8
  | [] => []
  | '%' :: a :: b :: rest =>
    match Text.hexValue a, Text.hexValue b with
    | some high, some low => UInt8.ofNat (16 * high + low) :: decode rest
    | _, _ => Text.Utf8.encode ['%'] ++ decode (a :: b :: rest)
  | c :: rest => Text.Utf8.encode [c] ++ decode rest

/-- Printable ASCII but for some characters. -/
def printableBut (excluded : List Char) (c : Char) : Bool :=
  0x20 ≤ c.toNat && c.toNat < 0x7F && !excluded.contains c

/-- What a path without structure and the host of an unknown scheme keep. -/
def keepsInOpaque : Char → Bool :=
  printableBut []

def keepsInFragment : Char → Bool :=
  printableBut [' ', '"', '<', '>', '\x60']

def keepsInQuery : Char → Bool :=
  printableBut [' ', '"', '#', '<', '>']

/-- In the query of a special scheme an apostrophe is encoded too. -/
def keepsInSpecialQuery : Char → Bool :=
  printableBut [' ', '"', '#', '<', '>', '\'']

def keepsInPath : Char → Bool :=
  printableBut [' ', '"', '#', '<', '>', '?', '\x60', '\x7b', '\x7d']

def keepsInUserinfo : Char → Bool :=
  printableBut [' ', '"', '#', '<', '>', '?', '\x60', '\x7b', '\x7d', '/', ':', ';', '=', '@', '[',
    '\\', ']', '^', '|']

end PageWalk.Url.Percent
