import FileTrace.Text.Numeral

namespace FileTrace.Json

inductive Scalar where
  | number (value : Nat)
  | text (value : String)
  deriving DecidableEq, Repr

def escape (c : Char) : List Char :=
  if c = '"' then ['\\', '"']
  else if c = '\\' then ['\\', '\\']
  else if c = '\x08' then ['\\', 'b']
  else if c = '\t' then ['\\', 't']
  else if c = '\n' then ['\\', 'n']
  else if c = '\x0c' then ['\\', 'f']
  else if c = '\r' then ['\\', 'r']
  else if c.toNat < 0x20 then ['\\', 'u'] ++ Numeral.hex 4 c.toNat
  else [c]

def stringPieces (s : String) : List (List Char) :=
  [['"']] ++ s.toList.map escape ++ [['"']]

def Scalar.pieces : Scalar → List (List Char)
  | .number n => [Numeral.decimal n]
  | .text s => stringPieces s

def memberPieces (field : String × Scalar) : List (List Char) :=
  stringPieces field.1 ++ [[':']] ++ field.2.pieces

def objectPieces (fields : List (String × Scalar)) : List (List Char) :=
  [['\x7b']] ++ [[',']].intercalate (fields.map memberPieces) ++ [['\x7d']]

def arrayPieces (values : List Scalar) : List (List Char) :=
  [['[']] ++ [[',']].intercalate (values.map Scalar.pieces) ++ [[']']]

def object (fields : List (String × Scalar)) : List Char := (objectPieces fields).flatten

def array (values : List Scalar) : List Char := (arrayPieces values).flatten

end FileTrace.Json
