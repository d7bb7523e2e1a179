import FileTrace.Text.Numeral

namespace FileTrace

structure LocalTime where
  year : Int
  month : Nat
  day : Nat
  hour : Nat
  minute : Nat
  second : Nat
  deriving DecidableEq, Repr

def padded (width n : Nat) : List Char :=
  let digits := Numeral.decimal n
  List.replicate (width - digits.length) '0' ++ digits

namespace LocalTime

def yearText (year : Int) : List Char :=
  if year < 0 then ['-'] ++ padded 4 year.natAbs
  else if 9999 < year then ['+'] ++ padded 4 year.natAbs
  else padded 4 year.natAbs

def stamp (t : LocalTime) : String :=
  String.ofList (yearText t.year ++ ['/'] ++ padded 2 t.month ++ ['/'] ++ padded 2 t.day ++ ['_'] ++
    padded 2 t.hour ++ [':'] ++ padded 2 t.minute)

end LocalTime

def LocalTime.epoch : LocalTime := ⟨1970, 1, 1, 0, 0, 0⟩

end FileTrace
