namespace FileTrace.Names

def insert (name : String) : List String → List String
  | [] => [name]
  | n :: rest =>
    if name = n then n :: rest
    else if name < n then name :: n :: rest
    else n :: insert name rest

def sort (names : List String) : List String := names.foldr insert []

def find? {α : Type} (name : String) (table : List (String × α)) : Option α :=
  (table.find? (·.1 == name)).map (·.2)

end FileTrace.Names
