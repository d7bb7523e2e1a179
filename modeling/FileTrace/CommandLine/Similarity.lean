namespace FileTrace.CommandLine

namespace Similarity

def mark (c : Char) (least bound : Nat) : Nat → List (Char × Bool) → Option (List (Char × Bool))
  | _, [] => none
  | place, (d, used) :: rest =>
    if bound ≤ place then none
    else if least ≤ place ∧ c = d ∧ used = false then some ((d, true) :: rest)
    else (mark c least bound (place + 1) rest).map ((d, used) :: ·)

def pair (range : Nat) : Nat → List Char → List (Char × Bool) → List Char × List (Char × Bool)
  | _, [], marked => ([], marked)
  | place, c :: rest, marked =>
    match mark c (place - range) (min marked.length (place + range + 1)) 0 marked with
    | some marked =>
      let (found, last) := pair range (place + 1) rest marked
      (c :: found, last)
    | none => pair range (place + 1) rest marked

def displaced : List Char → List Char → Nat
  | a :: as, b :: bs => (if a = b then 0 else 1) + displaced as bs
  | _, _ => 0

def jaro (a b : List Char) : Float :=
  if a.isEmpty && b.isEmpty then 1
  else
    let (found, marked) := pair (max a.length b.length / 2 - 1) 0 a (b.map fun c => (c, false))
    if found.isEmpty then 0
    else
      let partners := (marked.filter (·.2)).map (·.1)
      let common := found.length
      let swapped := displaced found partners / 2
      (common.toFloat / a.length.toFloat + common.toFloat / b.length.toFloat +
        (common - swapped).toFloat / common.toFloat) / 3

end Similarity

def mostSimilar? {α : Type} (word : String) (candidates : List (String × α)) : Option α :=
  let step (best : Option (Float × α)) (candidate : String × α) : Option (Float × α) :=
    let score := Similarity.jaro word.toList candidate.1.toList
    if score > 0.7 then
      match best with
      | some (top, _) => if score < top then best else some (score, candidate.2)
      | none => some (score, candidate.2)
    else best
  (candidates.foldl step none).map (·.2)

end FileTrace.CommandLine
