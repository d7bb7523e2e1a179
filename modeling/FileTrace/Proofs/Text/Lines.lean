import FileTrace.Proofs.Text.Ascii

namespace FileTrace.Text

def newline : UInt8 := 10

def lines (bytes : List UInt8) : List (List UInt8) := (bytes.splitOn newline).dropLast

def unfinished (bytes : List UInt8) : List UInt8 :=
  (bytes.splitOn newline).getLast (List.splitOn_ne_nil _ _)

theorem lines_cons {line : List UInt8} (whole : newline ∉ line) (rest : List UInt8) :
    lines (line ++ newline :: rest) = line :: lines rest := by
  rw [lines, List.splitOn_append_cons_self_of_not_mem whole,
    List.dropLast_cons_of_ne_nil (List.splitOn_ne_nil _ _), lines]

theorem lines_of_not_mem {bytes : List UInt8} (unended : newline ∉ bytes) : lines bytes = [] := by
  rw [lines, List.splitOn_eq_singleton unended, List.dropLast_singleton]

theorem unfinished_append (bytes rest : List UInt8) :
    unfinished (bytes ++ newline :: rest) = unfinished rest := by
  simp only [unfinished, List.splitOn_append_cons_self]
  exact List.getLast_append_of_ne_nil _ (List.splitOn_ne_nil _ _)

theorem lines_flatMap {bodies : List (List UInt8)} (whole : ∀ line ∈ bodies, newline ∉ line) :
    lines (bodies.flatMap (· ++ [newline])) = bodies := by
  induction bodies with
  | nil => rfl
  | cons line rest ih =>
    rw [List.flatMap_cons, List.append_assoc, List.singleton_append,
      lines_cons (whole line List.mem_cons_self),
      ih fun line h => whole line (List.mem_cons_of_mem _ h)]

theorem unfinished_flatMap (bodies : List (List UInt8)) :
    unfinished (bodies.flatMap (· ++ [newline])) = [] := by
  induction bodies with
  | nil => rfl
  | cons line rest ih =>
    rw [List.flatMap_cons, List.append_assoc, List.singleton_append, unfinished_append, ih]

theorem length_splitOn_newline (bytes : List UInt8) :
    (bytes.splitOn newline).length = bytes.count newline + 1 := by
  induction bytes with
  | nil => rfl
  | cons b bytes ih =>
    rw [List.splitOn_cons_eq_if_modifyHead, List.count_cons]
    split <;> simp [ih]

theorem length_lines (bytes : List UInt8) : (lines bytes).length = bytes.count newline := by
  rw [lines, List.length_dropLast, length_splitOn_newline, Nat.add_sub_cancel]

theorem count_newline_encode (text : List Char) :
    (encode text).count newline = text.count '\n' := count_encode (by decide) text

theorem count_newline_decodeLossy (bytes : List UInt8) :
    (decodeLossy bytes).count '\n' = bytes.count newline :=
  count_decodeLossy (a := newline) (by decide) bytes

end FileTrace.Text
