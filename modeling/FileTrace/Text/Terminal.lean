namespace FileTrace.Text.Terminal

inductive Sequence where
  | none
  | escape
  | escapeMarks
  | control
  | controlNumbers
  | controlMarks
  | controlBroken
  | device
  | deviceNumbers
  | deviceMarks
  | deviceBroken
  | deviceData
  | system
  | message
  deriving DecidableEq, Repr

namespace Sequence

def ofSecond (c : Char) : Sequence :=
  if c < '0' then .escapeMarks
  else if c = 'P' then .device
  else if c = '[' then .control
  else if c = ']' then .system
  else if c = 'X' ∨ c = '^' ∨ c = '_' then .message
  else .none

def extend (s : Sequence) (c : Char) : Sequence :=
  match s with
  | .none => .none
  | .escape => ofSecond c
  | .escapeMarks => if c < '0' then .escapeMarks else .none
  | .control => if c < '0' then .controlMarks else if c < '@' then .controlNumbers else .none
  | .controlNumbers =>
    if c < '0' then .controlMarks
    else if c < '<' then .controlNumbers
    else if c < '@' then .controlBroken
    else .none
  | .controlMarks => if c < '0' then .controlMarks else if c < '@' then .controlBroken else .none
  | .controlBroken => if c < '@' then .controlBroken else .none
  | .device => if c < '0' then .deviceMarks else if c < '@' then .deviceNumbers else .deviceData
  | .deviceNumbers =>
    if c < '0' then .deviceMarks
    else if c < '<' then .deviceNumbers
    else if c < '@' then .deviceBroken
    else .deviceData
  | .deviceMarks =>
    if c < '0' then .deviceMarks else if c < '@' then .deviceBroken else .deviceData
  | .deviceBroken => .deviceBroken
  | .deviceData => .deviceData
  | .system => .system
  | .message => .message

/-- Sequences that the byte 9C ends wherever it stands, also inside a character. -/
def endsInByte : Sequence → Bool
  | .deviceBroken => true
  | .deviceData => true
  | .message => true
  | _ => false

def next (s : Sequence) (c : Char) : Sequence :=
  if c = '\x1b' then .escape
  else if c = '\x18' ∨ c = '\x1a' then .none
  else if c < ' ' ∨ c = '\x7f' then (if s = .system ∧ c = '\x07' then .none else s)
  else if c < '\x80' then s.extend c
  else if s.endsInByte ∧ 0x9C ∈ String.utf8EncodeChar c then .none
  else s

def takesBlanks : Sequence → Bool
  | .device => true
  | .deviceNumbers => true
  | .deviceMarks => true
  | .deviceBroken => true
  | .deviceData => true
  | .system => true
  | .message => true
  | _ => false

def isLayout (c : Char) : Bool := c = '\t' || c = '\n' || c = '\x0c' || c = '\r'

def shows (s : Sequence) (c : Char) : Bool :=
  if isLayout c then !s.takesBlanks else s = .none && !decide (c < ' ') && c ≠ '\x7f'

end Sequence

/-- What is shown of a text that follows on a sequence. White space that breaks into a sequence is
shown with all that comes behind it up to a control character; then the sequence goes on. -/
def filter (s : Sequence) (shown : Bool) : List Char → List Char
  | [] => []
  | c :: rest =>
    if (if shown then Sequence.none else s).shows c then
      c :: filter (if c < '\x80' then s else .none) true rest
    else filter (s.next c) false rest

theorem filter_none {text : List Char} (h : ∀ c ∈ text, Sequence.none.shows c = true)
    (shown : Bool) : filter .none shown text = text := by
  induction text generalizing shown with
  | nil => rfl
  | cons c rest ih =>
      have hc : Sequence.none.shows c = true := h c (List.mem_cons_self ..)
      simp [filter, hc, ih fun d hd => h d (List.mem_cons_of_mem _ hd)]

def plain (text : String) : String := String.ofList (filter .none false text.toList)

def coloured (text : String) : String := "\x1b[33m" ++ text ++ "\x1b[0m"

end FileTrace.Text.Terminal
