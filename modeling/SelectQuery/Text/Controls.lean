/-!
# Control characters and control sequences

What is left of a text for a reader without a terminal: control characters are left out, those that
lay out the text excepted, and so are the sequences that the escape character begins.
-/

namespace SelectQuery.Text

/-- The controls that lay out a text: the tab and what ends a line or a page. -/
def isLayout (c : Char) : Bool :=
  c = '\t' || c = '\n' || c = '\x0c' || c = '\r'

/-- What is shown outside sequences: all but the ASCII controls that do not lay out the text. -/
def isShown (c : Char) : Bool :=
  (' ' ≤ c && c != '\x7f') || isLayout c

/-- The character that begins a sequence. -/
def isEscape (c : Char) : Bool :=
  c = '\x1b'

/-- The characters that break off a sequence. -/
def isCancel (c : Char) : Bool :=
  c = '\x18' || c = '\x1a'

/-- The characters that may stand between the first and the last of a sequence. -/
def isIntermediate (c : Char) : Bool :=
  ' ' ≤ c && c ≤ '/'

/-- The characters of which parameters are made. -/
def isParameter (c : Char) : Bool :=
  '0' ≤ c && c ≤ '?'

/-- The characters that can end a sequence with parameters. -/
def isFinal (c : Char) : Bool :=
  '@' ≤ c && c ≤ '~'

/-- The characters that end a string: those with the eight-bit string terminator among the bytes of
    their encoding. -/
def isTerminator (c : Char) : Bool :=
  (String.utf8EncodeChar c).contains 0x9C

/-- Where in a sequence a reader is. -/
inductive SequencePlace where
  /-- In no sequence. -/
  | text
  /-- Behind the escape character. -/
  | escape
  /-- Behind an intermediate character of an escape sequence. -/
  | escapeMiddle
  /-- In a sequence with parameters. -/
  | control
  /-- At the start of a string for a device. -/
  | deviceStart
  /-- In the parameters of a string for a device. -/
  | deviceParameters
  /-- Behind an intermediate character of a string for a device. -/
  | deviceMiddle
  /-- In a string. -/
  | string
  /-- In a string with a command to the system, which the bell ends. -/
  | command
  deriving DecidableEq, Repr

namespace SequencePlace

/-- Where the escape character and the given one lead. -/
def behindEscape (c : Char) : SequencePlace :=
  if isIntermediate c then .escapeMiddle
  else if c = '[' then .control
  else if c = ']' then .command
  else if c = 'P' then .deviceStart
  else if c = 'X' || c = '^' || c = '_' then .string
  else if isParameter c || isFinal c then .text
  else .escape

/-- Where a reader is after the character. Whatever stands in a sequence without a part in it does
    not move the reader. -/
def next (p : SequencePlace) (c : Char) : SequencePlace :=
  if isCancel c then .text
  else if isEscape c then .escape
  else
    match p with
    | .text => .text
    | .escape => behindEscape c
    | .escapeMiddle => if isParameter c || isFinal c then .text else .escapeMiddle
    | .control => if isFinal c then .text else .control
    | .deviceStart =>
      if isIntermediate c then .deviceMiddle
      else if isParameter c then .deviceParameters
      else if isFinal c then .string
      else .deviceStart
    | .deviceParameters =>
      if isIntermediate c then .deviceMiddle
      else if c = '<' || c = '=' || c = '>' || c = '?' || isFinal c then .string
      else .deviceParameters
    | .deviceMiddle => if isParameter c || isFinal c then .string else .deviceMiddle
    | .string => if isTerminator c then .text else .string
    | .command => if c = '\x07' then .text else .command

/-- Whether a character that stands there is shown. The text is laid out inside the shorter
    sequences too, but not inside strings. -/
def shows (p : SequencePlace) (c : Char) : Bool :=
  match p with
  | .text => isShown c
  | .escape => isLayout c
  | .escapeMiddle => isLayout c
  | .control => isLayout c
  | _ => false

end SequencePlace

/-- A reader of a text: its place, and whether the last character was shown. -/
structure ControlReader where
  place : SequencePlace
  showing : Bool
  deriving DecidableEq, Repr

namespace ControlReader

/-- The reader at the start of a text. -/
def start : ControlReader :=
  ⟨.text, false⟩

/-- The reader after one more character. Behind a character that is shown further ones are shown
    also if a sequence is still open. It goes on with the next character that is not shown, and a
    character beyond ASCII closes it. -/
def read (r : ControlReader) (c : Char) : ControlReader :=
  if r.showing && isShown c then ⟨if c ≤ '\x7f' then r.place else .text, true⟩
  else if r.showing && !isCancel c && !isEscape c then ⟨r.place, false⟩
  else ⟨r.place.next c, r.place.shows c⟩

end ControlReader

/-- The characters that a reader shows. -/
def visible (r : ControlReader) : List Char → List Char
  | [] => []
  | c :: rest =>
    if (r.read c).showing then c :: visible (r.read c) rest else visible (r.read c) rest

/-- The text without controls and sequences. -/
def withoutControls (s : String) : String :=
  String.ofList (visible .start s.toList)

end SelectQuery.Text
