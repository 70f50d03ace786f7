/-! What a terminal shows of a text: the characters that are neither controls nor part of a sequence
of controls. Controls that count as blanks are shown, also within most sequences. -/

set_option autoImplicit false

namespace LexReport.Text

inductive Sequence where
  /-- After the escape character, which tells the kind of the sequence by what follows. -/
  | escape
  /-- After a mark such as those that select a set of characters. -/
  | selection
  /-- Among the parameters of a control function. -/
  | control
  /-- At the start of a text to a device, among its parameters, and after a mark in them. -/
  | device
  | deviceParameter
  | deviceMark
  /-- Within a title for the window. -/
  | title
  /-- Within any other text that is not shown. -/
  | string
  deriving DecidableEq, Repr

def isMark (c : Char) : Bool := ' ' ≤ c && c ≤ '/'
def isParameter (c : Char) : Bool := '0' ≤ c && c ≤ '?'
def isPrivateParameter (c : Char) : Bool := '<' ≤ c && c ≤ '?'
def isFinal (c : Char) : Bool := '@' ≤ c && c ≤ '~'

def hasTerminator (c : Char) : Bool := (String.utf8EncodeChar c).contains 0x9c

namespace Sequence

def next (c : Char) : Sequence → Option Sequence
  | escape =>
    if isMark c then some selection
    else if c = '[' then some control
    else if c = ']' then some title
    else if c = 'P' then some device
    else if c = 'X' ∨ c = '^' ∨ c = '_' then some string
    else if isParameter c || isFinal c then none
    else some escape
  | selection => if isParameter c || isFinal c then none else some selection
  | control => if isFinal c then none else some control
  | device =>
    if isMark c then some deviceMark
    else if isParameter c then some deviceParameter
    else if isFinal c then some string
    else some device
  | deviceParameter =>
    if isMark c then some deviceMark
    else if isPrivateParameter c || isFinal c then some string
    else some deviceParameter
  | deviceMark => if isParameter c || isFinal c then some string else some deviceMark
  | title => if c = '\x07' then none else some title
  | string => if hasTerminator c then none else some string

/-- Whether blanks are shown although the sequence goes on. -/
def showsBlanks : Sequence → Bool
  | escape | selection | control => true
  | device | deviceParameter | deviceMark | title | string => false

end Sequence

def isBlankControl (c : Char) : Bool :=
  c = '\t' || c = '\n' || c = '\x0c' || c = '\r'

def isAscii (c : Char) : Bool := c ≤ '\x7f'

def isShown (c : Char) : Bool :=
  isBlankControl c || !isAscii c || ' ' ≤ c && c ≤ '~'

inductive Place where
  | outside
  | within (sequence : Sequence)
  /-- After a blank in a sequence. What is shown outside is shown here; a control resumes the
  sequence. -/
  | paused (sequence : Sequence)
  deriving DecidableEq, Repr

namespace Place

def ofSequence? : Option Sequence → Place
  | some sequence => within sequence
  | none => outside

def after (c : Char) : Place → Place
  | outside => outside
  | within sequence =>
    if sequence.showsBlanks && isBlankControl c then paused sequence
    else ofSequence? (sequence.next c)
  | paused sequence =>
    if !isShown c then within sequence
    else if isAscii c then paused sequence
    else outside

/-- An escape begins a sequence wherever it stands, and two controls cancel any. -/
def next (place : Place) (c : Char) : Place :=
  if c = '\x1b' then within .escape
  else if c = '\x18' ∨ c = '\x1a' then outside
  else place.after c

def shows (c : Char) : Place → Bool
  | outside | paused _ => isShown c
  | within sequence => sequence.showsBlanks && isBlankControl c

end Place

def visible (text : String) : String :=
  (text.toList.foldl
    (fun (place, shown) c => (place.next c, if place.shows c then shown.push c else shown))
    (Place.outside, "")).2

end LexReport.Text
