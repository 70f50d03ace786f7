/-! The written form of the rules: regular expressions over characters, with word boundaries,
greedy and lazy repetition and alternatives of which the first that fits is taken. -/

set_option autoImplicit false

namespace LexReport.Scan

inductive SetMember where
  | one (c : Char)
  | range (first last : Char)
  deriving DecidableEq, Repr

inductive CharSet where
  | only (c : Char)
  | anyButNewline
  | decimalDigit
  | blank
  | among (members : List SetMember)
  | notAmong (members : List SetMember)
  deriving DecidableEq, Repr

inductive Repetition where
  | any
  | anyLazy
  | some
  | optional
  deriving DecidableEq, Repr

inductive Pattern where
  | empty
  | char (set : CharSet)
  | wordBoundary
  | sequence (first second : Pattern)
  | choice (first second : Pattern)
  | group (body : Pattern)
  | named (name : String) (body : Pattern)
  | repeated (body : Pattern) (times : Repetition)
  deriving DecidableEq, Repr

namespace SetMember

/-- Inside brackets a hyphen and a tab are escaped. -/
def spelled (c : Char) : String :=
  if c = '-' then "\\-" else if c = '\t' then "\\t" else c.toString

def text : SetMember → String
  | one c => spelled c
  | range first last => spelled first ++ "-" ++ spelled last

end SetMember

namespace CharSet

/-- Outside brackets the characters with a meaning of their own are escaped. -/
def spelled (c : Char) : String :=
  if c = '\n' then "\\n"
  else if "*+.?|()[]".toList.contains c then "\\" ++ c.toString
  else c.toString

def text : CharSet → String
  | only c => spelled c
  | anyButNewline => "."
  | decimalDigit => "\\d"
  | blank => "\\s"
  | among members => "[" ++ String.join (members.map SetMember.text) ++ "]"
  | notAmong members => "[^" ++ String.join (members.map SetMember.text) ++ "]"

end CharSet

def Repetition.text : Repetition → String
  | any => "*"
  | anyLazy => "*?"
  | some => "+"
  | optional => "?"

namespace Pattern

def text : Pattern → String
  | empty => ""
  | char set => set.text
  | wordBoundary => "\\b"
  | sequence first second => first.text ++ second.text
  | choice first second => first.text ++ "|" ++ second.text
  | group body => "(" ++ body.text ++ ")"
  | named name body => "(?P<" ++ name ++ ">" ++ body.text ++ ")"
  | repeated body times => body.text ++ times.text

def groupTotal : Pattern → Nat
  | empty | char _ | wordBoundary => 0
  | sequence first second | choice first second => first.groupTotal + second.groupTotal
  | group body | named _ body => body.groupTotal + 1
  | repeated body _ => body.groupTotal

def only (c : Char) : Pattern := char (.only c)

def ofSequence (patterns : List Pattern) : Pattern :=
  patterns.foldr sequence empty

def ofWord (word : String) : Pattern :=
  ofSequence (word.toList.map only)

/-- Alternatives, of which an earlier one is preferred. -/
def ofChoices (first : Pattern) : List Pattern → Pattern
  | [] => first
  | second :: rest => choice first (ofChoices second rest)

end Pattern

end LexReport.Scan
