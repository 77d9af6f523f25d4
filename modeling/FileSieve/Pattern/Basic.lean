import FileSieve.Pattern.Flags
import FileSieve.Pattern.Quote
import FileSieve.Pattern.Substitution

/-!
# Patterns

A pattern is the text of a regular expression together with flags. Its rendered form stands between
delimiters, with the letters of the modifiers behind; a delimiter within the text is quoted, so the rendered
form determines the text and the modifiers. Whether the text is a regular expression at all shows only when
the pattern is used.
-/

namespace FileSieve

/-- A pattern. -/
structure Pattern where
  /-- The text of the regular expression. -/
  regex : Text
  /-- Its flags. -/
  flags : Flags := .none
  deriving DecidableEq, Repr, Inhabited

namespace Pattern

/-- The code point on either side of a rendered pattern. -/
def delimiter : CodePoint := '~'

/-- The pattern of a text in which placeholders stand for literal texts. -/
def ofTemplate (template : Text) (flags : Flags) (binds : List (Text × Text)) : Pattern where
  regex :=
    Substitution.apply ((binds.filter fun bind => !bind.1.isEmpty).map fun (key, value) => (key, value.quotedLiteral))
      template
  flags := flags

/-- The texts that placeholders stand for: the plain forms of their values. -/
def bindTexts : List (Text × Value) → Except Misuse (List (Text × Text))
  | [] => .ok []
  | (key, value) :: rest =>
    if key.isEmpty then bindTexts rest
    else do
      let text ← value.plain
      return (key, text) :: (← bindTexts rest)

/-- The pattern of a template, of flags as a number and of values for the placeholders. -/
def make (template : Text) (flags : Int) (binds : List (Text × Value)) : Except Misuse Pattern := do
  let texts ← bindTexts binds
  return ofTemplate template (← Flags.ofInt flags) texts

/-- The pattern of a value that should be a text; for other values this says what is found wrong with them. -/
def ofValue (regex : Value) (flags : Flags := .none) : Except Misuse Pattern :=
  match regex with
  | .text t => .ok { regex := t, flags }
  | .octets _ | .buffer _ => .error .octetsExpected
  | .date _ | .datetime _ | .unplaced .. => .error (.notInteger .text)
  | value => .error (.noMember value.kind "replace")

/-- The text between the delimiters. -/
def body (p : Pattern) : Text :=
  p.regex.replacePoint delimiter ['\\', delimiter]

/-- The letters of the modifiers. -/
def modifiers (p : Pattern) : Text :=
  p.flags.letters

/-- The rendered form. -/
def rendered (p : Pattern) : Text :=
  delimiter :: p.body ++ [delimiter] ++ p.modifiers

/-- The form in which a pattern is shown. -/
def shown (p : Pattern) : Text :=
  "CompiledPattern(" ++ p.rendered.quoted ++ ")"

/-- Patterns are equal when they are rendered alike. -/
def equal (p q : Pattern) : Bool :=
  p.rendered == q.rendered

/-- The hash of a pattern: that of its rendered form. -/
def hash (textHash : Text → Int) (p : Pattern) : Int :=
  textHash p.rendered

end Pattern

end FileSieve
