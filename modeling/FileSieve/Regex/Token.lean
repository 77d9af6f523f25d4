import FileSieve.Text.Basic

/-!
# The tokens of a pattern

A pattern is read token by token: a code point, or a backslash together with the code point after it. Joined
together the tokens are the pattern again.
-/

namespace FileSieve.Regex

/-- A token of a pattern. -/
inductive Token
  /-- A code point other than the backslash. -/
  | plain (c : CodePoint)
  /-- A backslash and the code point after it. -/
  | escaped (c : CodePoint)
  /-- A backslash at the end of the pattern. -/
  | dangling
  deriving DecidableEq, Repr

/-- The tokens of a pattern. -/
def Token.ofText : Text → List Token
  | [] => []
  | [c] => if c = '\\' then [.dangling] else [.plain c]
  | c :: d :: rest =>
    if c = '\\' then .escaped d :: ofText rest else .plain c :: ofText (d :: rest)

/-- The text of a token. -/
def Token.text : Token → Text
  | .plain c => [c]
  | .escaped c => ['\\', c]
  | .dangling => ['\\']

/-- How many code points a token has. -/
def Token.width : Token → Nat
  | .plain _ => 1
  | .escaped _ => 2
  | .dangling => 1

/-- The tokens of a pattern spell the pattern. -/
theorem Token.text_ofText (t : Text) : (Token.ofText t).flatMap Token.text = t := by
  fun_induction Token.ofText t <;> simp_all [Token.text]

end FileSieve.Regex
