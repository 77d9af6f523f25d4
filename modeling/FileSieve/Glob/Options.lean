import FileSieve.Glob.Compile
import FileSieve.Value.Sequence

/-!
# Globs and options given as values

Globs and separators may come as any sequence of texts, and case folding as any value, which counts as true or
not. An option that is no value gives way to the one of the compiler.
-/

namespace FileSieve.Glob

/-- The quoted form of the items of a sequence, the first of which stands at the place `index`. An item
of one special code point is quoted, a longer one is taken as it is. -/
def quoteItems : (index : Nat) → List Value → Except Misuse (List Text)
  | _, [] => .ok []
  | index, .text t :: items => do
    let quoted := match t with | [c] => quotePoint [] c | t => t
    return quoted :: (← quoteItems (index + 1) items)
  | index, item :: _ => .error (.itemNotText index item.kind)

/-- The quoted form of a sequence of texts. Every item must be fit to be looked up, before any is found not to
be a text. -/
def quote : Value → Except Misuse Text
  | .text t => .ok t.quotedLiteral
  | value => do
    let items ← value.items
    items.forM fun item => do let _ ← item.asKey
    return (← quoteItems 0 items).flatten

/-- The separators of a sequence of texts. -/
def separatorsOf (value : Value) : Except Misuse Separators := do
  let each ← (← value.items).mapM quote
  return { quoted := ← quote value, each, present := value.truth }

/-- The options of a compiler of globs. -/
structure Options where
  /-- The separators. -/
  separators : Value := .text defaultSeparators
  /-- Whether letters match in either case. -/
  caseFold : Value := .bool true

namespace Options

/-- The options of a call, which give way to those of the compiler where they are no value. -/
def override (o : Options) (separators caseFold : Value) : Options where
  separators := if separators.isNone then o.separators else separators
  caseFold := if caseFold.isNone then o.caseFold else caseFold

/-- The flags. -/
def flags (o : Options) : Flags :=
  Glob.flags o.caseFold.truth

/-- The regular expression of a glob. -/
def regexOf (o : Options) (glob : Value) : Except Misuse Text := do
  let separators ← separatorsOf o.separators
  return separators.regexOf (← quote glob)

/-- The pattern of a glob. -/
def compile (o : Options) (glob : Value) : Except Misuse Pattern := do
  return { regex := anchored (← o.regexOf glob), flags := o.flags }

/-- The pattern of several globs. -/
def compileAll (o : Options) (globs : List Value) : Except Misuse Pattern := do
  return { regex := alternatives (← globs.mapM o.regexOf), flags := o.flags }

end Options

end FileSieve.Glob
