import EndpointMonitor.Pattern.Expr
import EndpointMonitor.Pattern.Meaning
import EndpointMonitor.Pattern.Size

/-!
# Regular expressions that are ready for use

A pattern is compiled if it is well-formed and meaningful, and neither too deep nor too large. It
matches a text if the expression of its form spans some part of it.
-/

namespace EndpointMonitor.Pattern

namespace Look

/-- Whether the symbol next to a place belongs to a word. -/
def isWord (unicode : Bool) (c : Option Char) : Bool :=
  c.any fun c => (Meaning.shorthandSet unicode .word).contains c.toNat

/-- Whether a test holds between two characters. -/
def holds (test : Look) (before after : Option Char) : Bool :=
  match test with
  | .textStart => before.isNone
  | .textEnd => after.isNone
  | .lineStart carriageReturn =>
    before.isNone || before == some '\n' ||
      (carriageReturn && before == some '\r' && after != some '\n')
  | .lineEnd carriageReturn =>
    after.isNone ||
      if carriageReturn then after == some '\r' || (after == some '\n' && before != some '\r')
      else after == some '\n'
  | .wordBoundary unicode => isWord unicode before != isWord unicode after
  | .notWordBoundary unicode => isWord unicode before == isWord unicode after
  | .wordStart unicode => !isWord unicode before && isWord unicode after
  | .wordEnd unicode => isWord unicode before && !isWord unicode after
  | .wordStartHalf unicode => !isWord unicode before
  | .wordEndHalf unicode => !isWord unicode after

end Look

namespace Form

mutual

/-- The expression of a form. -/
def expr : Form → Expr Char
  | .empty => .empty
  | .literal cs => .sequence (cs.map fun c => .symbol (· == c))
  | .set _ members => .symbol fun c => members.contains c.toNat
  | .look test => .look test.holds
  | .repetition least most _ body =>
    let e := expr body
    match most with
    | none => .seq (.times least e) (.star e)
    | some most => .seq (.times least e) (.atMost (most - least) e)
  | .capture body => expr body
  | .concat parts => .sequence (exprs parts)
  | .alternation options => .oneOf (exprs options)

/-- The expressions of some forms. -/
def exprs : List Form → List (Expr Char)
  | [] => []
  | form :: rest => expr form :: exprs rest

end

end Form

namespace Ast

mutual

/-- How deep the parts of a class are nested. -/
def classDepth : ClassSet → Nat
  | .bracketed _ body => classDepth body + 1
  | .union items => classDepths items + if items.length = 1 then 0 else 1
  | .operation _ left right => max (classDepth left) (classDepth right) + 1
  | _ => 0

/-- The greatest depth of some classes. -/
def classDepths : List ClassSet → Nat
  | [] => 0
  | item :: rest => max (classDepth item) (classDepths rest)

end

mutual

/-- How deep the parts of a pattern are nested. A list of a single part is that part. -/
def depth : Ast → Nat
  | .classSet _ body => classDepth body + 1
  | .repetition _ body => body.depth + 1
  | .group _ _ body => body.depth + 1
  | .alternation options => depths options + if options.length = 1 then 0 else 1
  | .concat parts => depths parts + if parts.length = 1 then 0 else 1
  | _ => 0

/-- The greatest depth of some patterns. -/
def depths : List Ast → Nat
  | [] => 0
  | part :: rest => max part.depth (depths rest)

end

/-- The greatest depth of a pattern that is compiled. -/
def depthLimit : Nat := 250

end Ast

/-- A regular expression that has been read and found to be meaningful. -/
structure Regex where
  source : String
  expr : Expr Char

namespace Regex

/-- The form of a pattern, or `none` if the pattern is malformed or too deep. -/
def form? (source : String) : Option Form := do
  let ast ← Ast.read source.toList
  guard (ast.depth ≤ Ast.depthLimit)
  let (form, _) ← Meaning.form .initial ast
  return form

/-- Compile a pattern, or `none` if it has no form or is too large. -/
def compile (source : String) : Option Regex := do
  let form ← form? source
  guard form.fits
  return ⟨source, form.expr⟩

/-- Whether some part of the text matches. -/
def isMatch (r : Regex) (text : String) : Bool :=
  r.expr.occursIn text.toList.toArray

end Regex

end EndpointMonitor.Pattern
