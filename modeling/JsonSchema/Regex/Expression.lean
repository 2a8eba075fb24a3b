import JsonSchema.Regex.CharSet
import Std.Data.HashSet

/-! # Regular expressions and matching

Matching answers whether some part of a text matches. An expression is advanced over one
character by its partial derivatives: the expressions that are left to match after the character.
Assertions look at the characters on both sides of a position, so both derivatives and emptiness
are taken at a position.
-/

namespace JsonSchema.Regex

/-- A condition on a position in the text. -/
inductive Assertion where
  | textStart
  | textEnd
  /-- After a line feed or at the start; with carriage returns also after one that no line feed follows. -/
  | lineStart (carriageReturns : Bool)
  /-- Before a line feed or at the end; with carriage returns also before one. -/
  | lineEnd (carriageReturns : Bool)
  | wordBoundary (ascii : Bool)
  | notWordBoundary (ascii : Bool)
  | wordStart (ascii : Bool)
  | wordEnd (ascii : Bool)
  | wordStartHalf (ascii : Bool)
  | wordEndHalf (ascii : Bool)
  deriving DecidableEq, Hashable

/-- A regular expression; what it captures and prefers plays no part in whether it matches. -/
inductive Expression where
  | empty
  | set (members : CharSet)
  | assertion (condition : Assertion)
  | concat (first second : Expression)
  | alternate (left right : Expression)
  | repeated (body : Expression) (least : Nat) (most : Option Nat)
  deriving DecidableEq, Hashable

/-- The characters before and after a position. -/
structure Position where
  before : Option Char
  after : Option Char

/-- Whether a character is part of a word. -/
def isWordChar (ascii : Bool) (c : Option Char) : Bool :=
  match c with
  | none => false
  | some c => if ascii then CharSet.asciiWord.contains c.toNat else Unicode.isWord c.toNat

/-- Whether an assertion holds at a position. -/
def Assertion.holds (assertion : Assertion) (p : Position) : Bool :=
  match assertion with
  | .textStart => p.before.isNone
  | .textEnd => p.after.isNone
  | .lineStart false => p.before.isNone || p.before == some '\n'
  | .lineStart true =>
    p.before.isNone || p.before == some '\n' || (p.before == some '\r' && p.after != some '\n')
  | .lineEnd false => p.after.isNone || p.after == some '\n'
  | .lineEnd true =>
    p.after.isNone || p.after == some '\r' || (p.after == some '\n' && p.before != some '\r')
  | .wordBoundary ascii => isWordChar ascii p.before != isWordChar ascii p.after
  | .notWordBoundary ascii => isWordChar ascii p.before == isWordChar ascii p.after
  | .wordStart ascii => !isWordChar ascii p.before && isWordChar ascii p.after
  | .wordEnd ascii => isWordChar ascii p.before && !isWordChar ascii p.after
  | .wordStartHalf ascii => !isWordChar ascii p.before
  | .wordEndHalf ascii => !isWordChar ascii p.after

namespace Expression

/-- Whether the expression matches nothing at a position. -/
def matchesEmpty : Expression → Position → Bool
  | .empty, _ => true
  | .set _, _ => false
  | .assertion condition, p => condition.holds p
  | .concat first second, p => first.matchesEmpty p && second.matchesEmpty p
  | .alternate left right, p => left.matchesEmpty p || right.matchesEmpty p
  | .repeated body least _, p => least == 0 || body.matchesEmpty p

/-- Two expressions one after the other. -/
def andThen (first second : Expression) : Expression :=
  match first with
  | .empty => second
  | first => .concat first second

/-- What may be left to match after the character behind a position. -/
def derivatives (p : Position) (c : Char) : Expression → List Expression
  | .empty => []
  | .set members => if members.contains c.toNat then [.empty] else []
  | .assertion _ => []
  | .concat first second =>
    (first.derivatives p c).map (·.andThen second) ++
      if first.matchesEmpty p then second.derivatives p c else []
  | .alternate left right => left.derivatives p c ++ right.derivatives p c
  | .repeated body least most =>
    match most with
    | some 0 => []
    | most =>
      let least := if body.matchesEmpty p then 0 else least - 1
      (body.derivatives p c).map (·.andThen (.repeated body least (most.map (· - 1))))

/-- Each of some expressions once; where there are many, in the order of their hashes. -/
def distinct (expressions : List Expression) : List Expression :=
  if expressions.length ≤ 16 then expressions.eraseDups else (Std.HashSet.ofList expressions).toList

/-- Whether some part of the text matches, given what is left to match of parts already begun. -/
def search (e : Expression) (begun : List Expression) (before : Option Char) : List Char → Bool
  | [] => (e :: begun).any (·.matchesEmpty ⟨before, none⟩)
  | c :: rest =>
    let p : Position := ⟨before, some c⟩
    let begun := e :: begun
    begun.any (·.matchesEmpty p) || e.search (distinct (begun.flatMap (derivatives p c))) (some c) rest

/-- Whether some part of the text matches. -/
def isMatch (e : Expression) (text : String) : Bool := e.search [] none text.toList

/-- Several expressions one after the other. -/
def sequence : List Expression → Expression
  | [] => .empty
  | [e] => e
  | e :: rest => .concat e (sequence rest)

/-- One of several expressions. -/
def choice : List Expression → Expression
  | [] => .empty
  | [e] => e
  | e :: rest => .alternate e (choice rest)

end Expression

end JsonSchema.Regex
