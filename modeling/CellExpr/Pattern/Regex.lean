import CellExpr.Pattern.Reader
import CellExpr.Pattern.Search

/-!
# Regular expressions

A pattern that has been compiled. Two are equal if they were written the same way and treat case the same way; the
program follows from these. A match cuts its text into what precedes it, what it covers and what follows it.
-/

namespace CellExpr

open CellExpr.Text CellExpr.Pattern

/-- The program of a pattern, if it follows the notation and does not grow too large. -/
def Pattern.compile? (source : String) (ignoreCase : Bool) : Option Program :=
  (Pattern.read? source.toList ignoreCase).bind Node.compile?

/-- A regular expression. -/
structure Regex where
  source : String
  ignoreCase : Bool
  program : Program
  compiled : Pattern.compile? source ignoreCase = some program

/-- Why a source is no regular expression. -/
inductive PatternFault where
  | malformed (source : String)
  | tooLarge
  deriving DecidableEq, Repr

/-- The message of a fault. -/
def PatternFault.message : PatternFault → String
  | malformed source => "regex parse error:\n    " ++ source
  | tooLarge => s!"Compiled regex exceeds size limit of {Pattern.maxBytes} bytes."

namespace Regex

/-- The regular expression with a source, if it has a program. -/
def of? (source : String) (ignoreCase : Bool) : Option Regex :=
  match h : Pattern.compile? source ignoreCase with
  | some program => some ⟨source, ignoreCase, program, h⟩
  | none => none

/-- The regular expression with a source, or why there is none. -/
def build (source : String) (ignoreCase : Bool) : Except PatternFault Regex :=
  match of? source ignoreCase with
  | some r => .ok r
  | none => .error (if (Pattern.read? source.toList ignoreCase).isSome then .tooLarge else .malformed source)

theorem ext_source {a b : Regex} (hs : a.source = b.source) (hi : a.ignoreCase = b.ignoreCase) : a = b := by
  obtain ⟨s, i, p, h⟩ := a
  obtain ⟨s', i', p', h'⟩ := b
  subst hs hi
  obtain rfl : p = p' := by simpa [h] using h'
  rfl

theorem of?_eq_some_iff {source : String} {ignoreCase : Bool} {r : Regex} :
    of? source ignoreCase = some r ↔ r.source = source ∧ r.ignoreCase = ignoreCase := by
  unfold of?
  constructor
  · intro h
    split at h
    · obtain rfl := Option.some.inj h
      exact ⟨rfl, rfl⟩
    · cases h
  · rintro ⟨rfl, rfl⟩
    split
    · exact congrArg some (ext_source rfl rfl)
    · rename_i h
      rw [r.compiled] at h
      cases h

/-- What is built from a source is the regular expression with that source. -/
theorem build_eq_ok_iff {source : String} {ignoreCase : Bool} {r : Regex} :
    build source ignoreCase = .ok r ↔ r.source = source ∧ r.ignoreCase = ignoreCase := by
  rw [← of?_eq_some_iff, build]
  cases of? source ignoreCase <;> simp

instance : DecidableEq Regex := fun a b =>
  if h : a.source = b.source ∧ a.ignoreCase = b.ignoreCase then isTrue (ext_source h.1 h.2)
  else isFalse fun e => h ⟨by rw [e], by rw [e]⟩

/-- A source that stands for a literal text: characters with a meaning of their own have a backslash before them. -/
def escape (s : List Char) : List Char := s.flatMap fun c => if isMeta c then ['\\', c] else [c]

/-- The regular expression that matches a literal text. -/
def ofLiteral (s : String) : Except PatternFault Regex := build (String.ofList (escape s.toList)) false

/-- The regular expression that matches whole texts alone. -/
def anchored (r : Regex) : Except PatternFault Regex := build ("^(?:" ++ r.source ++ ")$") r.ignoreCase

/-- The matches that do not overlap, from left to right. -/
def findAll (r : Regex) (s : List Char) : List Match := r.program.allMatches s.toArray

/-- The first match. -/
def firstMatch? (r : Regex) (s : List Char) : Option Match := r.program.search? s.toArray 0

/-- Whether there is a match. -/
def isMatch (r : Regex) (s : List Char) : Bool := (r.firstMatch? s).isSome

end Regex

namespace Pattern

/-- The text between two places. -/
def slice (s : List Char) (start stop : Nat) : List Char := (s.drop start).take (stop - start)

/-- The text of a match. -/
def Match.text (m : Match) (s : List Char) : List Char := slice s m.start m.stop

/-- What precedes a match. -/
def Match.before (m : Match) (s : List Char) : List Char := s.take m.start

/-- What follows a match. -/
def Match.after (m : Match) (s : List Char) : List Char := s.drop m.stop

/-- The text of a group that took part in a match. -/
def Match.groupText? (m : Match) (s : List Char) (index : Nat) : Option (List Char) :=
  (m.group? index).map fun (start, stop) => slice s start stop

/-- The pieces of a text between matches, from a place on. -/
def piecesFrom (s : List Char) (place : Nat) : List Match → List (List Char)
  | [] => [s.drop place]
  | m :: rest => slice s place m.start :: piecesFrom s m.stop rest

end Pattern

/-- The pieces of a text between the matches. -/
def Regex.split (r : Regex) (s : List Char) : List (List Char) := piecesFrom s 0 (r.findAll s)

end CellExpr
