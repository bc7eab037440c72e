import StoryEngine.Text.Case

namespace StoryEngine.Text

/-! # Regular expressions

Backtracking patterns of JavaScript with at most one capture group.  `Pattern.ends`
lists every way a pattern can match from a position, in the order in which the
backtracking matcher tries them; the first entry is the match it reports.
Searching, testing and replacing are built on that list.
-/

/-- A position in a text: the characters behind it, nearest first, those ahead
of it, and the text that capture group 1 holds. -/
structure Cursor where
  behind : Text
  ahead : Text
  captured : Option Text := none

inductive Pattern where
  | empty
  | accept (accepts : Char → Bool)
  | wordBoundary
  | atStart
  | atEnd
  | seq (first second : Pattern)
  | alt (first second : Pattern)
  | star (body : Pattern)
  | group (body : Pattern)
  | notAhead (body : Pattern)
  | backReference

def Cursor.ofText (text : Text) : Cursor := { behind := [], ahead := text }

/-- `\b`: exactly one of the two neighbouring characters is a word character. -/
def Cursor.atBoundary (cursor : Cursor) : Bool :=
  cursor.behind.head?.any isWordChar != cursor.ahead.head?.any isWordChar

def Cursor.upTo (cursor later : Cursor) : Text :=
  cursor.ahead.take (cursor.ahead.length - later.ahead.length)

/-- Greedy repetition.  An iteration that consumes nothing is rejected, as
ECMAScript's `RepeatMatcher` does, so the characters ahead bound the depth. -/
def repeatEnds (body : Cursor → List Cursor) : Nat → Cursor → List Cursor
  | 0, cursor => [cursor]
  | fuel + 1, cursor =>
    ((body cursor).filter fun next => next.ahead.length < cursor.ahead.length).flatMap
      (repeatEnds body fuel) ++ [cursor]

namespace Pattern

def ends : Pattern → Cursor → List Cursor
  | .empty, cursor => [cursor]
  | .accept accepts, cursor =>
    match cursor.ahead with
    | [] => []
    | c :: rest =>
      if accepts c then [{ cursor with behind := c :: cursor.behind, ahead := rest }] else []
  | .wordBoundary, cursor => if cursor.atBoundary then [cursor] else []
  | .atStart, cursor => if cursor.behind.isEmpty then [cursor] else []
  | .atEnd, cursor => if cursor.ahead.isEmpty then [cursor] else []
  | .seq first second, cursor => (first.ends cursor).flatMap second.ends
  | .alt first second, cursor => first.ends cursor ++ second.ends cursor
  | .star body, cursor => repeatEnds body.ends cursor.ahead.length cursor
  | .group body, cursor =>
    (body.ends cursor).map fun next => { next with captured := some (cursor.upTo next) }
  | .notAhead body, cursor => if (body.ends cursor).isEmpty then [cursor] else []
  | .backReference, cursor =>
    -- A group that has not matched refers to the empty text.
    let text := cursor.captured.getD []
    if text.isPrefixOf cursor.ahead then
      [{ cursor with
        behind := text.reverse ++ cursor.behind, ahead := cursor.ahead.drop text.length }]
    else []

def optional (body : Pattern) : Pattern := .alt body .empty

def plus (body : Pattern) : Pattern := .seq body (.star body)

def sequence (parts : List Pattern) : Pattern := parts.foldr .seq .empty

/-- `{count}`. -/
def times (count : Nat) (body : Pattern) : Pattern := sequence (List.replicate count body)

/-- `{0,count}`. -/
def atMost (body : Pattern) : Nat → Pattern
  | 0 => .empty
  | count + 1 => optional (.seq body (atMost body count))

/-- `{low,high}`. -/
def between (low high : Nat) (body : Pattern) : Pattern :=
  .seq (times low body) (atMost body (high - low))

/-- `{low,}`. -/
def atLeast (low : Nat) (body : Pattern) : Pattern := .seq (times low body) (.star body)

def choice (parts : List Pattern) : Pattern := parts.foldr .alt (.accept fun _ => false)

def space : Pattern := .accept isSpace

def word : Pattern := .accept isWordChar

def acceptsChar (cases : CaseMapping) (ignoreCase : Bool) (wanted found : Char) : Bool :=
  if ignoreCase then cases.canonicalize wanted == cases.canonicalize found else wanted == found

/-- The pattern of `escapeRegex(text)`: the text itself, character by character. -/
def literal (cases : CaseMapping) (ignoreCase : Bool) (text : Text) : Pattern :=
  sequence (text.map fun c => .accept (acceptsChar cases ignoreCase c))

def positions (behind : Text) : Text → List Cursor
  | [] => [{ behind, ahead := [] }]
  | c :: rest => { behind, ahead := c :: rest } :: positions (c :: behind) rest

/-- `RegExp.prototype.test`. -/
def test (pattern : Pattern) (text : Text) : Bool :=
  (positions [] text).any fun cursor => !(pattern.ends cursor).isEmpty

/-- A piece of a scanned text: a character outside every match, or a match
with what lies behind it (nearest first) and ahead of it. -/
inductive Piece where
  | plain (c : Char)
  | hit (behind matched ahead : Text) (captured : Option Text)
deriving DecidableEq

/-- The matches a global search reports, and the characters between them.
After an empty match the search moves on by one character. -/
def scanFrom (pattern : Pattern) : Nat → Cursor → List Piece
  | 0, cursor => cursor.ahead.map .plain
  | fuel + 1, cursor =>
    let onward := match cursor.ahead with
      | [] => []
      | c :: rest =>
        .plain c :: scanFrom pattern fuel { behind := c :: cursor.behind, ahead := rest }
    match (pattern.ends cursor).head? with
    | none => onward
    | some next =>
      if next.ahead.length < cursor.ahead.length then
        .hit cursor.behind (cursor.upTo next) next.ahead next.captured ::
          scanFrom pattern fuel { next with captured := none }
      else
        .hit cursor.behind [] cursor.ahead next.captured :: onward

def scan (pattern : Pattern) (text : Text) : List Piece :=
  pattern.scanFrom (text.length + 1) (Cursor.ofText text)

/-- `text.match(pattern)` with the `g` flag; no match is the empty list. -/
def matchAll (pattern : Pattern) (text : Text) : List Text :=
  (pattern.scan text).filterMap fun
    | .plain _ => none
    | .hit _ matched _ _ => some matched

/-- ECMAScript `GetSubstitution` for a pattern without capture groups. -/
def expand (matched behind ahead : Text) : Text → Text
  | [] => []
  | [c] => [c]
  | '$' :: c :: rest =>
    if c = '$' then '$' :: expand matched behind ahead rest
    else if c = '&' then matched ++ expand matched behind ahead rest
    else if c.toNat = 0x60 then behind ++ expand matched behind ahead rest
    else if c.toNat = 0x27 then ahead ++ expand matched behind ahead rest
    else '$' :: expand matched behind ahead (c :: rest)
  | c :: rest => c :: expand matched behind ahead rest

def Piece.render (replacement : Text) : Piece → Text
  | .plain c => [c]
  | .hit behind matched ahead _ => expand matched behind.reverse ahead replacement

/-- `text.replace(pattern, replacement)` with the `g` flag. -/
def replace (pattern : Pattern) (replacement text : Text) : Text :=
  (pattern.scan text).flatMap (Piece.render replacement)

def splitPieces : List Piece → List Text
  | [] => [[]]
  | .hit _ _ _ _ :: rest => [] :: splitPieces rest
  | .plain c :: rest =>
    match splitPieces rest with
    | [] => [[c]]
    | part :: parts => (c :: part) :: parts

/-- `text.split(pattern)` for a pattern that consumes what it matches. -/
def split (pattern : Pattern) (text : Text) : List Text := splitPieces (pattern.scan text)

def withoutHit : List Piece → Text
  | [] => []
  | .plain c :: rest => c :: withoutHit rest
  | .hit _ _ ahead _ :: _ => ahead

/-- `text.replace(pattern, "")` without the `g` flag. -/
def removeFirst (pattern : Pattern) (text : Text) : Text := withoutHit (pattern.scan text)

theorem scan_nil (pattern : Pattern) : pattern.scan [] = [] ∨
    ∃ captured, pattern.scan [] = [.hit [] [] [] captured] := by
  simp only [scan, List.length_nil, scanFrom, Cursor.ofText]
  cases (pattern.ends { behind := [], ahead := [] }).head? with
  | none => exact .inl rfl
  | some next => exact .inr ⟨next.captured, by simp⟩

theorem removeFirst_nil (pattern : Pattern) : pattern.removeFirst [] = [] := by
  rcases pattern.scan_nil with none | ⟨captured, found⟩
  · rw [removeFirst, none, withoutHit]
  · rw [removeFirst, found, withoutHit]

theorem split_nil (pattern : Pattern) : (pattern.split []).headD [] = [] := by
  rcases pattern.scan_nil with none | ⟨captured, found⟩
  · rw [split, none, splitPieces, List.headD_cons]
  · rw [split, found, splitPieces, List.headD_cons]

end Pattern

end StoryEngine.Text
