import MarkdownPages.Markup.Destination
import MarkdownPages.Markup.Features
import MarkdownPages.Text.Blank

/-!
# Tokens of inline markup

The text of a block is cut into tokens: plain text, the characters that may start or end a piece
of inline markup, and the breaks between lines. Which of them mean something is decided later.

## Main definitions

* `Token` — a stretch of a source and what it may be
* `runOpens`, `runCloses` — whether a run of emphasis marks may start or end an emphasis
* `Source.tokens` — the tokens of a source
-/

namespace MarkdownPages

namespace Markup

/-- What a token may be. -/
inductive TokenKind where
  /-- The characters of the source as they are. -/
  | text
  /-- The characters that a reference stands for. -/
  | literal (chars : List Char)
  /-- A run of emphasis marks. -/
  | run (mark : Char) (opens closes : Bool)
  /-- A run of grave accents, the first of which may be escaped. -/
  | ticks (length : Nat) (escaped : Bool)
  /-- A `<`. -/
  | angle
  /-- A dollar sign inside the given braces. -/
  | dollar (opens closes : Bool) (braces : Nat)
  | bracketOpen
  | imageOpen
  /-- A `]`, and whether what it ends may be a reference by itself. -/
  | bracketClose (mayRefer : Bool)
  | softBreak
  | hardBreak (backslash : Bool)
deriving Inhabited, Repr, DecidableEq

/-- A stretch of a source. -/
structure Token where
  start : Nat
  stop : Nat
  kind : TokenKind
deriving Inhabited, Repr

/-! ### Runs of emphasis marks -/

/-- Whether a run may start an emphasis, by the characters before (none at the start of a line)
and after it. Asterisks and double tildes may do so inside a word. -/
def runOpens (mark : Char) (length : Nat) (before after : Option Char) : Bool :=
  match after with
  | none => false
  | some next =>
    if Text.isBlank next then false
    else
      match before with
      | none => true
      | some previous =>
        (mark == '*' && !Text.isPunctuation next) || (mark == '~' && 1 < length) ||
          (mark == '~' && previous == '~' && !Text.isPunctuation next) ||
          Text.isBlank previous || Text.isPunctuation previous

/-- Whether a run may end an emphasis. -/
def runCloses (mark : Char) (length : Nat) (before after : Option Char) : Bool :=
  match before with
  | none => false
  | some previous =>
    if Text.isBlank previous then false
    else
      match after with
      | none => true
      | some next =>
        ((mark == '*' || (mark == '~' && 1 < length)) && !Text.isPunctuation previous) ||
          (mark == '~' && previous == '~') || Text.isBlank next || Text.isPunctuation next

/-- Whether a character is an emphasis mark. -/
def isRunMark (features : Features) (c : Char) : Bool :=
  c == '*' || c == '_' || (c == '~' && (features.gfm || features.superscript)) ||
    (c == '^' && features.superscript)

/-! ### Braces -/

/-- The braces that are open, innermost first, and how many there have been. -/
structure Braces where
  inner : List Nat := []
  seen : Nat := 1
deriving Inhabited

namespace Braces

/-- The innermost open brace; zero is outside all braces. -/
def current (braces : Braces) : Nat := braces.inner.head?.getD 0

/-- After a character of the text. -/
def next (braces : Braces) (c : Char) : Braces :=
  if c == '\x7b' then ⟨braces.seen :: braces.inner, braces.seen + 1⟩
  else if c == '\x7d' then { braces with inner := braces.inner.tail }
  else braces

end Braces

namespace Source

/-- The token of the text from `start` up to `stop`, if there is any. -/
def textToken (start stop : Nat) : List Token :=
  if start < stop then [⟨start, stop, .text⟩] else []

/-- What stands at a place of a line: a token from there on with its end, a place where text
starts anew, or nothing. -/
inductive Found where
  /-- A token that starts at the given place. -/
  | token (token : Token)
  /-- Text ends here and starts anew at `start`; the next place to look at is `next`. -/
  | restart (start next : Nat)
  /-- Text goes on at least up to `next`. -/
  | skip (next : Nat)

/-- What a backslash at a place stands for. -/
def backslashAt (source : Source) (i : Nat) : Found :=
  match source.at? (i + 1) with
  | none => .skip (i + 1)
  | some c =>
    if c.toNat == 0x60 then
      let stop := source.skipWhile (· == c) (i + 1)
      .token ⟨i + 1, stop, .ticks (stop - (i + 1)) true⟩
    else if source.inTable && c == '\\' && source.at? (i + 2) == some '|' then
      .restart (i + 2) (i + 3)
    else if Text.isAsciiPunctuation c then .restart (i + 1) (i + 2)
    else .skip (i + 1)

/-- What stands at a place of the line from `first` up to `stop`. -/
def foundAt (source : Source) (features : Features) (first stop : Nat) (braces : Braces)
    (i : Nat) : Found :=
  match source.at? i with
  | none => .skip (i + 1)
  | some c =>
    if c == '\\' then if i + 1 = stop then .skip stop else source.backslashAt i
    else if isRunMark features c then
      let stop := source.skipWhile (· == c) i
      let length := stop - i
      let before := if i = first then none else source.at? (i - 1)
      let after := source.at? stop
      let opens := runOpens c length before after
      let closes := runCloses c length before after
      if (opens || closes) && !(c == '~' && 2 < length) then .token ⟨i, stop, .run c opens closes⟩
      else .skip stop
    else if c == '$' && features.math then
      let opens := ((source.at? (i + 1)).map fun c => !isSpace c).getD false
      let closes := i ≠ first && ((source.at? (i - 1)).map fun c => !isSpace c).getD false
      .token ⟨i, i + 1, .dollar opens closes braces.current⟩
    else if c.toNat == 0x60 then
      let stop := source.skipWhile (· == c) i
      .token ⟨i, stop, .ticks (stop - i) false⟩
    else if c == '<' then
      if source.at? (i + 1) == some '\\' then .skip (i + 1) else .token ⟨i, i + 1, .angle⟩
    else if c == '!' && source.at? (i + 1) == some '[' then .token ⟨i, i + 2, .imageOpen⟩
    else if c == '[' then .token ⟨i, i + 1, .bracketOpen⟩
    else if c == ']' then .token ⟨i, i + 1, .bracketClose true⟩
    else if c == '&' then
      let ahead := source.slice i (i + 40)
      match Text.reference? ahead with
      | some (image, rest) => .token ⟨i, i + (ahead.length - rest.length), .literal image⟩
      | none => .skip (i + 1)
    else .skip (i + 1)

/-- The tokens of a line from `i` on, with text pending since `textStart`, then the place where
text is pending at the end of the line, and the braces open there. -/
def tokensFrom (source : Source) (features : Features) (first stop : Nat) :
    Nat → Nat → Nat → Braces → List Token × Nat × Braces
  | 0, textStart, _, braces => ([], textStart, braces)
  | fuel + 1, textStart, i, braces =>
    if stop ≤ i then ([], textStart, braces)
    else
      match source.foundAt features first stop braces i with
      | .skip next =>
        let braces := ((source.at? i).map braces.next).getD braces
        source.tokensFrom features first stop fuel textStart next braces
      | .restart start next =>
        let (tokens, pending, braces) :=
          source.tokensFrom features first stop fuel start next braces
        (textToken textStart i ++ tokens, pending, braces)
      | .token token =>
        let (tokens, pending, braces) :=
          source.tokensFrom features first stop fuel token.stop token.stop braces
        (textToken textStart i ++ token :: tokens, pending, braces)

/-- The number of characters before `stop`, back to `start`, that satisfy `p`. -/
def countBack (source : Source) (p : Char → Bool) (start stop : Nat) : Nat :=
  ((source.slice start stop).reverse.takeWhile p).length

/-- The pending text at the end of a line and the break to the next line. A backslash or two
blanks at the end of the line make the break a hard one. -/
def breakTokens (source : Source) (span : Span) (pending : Nat) : List Token :=
  if source.countBack (· == '\\') span.first span.stop % 2 = 1 then
    textToken pending (span.stop - 1) ++ [⟨span.stop - 1, span.next, .hardBreak true⟩]
  else
    let blanks := source.countBack isLineSpace pending span.stop
    let text := textToken pending (span.stop - blanks)
    if 2 ≤ blanks then text ++ [⟨span.stop - blanks, span.next, .hardBreak false⟩]
    else text ++ [⟨span.stop, span.next, .softBreak⟩]

/-- The tokens of several lines. -/
def spanTokens (source : Source) (features : Features) : Braces → List Span → List Token
  | _, [] => []
  | braces, span :: rest =>
    let (tokens, pending, braces) :=
      source.tokensFrom features span.start span.stop (span.stop + 1) span.start span.start braces
    match rest with
    | [] =>
      let blanks := if source.trimsEnd then source.countBack isLineSpace pending span.stop else 0
      tokens ++ textToken pending (span.stop - blanks)
    | rest => tokens ++ source.breakTokens span pending ++ source.spanTokens features braces rest

/-- The tokens of a source. -/
def tokens (source : Source) (features : Features) : List Token :=
  source.spanTokens features {} source.spans

end Source

end Markup

end MarkdownPages
