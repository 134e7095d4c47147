import CommandSynthesis.Regex.CharSet
import CommandSynthesis.Regex.Reader
import CommandSynthesis.Unicode.Lookup

set_option autoImplicit false

/-!
# Patterns

What an expression matches once its flags are settled: sequences, choices and repetitions of steps
over one character and of conditions on a place. Without the flag `unicode` an expression may only
match ASCII characters, apart from characters that are given as themselves.
-/

namespace CommandSynthesis.Regex

inductive Pattern (α : Type) where
  | empty
  | step (step : α)
  | sequence (first second : Pattern α)
  | choice (left right : Pattern α)
  /-- A pattern a number of times in a row: as often as it matches, or as rarely. -/
  | repetition (inside : Pattern α) (low : Nat) (high : Option Nat) (greedy : Bool)
  /-- A pattern on its own, which may note what it matches. -/
  | group (noted : Bool) (inside : Pattern α)
  deriving Repr, Inhabited

/-- A condition on a place in a text. -/
inductive Condition where
  | textStart
  | textEnd
  /-- At the start of the text or after a line feed. -/
  | lineStart
  | lineEnd
  /-- As `lineStart`, where a carriage return and a line feed after it are one break. -/
  | crlfStart
  | crlfEnd
  | boundary (words : Words)
  | noBoundary (words : Words)
  | wordStart (words : Words)
  | wordEnd (words : Words)
  | wordStartHalf (words : Words)
  | wordEndHalf (words : Words)
  deriving DecidableEq, Repr, Inhabited

/-- Of which words a condition speaks. -/
def Condition.words? : Condition → Option Words
  | boundary words => some words
  | noBoundary words => some words
  | wordStart words => some words
  | wordEnd words => some words
  | wordStartHalf words => some words
  | wordEndHalf words => some words
  | _ => none

/-- A step of a pattern: over one character of a set, or a condition on the place. -/
inductive Step where
  | char (set : CharSet)
  | condition (condition : Condition)
  deriving Repr, Inhabited

structure Flags where
  ignoreCase : Bool
  multiLine : Bool
  dotMatchesLineEnd : Bool
  swapGreed : Bool
  unicode : Bool
  crlf : Bool
  deriving DecidableEq, Repr

namespace Flags

/-- The flags at the start of an expression. -/
def initial : Flags := ⟨false, false, false, false, true, false⟩

def change (flags : Flags) : FlagChanges → Flags
  | [] => flags
  | (flag, enabled) :: rest =>
    let flags := match flag with
      | .ignoreCase => { flags with ignoreCase := enabled }
      | .multiLine => { flags with multiLine := enabled }
      | .dotMatchesLineEnd => { flags with dotMatchesLineEnd := enabled }
      | .unicode => { flags with unicode := enabled }
      | .crlf => { flags with crlf := enabled }
      | .swapGreed => { flags with swapGreed := enabled }
      | .ignoreBlanks => flags
    flags.change rest

/-- The set with what differs in case, if case is ignored. -/
def foldCase (flags : Flags) (set : CharSet) : CharSet :=
  if flags.ignoreCase then .anyCase set else set

def foldAsciiCase (flags : Flags) (set : CharSet) : CharSet :=
  if flags.ignoreCase then .intersection (.anyCase set) (.ranges [(0, 0x7F)]) else set

def words (flags : Flags) : Words :=
  if flags.unicode then .unicode else .ascii

def shorthand (flags : Flags) : Shorthand → CharSet
  | .digit =>
    .ranges (if flags.unicode then Unicode.Category.decimalNumber else asciiRanges "digit")
  | .space => .ranges (if flags.unicode then Unicode.Property.whiteSpace else asciiRanges "space")
  | .word => .ranges flags.words.ranges

/-- The condition of a look at a place. -/
def condition (flags : Flags) : Look → Condition
  | .lineStart =>
    if flags.multiLine then if flags.crlf then .crlfStart else .lineStart else .textStart
  | .lineEnd => if flags.multiLine then if flags.crlf then .crlfEnd else .lineEnd else .textEnd
  | .textStart => .textStart
  | .textEnd => .textEnd
  | .wordBoundary => .boundary flags.words
  | .noWordBoundary => .noBoundary flags.words
  | .wordStart => .wordStart flags.words
  | .wordEnd => .wordEnd flags.words
  | .wordStartHalf => .wordStartHalf flags.words
  | .wordEndHalf => .wordEndHalf flags.words

def dot (flags : Flags) : CharSet :=
  if flags.dotMatchesLineEnd then .complement .none
  else if flags.crlf then .complement (.ranges [(0x0A, 0x0A), (0x0D, 0x0D)])
  else .complement (.ranges [(0x0A, 0x0A)])

end Flags

def Property.ranges (span : Span) (property : Property) : Except Error Unicode.CodeRanges :=
  let found := match property with
    | .named name => Unicode.namedRanges name
    | .valued name value => Unicode.valuedRanges name value
  found.mapError fun error =>
    match error with
    | .unknownProperty => ⟨.propertyNotFound, span, none⟩
    | .unknownValue => ⟨.propertyValueNotFound, span, none⟩

def Property.set (flags : Flags) (property : Property) (negated : Bool) (span : Span) :
    Except Error CharSet := do
  if ¬ flags.unicode then throw ⟨.propertyNotAllowed, span, none⟩
  return (flags.foldCase (.ranges (← property.ranges span))).orComplement negated

/-- Negates a set of ASCII characters, if that is asked for: outside ASCII it would match parts of
characters. -/
def asciiOnly (set : CharSet) (negated : Bool) (span : Span) : Except Error CharSet :=
  if negated then .error ⟨.invalidUtf8, span, none⟩ else .ok set

def Shorthand.set (flags : Flags) (kind : Shorthand) (negated : Bool) (span : Span) :
    Except Error CharSet :=
  if flags.unicode then .ok ((flags.shorthand kind).orComplement negated)
  else asciiOnly (flags.shorthand kind) negated span

/-- Whether a character that stands for itself may also mean a byte beyond ASCII. -/
def Literal.isHighByte (literal : Literal) : Bool :=
  literal.byte && 0x80 ≤ literal.char.toNat

def Literal.inClass (flags : Flags) (literal : Literal) : Except Error Nat :=
  if flags.unicode then .ok literal.char.toNat
  else if literal.isHighByte then .error ⟨.invalidUtf8, literal.span, none⟩
  else if literal.char.toNat < 0x80 then .ok literal.char.toNat
  else .error ⟨.propertyNotAllowed, literal.span, none⟩

/-- The set of a character that stands for itself. -/
def Literal.set (flags : Flags) (literal : Literal) : Except Error CharSet :=
  if flags.unicode then .ok (flags.foldCase (.ofChar literal.char))
  else if literal.isHighByte then .error ⟨.invalidUtf8, literal.span, none⟩
  else if literal.char.toNat < 0x80 then .ok (flags.foldAsciiCase (.ofChar literal.char))
  else .ok (.ofChar literal.char)

mutual

def ClassSet.resolve (flags : Flags) : ClassSet → Except Error CharSet
  | .literal text => do
    let code ← text.inClass flags
    return .ranges [(code, code)]
  | .range low high => do
    let low ← low.inClass flags
    let high ← high.inClass flags
    return .ranges [(low, high)]
  | .ascii name negated span => do
    let set := CharSet.ranges (asciiRanges name)
    if flags.unicode then return (flags.foldCase set).orComplement negated
    else asciiOnly (flags.foldAsciiCase set) negated span
  | .property wanted negated span => wanted.set flags negated span
  | .shorthand kind negated span => kind.set flags negated span
  | .bracketed negated inside span => do
    let set ← inside.resolve flags
    if flags.unicode then return (flags.foldCase set).orComplement negated
    else asciiOnly (flags.foldAsciiCase set) negated span
  | .union items _ => ClassSet.resolveItems flags items
  | .combined operation left right => do
    let fold := if flags.unicode then flags.foldCase else flags.foldAsciiCase
    let left := fold (← left.resolve flags)
    let right := fold (← right.resolve flags)
    match operation with
    | .intersection => return .intersection left right
    | .difference => return .difference left right
    | .symmetricDifference => return .symmetricDifference left right

def ClassSet.resolveItems (flags : Flags) : List ClassSet → Except Error CharSet
  | [] => return .none
  | item :: rest => do
    let set ← item.resolve flags
    return .union set (← ClassSet.resolveItems flags rest)

end

mutual

/-- The pattern of an expression under flags, and the flags in force after it. -/
def Node.resolve (flags : Flags) : Node → Except Error (Pattern Step × Flags)
  | .empty => return (.empty, flags)
  | .flags changes => return (.empty, flags.change changes)
  | .literal text => do
    let set ← text.set flags
    return (.step (.char set), flags)
  | .dot span =>
    if flags.unicode then return (.step (.char flags.dot), flags)
    else throw ⟨.invalidUtf8, span, none⟩
  | .look wanted _ => return (.step (.condition (flags.condition wanted)), flags)
  | .property wanted negated span => do
    let set ← wanted.set flags negated span
    return (.step (.char set), flags)
  | .shorthand kind negated span => do
    let set ← kind.set flags negated span
    return (.step (.char set), flags)
  | .set inside => do
    let set ← inside.resolve flags
    return (.step (.char set), flags)
  | .repetition inside low high greedy _ => do
    let (pattern, flags) ← inside.resolve flags
    return (.repetition pattern low high (greedy != flags.swapGreed), flags)
  | .group (.changes changes) inside _ => do
    let (pattern, _) ← inside.resolve (flags.change changes)
    return (.group false pattern, flags)
  | .group .capture inside _ => do
    let (pattern, _) ← inside.resolve flags
    return (.group true pattern, flags)
  | .alternation items _ => Node.resolveChoice flags items
  | .sequence items _ => Node.resolveSequence flags items

/-- The choice between alternatives; flags changed in one hold in those after it. -/
def Node.resolveChoice (flags : Flags) : List Node → Except Error (Pattern Step × Flags)
  | [] => return (.empty, flags)
  | [node] => node.resolve flags
  | node :: rest => do
    let (left, flags) ← node.resolve flags
    let (right, flags) ← Node.resolveChoice flags rest
    return (.choice left right, flags)

def Node.resolveSequence (flags : Flags) : List Node → Except Error (Pattern Step × Flags)
  | [] => return (.empty, flags)
  | node :: rest => do
    let (first, flags) ← node.resolve flags
    let (second, flags) ← Node.resolveSequence flags rest
    return (.sequence first second, flags)

end

def Pattern.read (pattern : String) : Except Error (Pattern Step) := do
  let node ← Node.read pattern
  let (resolved, _) ← node.resolve .initial
  return resolved

end CommandSynthesis.Regex
