import JvmGenerics.Logging.Level
import JvmGenerics.Text.Alphanumeric
import JvmGenerics.Text.Blank

/-!
# Filters of log events

A filter is a list of directives. Each lets the events of some targets through
up to a level, and the most specific directive for a target decides. The text of
a filter separates its directives by commas; a directive is a level for all
targets, a target, or a target and a level with an equals sign between them.
-/

namespace JvmGenerics

/-- A directive for the targets that begin with `target`, or for all targets.
Without a level it lets nothing through. -/
structure LogDirective where
  target : Option String
  level : Option LogLevel
deriving DecidableEq

/-- Directives, the most specific first. -/
structure LogFilter where
  directives : List LogDirective
deriving DecidableEq

/-- The reasons why a filter cannot be read. A malformed directive is a fault of
the settings; the others are defects, which nothing makes up for. -/
inductive LogFilterError
  | malformedDirective
  /-- A directive would have to be cut inside a character. -/
  | splitCharacter
  /-- No environment variable can hold the character NUL. -/
  | nulInEnvironment
deriving DecidableEq

namespace LogDirective

/-- The rank of the most detailed level that the directive lets through. -/
def rank (directive : LogDirective) : Nat :=
  directive.level.elim 0 LogLevel.rank

def levelName (level : Option LogLevel) : String :=
  level.elim "off" LogLevel.name

def text (directive : LogDirective) : String :=
  match directive.target with
  | none => levelName directive.level
  | some target => target ++ "=" ++ levelName directive.level

def concerns (directive : LogDirective) (target : String) : Bool :=
  directive.target.all fun start => start.toList.isPrefixOf target.toList

/-- Whether a directive is to be asked before another one for other targets: a
longer target comes first, of two equally long ones the greater, and the
directive for all targets comes last. -/
def precedes (first second : LogDirective) : Bool :=
  match first.target, second.target with
  | none, _ => false
  | some _, none => true
  | some first, some second =>
    second.utf8ByteSize < first.utf8ByteSize
      || (second.utf8ByteSize = first.utf8ByteSize && second < first)

/-- The level that a digit stands for, where zero stands for none. -/
def ofNumber? : Nat → Option (Option LogLevel)
  | 0 => some none
  | 1 => some (some .error)
  | 2 => some (some .warn)
  | 3 => some (some .info)
  | 4 => some (some .debug)
  | 5 => some (some .trace)
  | _ => none

/-- The level that a number or a name in any case stands for. -/
def parseLevel? (text : String) : Option (Option LogLevel) :=
  let digits := if text.startsWith "+" then (text.drop 1).toString else text
  if !digits.isEmpty && digits.all Char.isDigit then digits.toNat?.bind ofNumber?
  else match text.map Char.toLower with
    | "off" => some none
    | "error" => some (some .error)
    | "warn" => some (some .warn)
    | "info" => some (some .info)
    | "debug" => some (some .debug)
    | "trace" => some (some .trace)
    | _ => none

def isStart (c : Char) : Bool :=
  c == '-' || c == ':' || c == '_' || Text.isAlphanumeric c

/-- Whether a text may be cut after so many bytes of UTF-8. -/
def isBoundary : Nat → List Char → Bool
  | 0, _ => true
  | _ + 1, [] => false
  | bytes + 1, c :: rest => c.utf8Size ≤ bytes + 1 && isBoundary (bytes + 1 - c.utf8Size) rest

/-- What is wrong with a directive that has a level but begins with blanks. The
place of the equals sign counts from behind the blanks while the directive is cut
with them, so what would be the level still holds the equals sign; and the cut
may fall into the middle of a character. -/
def misplaced (target characters : List Char) : LogFilterError :=
  let place := target.foldr (fun c size => c.utf8Size + size) 0
  if isBoundary place characters && isBoundary (place + 1) characters then .malformedDirective
  else .splitCharacter

/-- Read a directive. A target without a level lets everything through. Blanks
belong to the target or to the level that they stand with: a level with blanks
is none, and a directive that begins with blanks may be a target but not have a
level. -/
def parse (text : String) : Except LogFilterError LogDirective :=
  let characters := text.toList
  let written := characters.dropWhile Text.isBlank
  if written.head?.any isStart then
    let target := written.takeWhile (· != '=')
    match written.dropWhile (· != '=') with
    | [] =>
      .ok (((parseLevel? text).map fun level => ⟨none, level⟩).getD ⟨some text, some .trace⟩)
    | _ :: level =>
      if characters.head?.any Text.isBlank then .error (misplaced target characters)
      else
        match if level.isEmpty then some (some .trace) else parseLevel? (String.ofList level) with
        | some level => .ok ⟨some (String.ofList target), level⟩
        | none => .error .malformedDirective
  else .error .malformedDirective

end LogDirective

namespace LogFilter

/-- Put a directive in its place, instead of an earlier one for the same targets. -/
def insert (directive : LogDirective) : List LogDirective → List LogDirective
  | [] => [directive]
  | first :: rest =>
    if first.target = directive.target then directive :: rest
    else if directive.precedes first then directive :: first :: rest
    else first :: insert directive rest

/-- The filter that lets events of every target through up to a level. -/
def upTo (level : LogLevel) : LogFilter :=
  ⟨[⟨none, some level⟩]⟩

/-- Read a filter. Empty directives are skipped, and nothing passes a filter without any. -/
def parse (text : String) : Except LogFilterError LogFilter := do
  let pieces := (text.toList.splitOn ',').filter fun piece => !piece.isEmpty
  let directives ← pieces.mapM fun piece => LogDirective.parse (String.ofList piece)
  return ⟨directives.foldl (fun sorted directive => insert directive sorted) []⟩

def text (filter : LogFilter) : String :=
  ",".intercalate (filter.directives.map LogDirective.text)

/-- The rank of the most detailed level that the filter lets through for a target. -/
def rankFor (filter : LogFilter) (target : String) : Nat :=
  ((filter.directives.find? fun directive => directive.concerns target).map
    LogDirective.rank).getD 0

/-- Whether an event of a target and a level passes the filter. -/
def passes (filter : LogFilter) (target : String) (level : LogLevel) : Bool :=
  level.rank ≤ filter.rankFor target

/-- The directives that a configured level stands for: nothing means the standard
level, and the name of a level may be in any case or have blanks around it. -/
def normalizeLevel (configured : String) : String :=
  let trimmed := Text.trim configured
  match trimmed.map Char.toLower with
  | "" => "info"
  | "trace" => "trace"
  | "debug" => "debug"
  | "info" => "info"
  | "warn" => "warn"
  | "warning" => "warn"
  | "error" => "error"
  | _ => trimmed

/-- A filter, or another one instead if it has a malformed directive. -/
def orElse (first second : Except LogFilterError LogFilter) : Except LogFilterError LogFilter :=
  match first with
  | .error .malformedDirective => second
  | answer => answer

/-- The filter of a configured level, or the standard one if it is malformed. -/
def ofLevel (configured : String) : Except LogFilterError LogFilter :=
  orElse (parse (normalizeLevel configured)) (.ok (upTo .info))

/-- The filter of a configured level with further directives from the environment,
which count more. If the two are malformed together, those of the environment
count alone, and if they are malformed as well, the configured level does. -/
def effective (configured : String) (environment : Option String) :
    Except LogFilterError LogFilter :=
  if environment.any fun directives => directives.toList.contains '\x00' then
    .error .nulInEnvironment
  else match (environment.map Text.trim).filter fun directives => !directives.isEmpty with
    | none => ofLevel configured
    | some directives =>
      orElse (parse (normalizeLevel configured ++ "," ++ directives))
        (orElse (parse directives) (ofLevel configured))

end LogFilter

end JvmGenerics
