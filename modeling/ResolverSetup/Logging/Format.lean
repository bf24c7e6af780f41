import ResolverSetup.Log
import ResolverSetup.Logging.Conversion
import ResolverSetup.Logging.TimePattern
import ResolverSetup.Text.Case
import ResolverSetup.Text.Word
/-! Lines of a log, written after a pattern with named fields. -/
namespace ResolverSetup

/-- The parts of a log entry that a pattern can name. What goes with an exception is absent from
every entry. -/
inductive LogField
  | time
  | level
  | weight
  | logger
  | message
  | arguments
  | seconds
  | milliseconds
  | thread
  | process
  | absent
deriving DecidableEq

inductive FormatItem
  | literal (c : Char)
  | field (f : LogField) (layout : FieldLayout) (conversion : Conversion)
deriving DecidableEq

namespace LogField

def ofName? : String → Option LogField
  | "asctime" => some time
  | "levelname" => some level
  | "levelno" => some weight
  | "name" => some logger
  | "message" | "msg" => some message
  | "args" => some arguments
  | "created" => some seconds
  | "msecs" | "relativeCreated" => some milliseconds
  | "threadName" => some thread
  | "processName" => some process
  | "exc_info" | "exc_text" | "stack_info" => some absent
  | _ => none

end LogField

namespace FormatItem

def isFlag (c : Char) : Bool := c == '#' || c == '0' || c == '+' || c == ' ' || c == '-'

def dropCount : List Char → List Char
  | '*' :: s => s
  | s => s.dropWhile fun c => (Text.digitValue? c).isSome

def dropPrecision (s : List Char) : List Char :=
  match s with
  | '.' :: r => if (dropCount r).length < r.length then dropCount r else s
  | _ => s

def isConversion (c : Char) : Bool := "diouxefgcrsa%".toList.any (Text.sameLetter c)

def isField (s : List Char) : Bool :=
  match s.takeWhile Text.isWordPart, s.dropWhile Text.isWordPart with
  | _ :: _, ')' :: r => (dropPrecision (dropCount (r.dropWhile isFlag))).head?.any isConversion
  | _, _ => false

def anyField : List Char → Bool
  | [] => false
  | '%' :: '(' :: s => isField s || anyField s
  | _ :: s => anyField s

/-- A name up to its closing bracket, other brackets coming in pairs, and the text behind it. The
first argument counts the brackets that are open. -/
def bracketed? : Nat → List Char → Option (List Char × List Char)
  | _, [] => none
  | 0, ')' :: s => some ([], s)
  | k + 1, ')' :: s => (bracketed? k s).map fun (n, r) => (')' :: n, r)
  | k, '(' :: s => (bracketed? (k + 1) s).map fun (n, r) => ('(' :: n, r)
  | k, c :: s => (bracketed? k s).map fun (n, r) => (c :: n, r)

def takeNumber (s : List Char) : Nat × List Char :=
  ((s.takeWhile Char.isDigit).foldl (fun n c => n * 10 + (c.toNat - 48)) 0,
    s.dropWhile Char.isDigit)

def takeLayout (s : List Char) : FieldLayout × List Char :=
  let flags := s.takeWhile isFlag
  let (width, s) := takeNumber (s.dropWhile isFlag)
  let (precision, s) := match s with
    | '.' :: r => let (n, r) := takeNumber r; (some n, r)
    | _ => (none, s)
  let s := match s with
    | 'h' :: r | 'l' :: r | 'L' :: r => r
    | _ => s
  (⟨flags.contains '-', flags.contains '+', flags.contains ' ', flags.contains '#',
    flags.contains '0', width, precision⟩, s)

def readField? (s : List Char) : Option (FormatItem × List Char) := do
  match s with
  | '(' :: r =>
    let (name, r) ← bracketed? 0 r
    let field ← LogField.ofName? (String.ofList name)
    match takeLayout r with
    | (l, c :: r) => (Conversion.ofLetter? c).map fun x => (.field field l x, r)
    | _ => none
  | _ => none

def read? : List Char → Option (FormatItem × List Char)
  | '%' :: r => some (.literal '%', r)
  | s => readField? s

/-- The items of a pattern, if all are complete. The first argument bounds their number. -/
def readAll? : Nat → List Char → Option (List FormatItem)
  | 0, s => if s.isEmpty then some [] else none
  | _, [] => some []
  | k + 1, '%' :: s => (read? s).bind fun (x, r) => (readAll? k r).map (x :: ·)
  | k + 1, c :: s => (readAll? k s).map (.literal c :: ·)

end FormatItem

structure LogFormat where
  pattern : String
  timePattern : String
deriving DecidableEq

namespace LogFormat

def standard : LogFormat :=
  ⟨"%(asctime)s [%(levelname)s] [%(name)s] %(message)s", "%Y-%m-%dT%H:%M:%S"⟩

def isValid (f : LogFormat) : Bool := FormatItem.anyField f.pattern.toList

def items? (f : LogFormat) : Option (List FormatItem) :=
  FormatItem.readAll? f.pattern.length f.pattern.toList

def fieldValue (f : LogFormat) (time : Timestamp) (e : LogEntry) : LogField → Value
  | .time => .text (time.format f.timePattern)
  | .level => .text e.level.name
  | .weight => .int e.level.weight
  | .logger => .text e.logger
  | .message => .text e.message
  | .arguments => .list .readOnly []
  | .seconds => .real (.ofRatio false time.seconds 1)
  | .milliseconds => .int 0
  | .thread => .text "MainThread"
  | .process => .text "MainProcess"
  | .absent => .null

def itemText? (f : LogFormat) (time : Timestamp) (e : LogEntry) :
    FormatItem → Option (List Char)
  | .literal c => some [c]
  | .field x layout conversion =>
    (conversion.content? layout (f.fieldValue time e x)).map layout.arrange

def mentions (word : List Char) : List Char → Bool
  | [] => word.isEmpty
  | c :: s => word.isPrefixOf (c :: s) || mentions word s

def timeWritable (f : LogFormat) : Bool :=
  !(f.timePattern.toList.contains '\x00' && mentions "%(asctime)".toList f.pattern.toList)

def line? (f : LogFormat) (time : Timestamp) (e : LogEntry) : Option String := do
  let items ← f.items?
  let parts ← items.mapM (f.itemText? time e)
  if f.timeWritable then return String.ofList (parts.flatten ++ ['\n']) else none

end LogFormat
end ResolverSetup
