import RequestLog.Value

/-!
# Faults

A fault is a step that cannot be carried out on the values it is given: a value of the wrong type, a
missing entry, a text that is no number, a file that cannot be opened.  Every fault has a kind,
which answers name, and a text, which log lines show.
-/

namespace RequestLog

/-- The kinds of failure. -/
inductive Kind where
  /-- A value of a type that the step does not take. -/
  | wrongType
  /-- A value of the right type that the step refuses. -/
  | badValue
  /-- An entry that is not there. -/
  | missingKey
  /-- A position that is not there. -/
  | missingIndex
  /-- A property that the value does not have. -/
  | missingAttribute
  /-- A text that the encoding cannot write. -/
  | unencodable
  /-- A number out of range. -/
  | overflow
  /-- More memory than there is. -/
  | memory
  /-- A failure at run time. -/
  | runtime
  /-- A failure of the operating system. -/
  | system
  /-- A file that is not there. -/
  | fileNotFound
  /-- A file where a new folder should be. -/
  | fileExists
  /-- A folder where a file should be. -/
  | isFolder
  /-- A file where a folder should be. -/
  | notFolder
  /-- The task was cancelled. -/
  | cancelled
  /-- The user interrupted the program. -/
  | interrupt
  /-- A registration was refused. -/
  | registration
  /-- A name is taken. -/
  | alreadyRegistered
  /-- A format names extractors that are not registered. -/
  | missingExtractor
  /-- A text is no token. -/
  | malformedToken
  /-- No format has the name. -/
  | unknownFormat
  /-- No extractor has the key. -/
  | unknownExtractor
  /-- The options give no working logger. -/
  | configuration
  /-- Settings were refused. -/
  | validation
  deriving DecidableEq, Repr

namespace Kind

/-- The word that answers and log lines use for a kind. -/
def label : Kind → String
  | wrongType => "TypeError"
  | badValue => "ValueError"
  | missingKey => "KeyError"
  | missingIndex => "IndexError"
  | missingAttribute => "AttributeError"
  | unencodable => "UnicodeEncodeError"
  | overflow => "OverflowError"
  | memory => "MemoryError"
  | runtime => "RuntimeError"
  | system => "OSError"
  | fileNotFound => "FileNotFoundError"
  | fileExists => "FileExistsError"
  | isFolder => "IsADirectoryError"
  | notFolder => "NotADirectoryError"
  | cancelled => "CancelledError"
  | interrupt => "KeyboardInterrupt"
  | registration => "RegistrationError"
  | alreadyRegistered => "AlreadyRegisteredError"
  | missingExtractor => "MissingSimplifierError"
  | malformedToken => "MalformedTokenError"
  | unknownFormat => "UnknownFormatError"
  | unknownExtractor => "SimplifierNotFoundError"
  | configuration => "ConfigurationError"
  | validation => "ValidationError"

/-- An ordinary failure is contained by whoever guards a step; a cancellation or an interrupt passes
every guard. -/
def isOrdinary : Kind → Bool
  | cancelled => false
  | interrupt => false
  | _ => true

/-- The word for a kind in front of a logged failure. -/
def loggedLabel : Kind → String
  | cancelled => "asyncio.exceptions.CancelledError"
  | kind => kind.label

/-- The kinds that a script can raise. -/
def scripted : List Kind :=
  [runtime, system, badValue, missingKey, cancelled, interrupt]

/-- The scripted kind with the given label. -/
def scripted? (label : String) : Option Kind :=
  scripted.find? fun kind => kind.label == label

end Kind

/-- A step that cannot be carried out. -/
inductive Fault where
  /-- A list or a mapping used as a key. -/
  | unhashable (type : String)
  /-- A value run through item by item that has no items. -/
  | notIterable (type : String)
  /-- A value searched for a member that has no members. -/
  | notSearchable (type : String)
  /-- A value asked for its first item that has no items. -/
  | notIndexable (type : String)
  /-- The first item of a sequence that has fewer. -/
  | noFirstItem (type : String)
  /-- A value taken apart that has no parts. -/
  | notUnpackable (type : String)
  /-- Two values of types that cannot be joined; only texts join texts. -/
  | notJoinable (left right : String)
  /-- Two values of types that cannot be subtracted; only numbers can. -/
  | notSubtractable (left right : String)
  /-- A value taken for the beginning of a text that is no text. -/
  | notBeginning (type : String)
  /-- A value compared with a pattern that is no text. -/
  | notMatchable (type : String)
  /-- A value written with a fixed number of places that is no number. -/
  | notWritable (type : String)
  /-- A value without a property that is asked for. -/
  | noAttribute (type name : String)
  /-- An extractor called with too many arguments. -/
  | tooManyArguments (function : String) (least most given : Nat)
  /-- An extractor called without an argument that it needs. -/
  | missingArgument (function argument : String)
  /-- An option with a name that the step itself uses. -/
  | reservedOption (name : String)
  /-- An entry that is not there. -/
  | missingEntry (key : Value)
  /-- A pair expected, fewer parts found. -/
  | tooFewParts (found : Nat)
  /-- A pair expected, more parts found. -/
  | tooManyParts
  /-- A text that is no integer. -/
  | notInteger (text : String)
  /-- An integer text with more digits than are read. -/
  | tooManyDigits (count : Nat)
  /-- A negative number of places. -/
  | negativePlaces
  /-- A number of places beyond what is counted. -/
  | excessivePlaces
  /-- A number of places beyond what is written. -/
  | hugePlaces
  /-- A run of characters beyond the Latin octets: its first character, its place and its length. -/
  | beyondLatin (first : Char) (place length : Nat)
  /-- A character beyond ASCII in a text of sextets. -/
  | beyondAscii
  /-- A year outside 1 to 9999. -/
  | yearOutOfRange (year : Int)
  /-- A number that is not one. -/
  | undefinedNumber
  /-- A number that is infinite. -/
  | infiniteNumber
  /-- An instant that no clock shows. -/
  | instantOutOfRange
  /-- An instant whose year no calendar counts. -/
  | yearUncounted
  /-- An integer too large for a floating-point number. -/
  | oversizedInteger
  /-- A value where a number is expected. -/
  | notNumber (type : String)
  /-- Fewer log arguments than the message has places for. -/
  | tooFewLogArguments
  /-- More log arguments than the message has places for. -/
  | tooManyLogArguments
  /-- A place for a number filled by another value. -/
  | numberExpected (conversion : Char) (type : String)
  /-- A place for an integer filled by another value. -/
  | integerExpected (conversion : Char) (type : String)
  /-- A place for a character filled by another value. -/
  | characterExpected
  /-- A character number that is none. -/
  | noCharacter
  /-- A place named by a key where the arguments are no mapping. -/
  | mappingExpected
  /-- A width taken from an argument that is no integer. -/
  | widthExpected
  /-- A width beyond what is written. -/
  | hugeWidth
  /-- An argument for a width or a precision beyond what is counted. -/
  | uncountable
  /-- More digits than an integer can be given. -/
  | hugeDigits
  /-- A text too long to be held. -/
  | noRoom
  /-- A place that ends too early. -/
  | unfinishedPlace
  /-- A key of a place that ends too early. -/
  | unfinishedKey
  /-- A place of unknown conversion. -/
  | unknownConversion (conversion : Char) (place : Nat)
  /-- A key that no object can have. -/
  | badObjectKey (type : String)
  /-- A level that is no integer. -/
  | badLevel
  /-- A step that gave up by itself. -/
  | givenUp (reason : String)
  /-- A path with a null character. -/
  | nullInPath
  /-- A file that is not there. -/
  | noSuchFile (path : String)
  /-- A file stands where a folder should be made. -/
  | fileInPlace (path : String)
  /-- A folder where a file should be. -/
  | pathIsFolder (path : String)
  /-- A file where a folder should be. -/
  | pathNotFolder (path : String)
  /-- A name beyond what a folder holds. -/
  | nameTooLong (path : String)
  deriving Repr

namespace Fault

/-- The kind of a fault. -/
def kind : Fault → Kind
  | unhashable _ | notIterable _ | notSearchable _ | notIndexable _ | notUnpackable _
  | notJoinable _ _ | notSubtractable _ _ | notBeginning _ | notMatchable _ | tooManyArguments ..
  | missingArgument .. | reservedOption _ | notNumber _ | tooFewLogArguments | tooManyLogArguments
  | numberExpected .. | integerExpected ..
  | characterExpected | mappingExpected | widthExpected | badObjectKey _ | badLevel =>
      .wrongType
  | notWritable type => if type = "str" then .badValue else .wrongType
  | noFirstItem _ => .missingIndex
  | noAttribute .. => .missingAttribute
  | missingEntry _ => .missingKey
  | tooFewParts _ | tooManyParts | notInteger _ | tooManyDigits _ | negativePlaces
  | excessivePlaces | hugePlaces | beyondAscii | yearOutOfRange _ | undefinedNumber | hugeWidth
  | unfinishedPlace | unfinishedKey | unknownConversion .. | nullInPath =>
      .badValue
  | beyondLatin .. => .unencodable
  | infiniteNumber | instantOutOfRange | oversizedInteger | noCharacter | uncountable
  | hugeDigits => .overflow
  | noRoom => .memory
  | givenUp _ => .runtime
  | noSuchFile _ => .fileNotFound
  | fileInPlace _ => .fileExists
  | pathIsFolder _ => .isFolder
  | pathNotFolder _ => .notFolder
  | nameTooLong _ | yearUncounted => .system

/-- A count of arguments with its noun. -/
def argumentCount (least most given : Nat) : String :=
  let taken :=
    if least = most then
      toString most ++ " positional argument" ++ (if most = 1 then "" else "s")
    else
      "from " ++ toString least ++ " to " ++ toString most ++ " positional arguments"
  taken ++ " but " ++ toString given ++ (if given = 1 then " was given" else " were given")

/-- The failure of the operating system with its number. -/
def systemText (number : Nat) (reason path : String) : String :=
  "[Errno " ++ toString number ++ "] " ++ reason ++ ": " ++ Text.quoted path

/-- The first two hundred characters of a text. -/
def clipped (text : String) : String :=
  String.ofList (text.toList.take 200)

/-- A character of ASCII that can be seen, or else a question mark. -/
def visible (c : Char) : Char :=
  if 31 ≤ c.toNat ∧ c.toNat ≤ 126 then c else '?'

/-- A run of characters by its place; a single character is shown too. -/
def runText (first : Char) (place length : Nat) : String :=
  if length = 1 then
    "character '" ++ String.ofList (Text.escapeCode first.toNat) ++ "' in position " ++
      toString place
  else
    "characters in position " ++ toString place ++ "-" ++ toString (place + length - 1)

/-- The text of a fault. -/
def text : Fault → String
  | unhashable type => "unhashable type: '" ++ type ++ "'"
  | notIterable type => "'" ++ type ++ "' object is not iterable"
  | notSearchable type => "argument of type '" ++ type ++ "' is not iterable"
  | notIndexable type => "'" ++ type ++ "' object is not subscriptable"
  | noFirstItem type => type ++ " index out of range"
  | notUnpackable type => "cannot unpack non-iterable " ++ type ++ " object"
  | notJoinable "str" right => "can only concatenate str (not \"" ++ right ++ "\") to str"
  | notJoinable "list" right => "can only concatenate list (not \"" ++ right ++ "\") to list"
  | notJoinable "tuple" right => "can only concatenate tuple (not \"" ++ right ++ "\") to tuple"
  | notJoinable "bytes" right => "can't concat " ++ right ++ " to bytes"
  | notJoinable left right =>
      "unsupported operand type(s) for +: '" ++ left ++ "' and '" ++ right ++ "'"
  | notSubtractable left right =>
      "unsupported operand type(s) for -: '" ++ left ++ "' and '" ++ right ++ "'"
  | notBeginning type => "startswith first arg must be str or a tuple of str, not " ++ type
  | notMatchable type => "expected string or bytes-like object, got '" ++ type ++ "'"
  | notWritable "str" => "Unknown format code 'f' for object of type 'str'"
  | notWritable type => "unsupported format string passed to " ++ type ++ ".__format__"
  | noAttribute type name => "'" ++ type ++ "' object has no attribute '" ++ name ++ "'"
  | tooManyArguments function least most given =>
      function ++ "() takes " ++ argumentCount least most given
  | missingArgument function argument =>
      function ++ "() missing 1 required positional argument: '" ++ argument ++ "'"
  | reservedOption name => "got multiple values for argument '" ++ name ++ "'"
  | missingEntry key => key.shown
  | tooFewParts found => "not enough values to unpack (expected 2, got " ++ toString found ++ ")"
  | tooManyParts => "too many values to unpack (expected 2)"
  | notInteger text => "invalid literal for int() with base 10: " ++ clipped (Text.quoted text)
  | tooManyDigits count =>
      "Exceeds the limit (4300 digits) for integer string conversion: value has "
        ++ toString count ++ " digits; use sys.set_int_max_str_digits() to increase the limit"
  | negativePlaces => "Format specifier missing precision"
  | excessivePlaces => "Too many decimal digits in format string"
  | hugePlaces => "precision too big"
  | beyondLatin first place length =>
      "'latin-1' codec can't encode " ++ runText first place length ++ ": ordinal not in range(256)"
  | beyondAscii => "string argument should contain only ASCII characters"
  | yearOutOfRange year => "year " ++ toString year ++ " is out of range"
  | yearUncounted => "[Errno 75] Value too large for defined data type"
  | undefinedNumber => "cannot convert float NaN to integer"
  | infiniteNumber => "cannot convert float infinity to integer"
  | instantOutOfRange => "timestamp out of range for platform time_t"
  | oversizedInteger => "int too large to convert to float"
  | notNumber type => "must be real number, not " ++ type
  | tooFewLogArguments => "not enough arguments for format string"
  | tooManyLogArguments => "not all arguments converted during string formatting"
  | numberExpected conversion type =>
      "%" ++ conversion.toString ++ " format: a real number is required, not " ++ type
  | integerExpected conversion type =>
      "%" ++ conversion.toString ++ " format: an integer is required, not " ++ type
  | characterExpected => "%c requires int or char"
  | noCharacter => "%c arg not in range(0x110000)"
  | mappingExpected => "format requires a mapping"
  | widthExpected => "* wants int"
  | hugeWidth => "width too big"
  | uncountable => "width or precision out of range"
  | hugeDigits => "precision too large"
  | noRoom => ""
  | unfinishedPlace => "incomplete format"
  | unfinishedKey => "incomplete format key"
  | unknownConversion conversion place =>
      "unsupported format character '" ++ (visible conversion).toString ++ "' (0x"
        ++ String.ofList (Nat.toDigits 16 conversion.toNat) ++ ") at index " ++ toString place
  | badObjectKey type => "keys must be str, int, float, bool or None, not " ++ type
  | badLevel => "level must be an integer"
  | givenUp reason => reason
  | nullInPath => "embedded null byte"
  | noSuchFile path => systemText 2 "No such file or directory" path
  | fileInPlace path => systemText 17 "File exists" path
  | pathIsFolder path => systemText 21 "Is a directory" path
  | pathNotFolder path => systemText 20 "Not a directory" path
  | nameTooLong path => systemText 36 "File name too long" path

end Fault
end RequestLog
