import StorageInventory.Calendar
import StorageInventory.Number.Numeral
import StorageInventory.Text.Printable
import StorageInventory.Text.Utf8

/-!
# Faults

Everything that can make an operation fail is a constructor here, with the data that its message
shows; `Fault.message` has all the wording.  Every fault belongs to a class, which `Fault.shown`
writes in front of what the fault says of itself.  A message about a configuration value of the
wrong kind names the kind that was found.
-/

namespace StorageInventory

/-! ## Kinds of configuration values -/

namespace Settings

/-- The kinds of values that a configuration can hold. -/
inductive Kind where
  | null
  | bool
  | int
  | float
  | text
  | date
  | dateTime
  | list
  | mapping
  /-- A kind of its own, by its name. -/
  | foreign (name : Text)
  deriving DecidableEq, Repr

/-- The name of a kind in messages about paths. -/
def Kind.name : Kind → Text
  | .null => "NoneType".toList
  | .bool => "bool".toList
  | .int => "int".toList
  | .float => "float".toList
  | .text => "str".toList
  | .date => "date".toList
  | .dateTime => "datetime".toList
  | .list => "list".toList
  | .mapping => "dict".toList
  | .foreign name => name

/-- The name of a kind in all other messages, which for dates and times says where they belong. -/
def Kind.fullName : Kind → Text
  | .date => "datetime.date".toList
  | .dateTime => "datetime.datetime".toList
  | kind => kind.name

end Settings

open Settings (Kind)

/-! ## Faults -/

/-- The ways in which the file system refuses an operation. -/
inductive SystemError where
  | noEntry
  | badDescriptor
  | accessDenied
  | exists
  | notDirectory
  | isDirectory
  | nameTooLong
  | linkLoop
  | overflow
  deriving DecidableEq, Repr

/-- The number of a system error. -/
def SystemError.code : SystemError → Nat
  | .noEntry => 2
  | .badDescriptor => 9
  | .accessDenied => 13
  | .exists => 17
  | .notDirectory => 20
  | .isDirectory => 21
  | .nameTooLong => 36
  | .linkLoop => 40
  | .overflow => 75

/-- The words for a system error. -/
def SystemError.words : SystemError → Text
  | .noEntry => "No such file or directory".toList
  | .badDescriptor => "Bad file descriptor".toList
  | .accessDenied => "Permission denied".toList
  | .exists => "File exists".toList
  | .notDirectory => "Not a directory".toList
  | .isDirectory => "Is a directory".toList
  | .nameTooLong => "File name too long".toList
  | .linkLoop => "Too many levels of symbolic links".toList
  | .overflow => "Value too large for defined data type".toList

/-- A system error in words, with its number. -/
def SystemError.message (error : SystemError) : Text :=
  "[Errno ".toList ++ Text.ofNat error.code ++ "] ".toList ++ error.words

/-- Why an operation failed. -/
inductive Fault where
  /-- Something outside failed; its class and what it says of itself are what it reported. -/
  | reported (cls saying : Text)
  /-- A file operation was refused. -/
  | system (error : SystemError) (path : Text)
  /-- A file operation on a number instead of a path was refused; listing a directory shows it. -/
  | descriptor (error : SystemError) (shown : Option Text)
  /-- A number below zero was given for a file. -/
  | negativeDescriptor
  /-- A number beyond all descriptors was given for a directory. -/
  | descriptorOutOfRange (isTooLarge : Bool)
  /-- A path holds the character U+0000. -/
  | nulInPath
  /-- The path of a directory to list holds the character U+0000. -/
  | nulInDirectory
  /-- A path is not a text. -/
  | pathNotText (kind : Kind)
  /-- A directory to list is not named by a text. -/
  | directoryNotText (kind : Kind)
  /-- A list of lines was expected and nothing was given. -/
  | noLines
  /-- A partition name is empty or has a slash. -/
  | partitionName (name : Text)
  /-- A file-descriptor field other than 0, 1 and 2 was asked for. -/
  | descriptorField
  /-- A text is no whole number in the base. -/
  | notInteger (base : Nat) (text : Text)
  /-- A whole numeral has more digits than the limit. -/
  | integerTooLong (digits : Nat)
  /-- A whole number has too many digits to be written. -/
  | integerTooLongToWrite
  /-- A value of this kind is no number. -/
  | notNumeric (kind : Kind)
  /-- Infinity is no whole number. -/
  | infinityToInteger
  /-- Not-a-number is no whole number. -/
  | nanToInteger
  /-- Bytes are not UTF-8. -/
  | undecodable (piece : Text.Utf8.Malformed)
  /-- The configuration file does not exist. -/
  | configMissing (path : Text)
  /-- The configuration file is not well-formed YAML, for a reason that the loader gives. -/
  | configMalformed (reason : Text)
  /-- The configuration file could not be read. -/
  | configUnreadable (reason : Text)
  /-- The configuration file holds something else than a mapping. -/
  | configNotMapping (path : Text)
  /-- A log format has no placeholder. -/
  | formatWithoutField (format : Text)
  /-- A log format is not a text. -/
  | formatNotText (kind : Kind)
  /-- A log format names a field that records do not have. -/
  | unknownField (field : Text)
  /-- A format ends inside a placeholder. -/
  | incompletePlaceholder
  /-- The key of a placeholder is not closed. -/
  | incompleteKey
  /-- A placeholder has an unknown conversion. -/
  | unknownConversion (letter : Char) (position : Nat)
  /-- A numeric placeholder got something of another kind. -/
  | conversionNeedsNumber (letter : Char) (found : Text)
  /-- A whole-number placeholder got something of another kind. -/
  | conversionNeedsInteger (letter : Char) (found : Text)
  /-- A decimal placeholder got something of another kind. -/
  | conversionNeedsReal (found : Text)
  /-- A placeholder has a key that the values do not have. -/
  | missingKey (key : Text)
  /-- A placeholder for a character got something else. -/
  | conversionNeedsCharacter
  /-- A code point is out of range. -/
  | characterOutOfRange
  /-- A placeholder with a key got values without names. -/
  | placeholderNeedsMapping
  /-- A width is not a whole number. -/
  | widthNeedsInteger
  /-- The digits of a width are too large a number. -/
  | widthTooBig
  /-- The digits of a precision are too large a number. -/
  | precisionTooBig
  /-- The value for a width is out of range. -/
  | widthOutOfRange
  /-- The value for a precision is out of range. -/
  | precisionOutOfRange
  /-- A whole number is too large for a decimal placeholder. -/
  | integerTooLargeForDecimal
  /-- An escape names a number beyond all characters; a very large one is not even looked at. -/
  | escapeOutOfRange (isHuge : Bool)
  /-- A document nests lists and mappings too deeply. -/
  | nestingTooDeep
  /-- A scalar that should be a number is empty. -/
  | emptyNumber
  /-- A scalar that should be a decimal is none. -/
  | notDecimal (text : Text)
  /-- A scalar that should be a timestamp is none. -/
  | notTimestamp
  /-- More values than placeholders. -/
  | tooManyValues
  /-- More placeholders than values. -/
  | notEnoughValues
  /-- A log level is not known. -/
  | unknownLevel (name : Text)
  /-- A log level is neither a name nor a number. -/
  | levelNotName
  /-- A moment lies outside the years 1 to 9999. -/
  | yearOutOfRange (year : Int)
  /-- A year has no such month. -/
  | monthOutOfRange
  /-- A month has no such day. -/
  | dayOutOfRange
  /-- A part of a time of day is beyond the greatest that it can be. -/
  | timeOutOfRange (part : Text) (most : Nat)
  /-- A clock is a day or more away from UTC. -/
  | offsetOutOfRange (seconds : Int)
  /-- A moment lies so far off that its year cannot be told. -/
  | yearTooLarge
  /-- A moment has too many seconds. -/
  | momentOutOfRange
  /-- A language is not a text. -/
  | languageNotText (kind : Kind)
  /-- A language cannot be looked up. -/
  | languageNotHashable (kind : Kind)
  /-- The indentation is too large a number. -/
  | indentTooLarge
  /-- There is not enough memory for the indentation. -/
  | outOfMemory

namespace Fault

/-- The fault of reading `text` as a whole number in base ten. -/
def ofIntegerError (text : Text) : Number.IntegerError → Fault
  | .malformed => .notInteger 10 text
  | .tooLong digits => .integerTooLong digits

/-- The longest quotation of a text that is no number. -/
def quotationLimit : Nat := 200

/-- The class of the faults about keys that are missing; these faults quote the key. -/
def keyClass : Text := "KeyError".toList

/-- The wording of a fault. -/
def message : Fault → Text
  | .reported cls saying => if cls = keyClass then Text.quoted saying else saying
  | .system error path => error.message ++ ": ".toList ++ Text.quoted path
  | .descriptor error none => error.message
  | .descriptor error (some shown) => error.message ++ ": ".toList ++ shown
  | .negativeDescriptor => "negative file descriptor".toList
  | .descriptorOutOfRange true => "fd is greater than maximum".toList
  | .descriptorOutOfRange false => "fd is less than minimum".toList
  | .nulInPath => "embedded null byte".toList
  | .nulInDirectory => "scandir: embedded null character in path".toList
  | .pathNotText kind => "expected str, bytes or os.PathLike object, not ".toList ++ kind.name
  | .directoryNotText kind =>
    "scandir: path should be string, bytes, os.PathLike, integer or None, not ".toList ++ kind.name
  | .noLines => "'NoneType' object is not iterable".toList
  | .partitionName name => "Invalid partition name: ".toList ++ Text.quoted name
  | .descriptorField => "Index must be between 0 and 2.".toList
  | .notInteger base text =>
    "invalid literal for int() with base ".toList ++ Text.ofNat base ++ ": ".toList
      ++ (Text.quoted text).take quotationLimit
  | .integerTooLong digits =>
    "Exceeds the limit (".toList ++ Text.ofNat Number.digitLimit
      ++ " digits) for integer string conversion: value has ".toList ++ Text.ofNat digits
      ++ " digits; use sys.set_int_max_str_digits() to increase the limit".toList
  | .integerTooLongToWrite =>
    "Exceeds the limit (".toList ++ Text.ofNat Number.digitLimit
      ++ (" digits) for integer string conversion; "
        ++ "use sys.set_int_max_str_digits() to increase the limit").toList
  | .notNumeric kind =>
    "int() argument must be a string, a bytes-like object or a real number, not '".toList
      ++ kind.fullName ++ "'".toList
  | .infinityToInteger => "cannot convert float infinity to integer".toList
  | .nanToInteger => "cannot convert float NaN to integer".toList
  | .undecodable piece => piece.message
  | .configMissing path =>
    "Configuration file '".toList ++ path
      ++ ("' not found. Expected locations: "
        ++ "/etc/sysinventory.yaml or ./sysinventory.yaml").toList
  | .configMalformed reason => "Invalid YAML in configuration file: ".toList ++ reason
  | .configUnreadable reason => "Failed to load configuration file: ".toList ++ reason
  | .configNotMapping path =>
    "Configuration file '".toList ++ path ++ "' must contain a mapping".toList
  | .formatWithoutField format => "Invalid format '".toList ++ format ++ "' for '%' style".toList
  | .formatNotText kind =>
    "expected string or bytes-like object, got '".toList ++ kind.fullName ++ "'".toList
  | .unknownField field =>
    "Formatting field not found in record: ".toList ++ Text.quoted field
  | .incompletePlaceholder => "incomplete format".toList
  | .incompleteKey => "incomplete format key".toList
  | .unknownConversion letter position =>
    "unsupported format character '".toList ++ [if 0x1F ≤ letter.toNat && letter.toNat < 0x7F
      then letter else '?'] ++ "' (0x".toList ++ Text.ofNatHex 0 letter.toNat
      ++ ") at index ".toList ++ Text.ofNat position
  | .conversionNeedsNumber letter found =>
    '%' :: letter :: " format: a real number is required, not ".toList ++ found
  | .conversionNeedsInteger letter found =>
    '%' :: letter :: " format: an integer is required, not ".toList ++ found
  | .conversionNeedsReal found => "must be real number, not ".toList ++ found
  | .missingKey key => Text.quoted key
  | .conversionNeedsCharacter => "%c requires int or char".toList
  | .characterOutOfRange => "%c arg not in range(0x110000)".toList
  | .placeholderNeedsMapping => "format requires a mapping".toList
  | .widthNeedsInteger => "* wants int".toList
  | .widthTooBig => "width too big".toList
  | .precisionTooBig => "precision too big".toList
  | .widthOutOfRange => "Python int too large to convert to C ssize_t".toList
  | .precisionOutOfRange => "Python int too large to convert to C int".toList
  | .integerTooLargeForDecimal => "int too large to convert to float".toList
  | .tooManyValues => "not all arguments converted during string formatting".toList
  | .notEnoughValues => "not enough arguments for format string".toList
  | .unknownLevel name => "Unknown level: ".toList ++ Text.quoted name
  | .levelNotName => "Level not an integer or a valid string".toList
  | .yearTooLarge => SystemError.message .overflow
  | .momentOutOfRange => "timestamp out of range for platform time_t".toList
  | .yearOutOfRange year => "year ".toList ++ Text.ofInt year ++ " is out of range".toList
  | .monthOutOfRange => "month must be in 1..12".toList
  | .dayOutOfRange => "day is out of range for month".toList
  | .timeOutOfRange part most => part ++ " must be in 0..".toList ++ Text.ofNat most
  | .offsetOutOfRange seconds =>
    ("offset must be a timedelta strictly between -timedelta(hours=24) and "
      ++ "timedelta(hours=24), not ").toList ++ durationText seconds ++ ['.']
  | .escapeOutOfRange false => "chr() arg not in range(0x110000)".toList
  | .escapeOutOfRange true => "Python int too large to convert to C int".toList
  | .nestingTooDeep => "maximum recursion depth exceeded".toList
  | .emptyNumber => "string index out of range".toList
  | .notDecimal text => "could not convert string to float: ".toList ++ Text.quoted text
  | .notTimestamp => "'NoneType' object has no attribute 'groupdict'".toList
  | .languageNotText kind =>
    "'".toList ++ kind.fullName ++ "' object has no attribute 'lower'".toList
  | .languageNotHashable kind => "unhashable type: '".toList ++ kind.fullName ++ "'".toList
  | .indentTooLarge => "cannot fit 'int' into an index-sized integer".toList
  | .outOfMemory => []

/-- The class of what the system refuses. -/
def systemClass : SystemError → Text
  | .noEntry => "FileNotFoundError".toList
  | .accessDenied => "PermissionError".toList
  | .exists => "FileExistsError".toList
  | .notDirectory => "NotADirectoryError".toList
  | .isDirectory => "IsADirectoryError".toList
  | .nameTooLong | .linkLoop | .badDescriptor | .overflow => "OSError".toList

/-- The class of a fault. -/
def className : Fault → Text
  | .reported cls _ => cls
  | .system error _ | .descriptor error _ => systemClass error
  | .nulInPath | .nulInDirectory | .negativeDescriptor | .partitionName _ | .descriptorField
  | .notInteger .. | .integerTooLong _ | .integerTooLongToWrite | .nanToInteger
  | .configMalformed _ | .configNotMapping _ | .formatWithoutField _ | .unknownField _
  | .incompletePlaceholder | .incompleteKey | .widthTooBig | .precisionTooBig
  | .unknownConversion .. | .unknownLevel _ | .yearOutOfRange _ | .monthOutOfRange | .dayOutOfRange
  | .timeOutOfRange .. | .offsetOutOfRange _ | .escapeOutOfRange false | .notDecimal _ =>
    "ValueError".toList
  | .pathNotText _ | .directoryNotText _ | .noLines | .notNumeric _ | .formatNotText _
  | .conversionNeedsReal _ | .conversionNeedsNumber .. | .conversionNeedsInteger ..
  | .conversionNeedsCharacter | .placeholderNeedsMapping | .widthNeedsInteger
  | .tooManyValues | .notEnoughValues | .levelNotName | .languageNotHashable _ =>
    "TypeError".toList
  | .missingKey _ => keyClass
  | .yearTooLarge => systemClass .overflow
  | .widthOutOfRange | .precisionOutOfRange | .integerTooLargeForDecimal | .momentOutOfRange
  | .descriptorOutOfRange _ | .infinityToInteger | .characterOutOfRange | .indentTooLarge
  | .escapeOutOfRange true => "OverflowError".toList
  | .undecodable _ => "UnicodeDecodeError".toList
  | .configMissing _ => "FileNotFoundError".toList
  | .configUnreadable _ => "RuntimeError".toList
  | .languageNotText _ | .notTimestamp => "AttributeError".toList
  | .emptyNumber => "IndexError".toList
  | .nestingTooDeep => "RecursionError".toList
  | .outOfMemory => "MemoryError".toList

/-- What a fault says of itself: its message, a system error its number and words, and a missing key
the key. -/
def sayings : Fault → List Text
  | .reported _ saying => [Text.quoted saying]
  | .system error _ | .descriptor error _ => [Text.ofNat error.code, Text.quoted error.words]
  | .missingKey key => [Text.quoted key]
  | .outOfMemory => []
  | fault => [Text.quoted fault.message]

/-- A fault as it is shown inside another value. -/
def shown (fault : Fault) : Text :=
  fault.className ++ '(' :: ", ".toList.intercalate fault.sayings ++ [')']

/-- The system refused. -/
def isSystem : Fault → Bool
  | .system .. | .descriptor .. => true
  | _ => false

end Fault

end StorageInventory
