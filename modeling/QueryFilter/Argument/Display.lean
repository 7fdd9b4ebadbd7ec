/-
  DISPLAY OF ARGUMENTS — how an error message shows the value that it complains about.

  Texts are quoted and escaped, collections are shown with their brackets and their elements, and
  the sorts of value that have no brackets or quotes of their own are shown as a call that would
  make them.  An integer beyond the digit limit cannot be shown, nor can anything that holds one.
-/
import QueryFilter.Argument.Basic
import QueryFilter.Text.Display

namespace QueryFilter

/-! ## Octets -/

/-- One octet among others, where the quote `escaped` needs a backslash.  Octets beyond ASCII are
    always shown by their number. -/
def displayOctet (escaped : Char) (b : UInt8) : Text :=
  if b.toNat < 127 then Text.displayChar escaped (Char.ofNat b.toNat) else Text.escapeCode b.toNat

/-- Octets as messages show them.  Those of the growing sort have a backslash before each single
    quote, even between double quotes. -/
def displayOctets (growing : Bool) (bytes : List UInt8) : Text :=
  let quote := Text.displayQuote (bytes.map fun b => Char.ofNat b.toNat)
  let escaped := if growing then '\'' else quote
  'b' :: quote :: bytes.flatMap (displayOctet escaped) ++ [quote]

/-! ## Numbers -/

/-- A double as messages show it. -/
def Double.display : Double → Text
  | .nan => "nan".toList
  | .infinite negative => Integer.sign negative ++ "inf".toList
  | .finite x => x.text

/-- A part of a complex number: a double without point if it has no fraction. -/
def Double.displayPart (d : Double) : Text :=
  let s := d.display
  if ".0".toList <:+ s then s.take (s.length - 2) else s

/-- Whether a double carries a minus sign. -/
def Double.isNegative : Double → Bool
  | .nan => false
  | .infinite negative => negative
  | .finite x => x.negative

/-- A complex number; a real part of positive zero is left out. -/
def displayComplex (re im : Double) : Text :=
  if re = .finite (Binary64.zero false) then im.displayPart ++ ['j']
  else
    '(' :: re.displayPart ++ (if im.isNegative then [] else ['+']) ++ im.displayPart ++ "j)".toList

/-! ## Times -/

/-- A call with its arguments. -/
def displayCall (name : Text) (arguments : List Text) : Text :=
  name ++ '(' :: Text.joinWith ", ".toList arguments ++ [')']

/-- A natural number in base ten. -/
def displayNat (n : Nat) : Text := Nat.toDigits 10 n

/-- Clock fields: seconds and microseconds are left out when they are zero. -/
def TimeOfDay.displayFields (t : TimeOfDay) : List Text :=
  [displayNat t.hour, displayNat t.minute] ++
    if t.microsecond ≠ 0 then [displayNat t.second, displayNat t.microsecond]
    else if t.second ≠ 0 then [displayNat t.second]
    else []

/-- Calendar fields. -/
def Date.displayFields (d : Date) : List Text :=
  [displayNat d.year, displayNat d.month, displayNat d.day]

/-- A difference from universal time, given as days and seconds of a day. -/
def UtcOffset.display (o : UtcOffset) : Text :=
  if o.seconds = 0 then "datetime.timezone.utc".toList
  else
    let days := if o.seconds < 0 then ["days=-1".toList] else []
    let seconds := "seconds=".toList ++ displayNat (o.seconds % 86400).toNat
    displayCall "datetime.timezone".toList
      [displayCall "datetime.timedelta".toList (days ++ [seconds])]

/-- A date-time with its offset, if it has one. -/
def DateTime.display (t : DateTime) : Text :=
  displayCall "datetime.datetime".toList <|
    t.date.displayFields ++ t.time.displayFields ++
      match t.offset with
      | some o => ["tzinfo=".toList ++ o.display]
      | none => []

/-! ## Literals and operators -/

/-- A literal as messages show it. -/
def Literal.display? : Literal → Option Text
  | .bool b => some (if b then "True".toList else "False".toList)
  | .int n => Integer.text? n
  | .double d => some d.display
  | .decimal d => some (displayCall "Decimal".toList [Text.display d.text])
  | .text s => some s.display
  | .raw token => some (displayCall "RawToken".toList ["token=".toList ++ token.display])
  | .dateTime t => some t.display
  | .date d => some (displayCall "datetime.date".toList d.displayFields)

/-- An operator as messages show it, with its name in capitals before the name itself. -/
def Operator.display (op : Operator) : Text :=
  "<Operator.".toList ++ op.title ++ ": ".toList ++ op.name.display ++ ['>']

/-- An operator name as messages show it. -/
def OperatorName.display : OperatorName → Text
  | .member op => op.display
  | .named name => name.display

/-! ## Collections -/

/-- Elements between the brackets of their collection. -/
def CollectionKind.enclose (kind : CollectionKind) (elements : List Text) : Text :=
  match kind, elements with
  | .list, _ => '[' :: Text.joinWith ", ".toList elements ++ [']']
  | .tuple, [element] => '(' :: element ++ ",)".toList
  | .tuple, _ => '(' :: Text.joinWith ", ".toList elements ++ [')']
  | .set, [] => "set()".toList
  | .set, _ => '\x7b' :: Text.joinWith ", ".toList elements ++ ['\x7d']

/-- A range; a step of one is left out. -/
def displayRange? (start stop step : Int) : Option Text := do
  let start ← Integer.text? start
  let stop ← Integer.text? stop
  if step = 1 then return displayCall "range".toList [start, stop]
  else return displayCall "range".toList [start, stop, ← Integer.text? step]

/-- Entries of a mapping between braces. -/
def displayMapping (readOnly : Bool) (entries : List Text) : Text :=
  let braced := '\x7b' :: Text.joinWith ", ".toList entries ++ ['\x7d']
  if readOnly then displayCall "mappingproxy".toList [braced] else braced

mutual

/-- An argument as messages show it; `none` if it holds an integer beyond the digit limit. -/
def Argument.display? : Argument → Option Text
  | .nothing => some "None".toList
  | .literal value => value.display?
  | .operator op => some op.display
  | .octets false bytes => some (displayOctets false bytes)
  | .octets true bytes => some (displayCall "bytearray".toList [displayOctets true bytes])
  | .collection kind elements => (displayElements? elements).map kind.enclose
  | .range start stop step => displayRange? start stop step
  | .mapping readOnly entries => (displayEntries? entries).map (displayMapping readOnly)
  | .options op value => do
    let value ← value.display?
    return displayCall "AnyOptions".toList
      ["operator=".toList ++ op.display, "value=".toList ++ value]
  | .timeOfDay t => some (displayCall "datetime.time".toList t.displayFields)
  | .complex re im => some (displayComplex re im)
  | .object => some "<object object>".toList

/-- Each element as messages show it. -/
def Argument.displayElements? : List Argument → Option (List Text)
  | [] => some []
  | a :: as => do
    let a ← a.display?
    let as ← displayElements? as
    return a :: as

/-- Each entry as messages show it, key before value. -/
def Argument.displayEntries? : List (Argument × Argument) → Option (List Text)
  | [] => some []
  | (key, value) :: entries => do
    let key ← key.display?
    let value ← value.display?
    let entries ← displayEntries? entries
    return (key ++ ": ".toList ++ value) :: entries

end

end QueryFilter
