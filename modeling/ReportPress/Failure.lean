import ReportPress.Asset.Fault
import ReportPress.Command.Markup
import ReportPress.Config.Basic
import ReportPress.Expr.Parser
import ReportPress.Files.Tree
import ReportPress.Json.Fault
import ReportPress.Raster.Fault
import ReportPress.Template.Fault
import ReportPress.Text.Utf8
import ReportPress.Toml.Fault
/-!
What can go wrong, as causes, each with its wording. `Failure.isStyleFault` says which failures a text component's
style, or a placeholder, is let off for.
-/

namespace ReportPress

inductive Failure where
  | templateMissing (key : String)
  | template (fault : Template.Fault)
  | table (fault : TableFault)
  | setting (fault : SettingFault)
  | asset (fault : AssetFault)
  | expression (fault : Expr.Fault)
  | json (label : Option String) (fault : Json.Fault) (place : Json.Place)
  | toml (fault : Toml.Fault) (place : Toml.Place)
  | encoding (fault : Text.Utf8.Fault)
  | file (fault : FileFault) (path : String)
  /-- a path that holds a null character -/
  | nullInPath
  | noHome
  | noTemplates (directory : String)
  /-- a path segment of digit look-alikes -/
  | badIndex (text : String)
  | tooManyDigits (digits : Nat)
  | notDecimal (text : String)
  /-- a list or an object where a number is needed -/
  | notNumeric (v : Value)
  | infiniteInteger
  | nanInteger
  | integerTooLarge
  | quotientTooLarge
  | pageSize (size : String)
  /-- a colour component that is no fraction of one -/
  | colourRange (ratio : Float)
  | undefinedFont (key : String)
  | unencodable (c : Char) (index : Nat) (font : String)
  | fontExtension (extension : String)
  | fontMissing (path : String)
  | fontUnreadable
  /-- an image that cannot be read, in words of its own -/
  | image (fault : ImageFault)
  | noRoute (url : String)
  | httpStatus (code : Nat) (url : String)
  /-- a failure of something outside, in its own words -/
  | outside (words : String)
  /-- a tag that closes no style -/
  | markup (fault : Markup.Fault) (position : Nat)

/-- the name of the kind of a container, as messages give it -/
def Value.kindWord : Value → String
  | .list .record _ => "list"
  | .list .template _ => "tuple"
  | .object .record _ => "dict"
  | .object .template _ => "mappingproxy"
  | .null => "NoneType"
  | .bool _ => "bool"
  | .int _ => "int"
  | .float _ => "float"
  | .string _ => "str"

/-- the reason phrases of HTTP -/
def httpPhrases : List (Nat × String) :=
  [(400, "Bad Request"), (401, "Unauthorized"), (402, "Payment Required"), (403, "Forbidden"), (404, "Not Found"),
   (405, "Method Not Allowed"), (406, "Not Acceptable"), (407, "Proxy Authentication Required"),
   (408, "Request Timeout"), (409, "Conflict"), (410, "Gone"), (411, "Length Required"),
   (412, "Precondition Failed"), (413, "Request Entity Too Large"), (414, "Request-URI Too Long"),
   (415, "Unsupported Media Type"), (416, "Requested Range Not Satisfiable"), (417, "Expectation Failed"),
   (418, "I'm a teapot"), (421, "Misdirected Request"), (422, "Unprocessable Entity"), (423, "Locked"),
   (424, "Failed Dependency"), (425, "Too Early"), (426, "Upgrade Required"), (428, "Precondition Required"),
   (429, "Too Many Requests"), (431, "Request Header Fields Too Large"), (451, "Unavailable For Legal Reasons"),
   (500, "Internal Server Error"), (501, "Not Implemented"), (502, "Bad Gateway"), (503, "Service Unavailable"),
   (504, "Gateway Timeout"), (505, "HTTP Version Not Supported"), (506, "Variant Also Negotiates"),
   (507, "Insufficient Storage"), (508, "Loop Detected"), (510, "Not Extended"),
   (511, "Network Authentication Required"),
   (100, "Continue"), (101, "Switching Protocols"), (102, "Processing"), (103, "Early Hints"),
   (300, "Multiple Choices"), (301, "Moved Permanently"), (302, "Found"), (303, "See Other"),
   (304, "Not Modified"), (305, "Use Proxy"), (307, "Temporary Redirect"), (308, "Permanent Redirect")]

/-- what a status of each hundred is called -/
def httpClass (code : Nat) : String :=
  match code / 100 with
  | 1 => "Informational response"
  | 3 => "Redirect response"
  | 4 => "Client error"
  | 5 => "Server error"
  | _ => "Invalid status code"

/-- the message of a status that is no success -/
def httpMessage (code : Nat) (url : String) : String :=
  httpClass code ++ " '" ++ Nat.repr code ++ " " ++ (httpPhrases.lookup code).getD "" ++ "' for url '" ++ url ++
    "'\nFor more information check: https://developer.mozilla.org/en-US/docs/Web/HTTP/Status/" ++ Nat.repr code

namespace Failure

def message : Failure → String
  | .templateMissing key => "template not found: " ++ key
  | .template fault => fault.message
  | .table fault => fault.message
  | .setting fault => fault.message
  | .asset fault => fault.message
  | .expression fault => fault.message
  | .json label fault place =>
    (match label with
     | some l => l ++ " is not valid JSON: "
     | none => "") ++ fault.message ++ ": " ++ place.message
  | .toml fault place => (Toml.Error.malformed fault place).message
  | .encoding fault => fault.message
  | .file fault path => fault.message path
  | .nullInPath => "embedded null byte"
  | .noHome => "Could not determine home directory."
  | .noTemplates directory => "templates directory not found: " ++ directory
  | .badIndex text => "invalid literal for int() with base 10: " ++ Text.quoted text
  | .tooManyDigits digits => Numeral.tooLongMessage digits
  | .notDecimal text => "could not convert string to float: " ++ Text.quoted text
  | .notNumeric v => "float() argument must be a string or a real number, not '" ++ v.kindWord ++ "'"
  | .infiniteInteger => "cannot convert float infinity to integer"
  | .nanInteger => "cannot convert float NaN to integer"
  | .integerTooLarge => "int too large to convert to float"
  | .quotientTooLarge => "integer division result too large for a float"
  | .pageSize size => "unsupported page size: " ++ size
  | .colourRange ratio => floatText ratio ++ " not in range [0.0, 1.0]"
  | .undefinedFont key =>
    "Undefined font: " ++ key ++ " - Use built-in fonts or FPDF.add_font() beforehand"
  | .unencodable c index font =>
    "Character \"" ++ String.singleton c ++ "\" at index " ++ Nat.repr index ++
      " in text is outside the range of characters supported by the font used: \"" ++ font ++
      "\". Please consider using a Unicode font."
  | .fontExtension extension =>
    "Unsupported font file extension: " ++ extension ++
      ". add_font() used to accept .pkl file as input, but for security reasons this feature is deprecated since " ++
      "v2.5.1 and has been removed in v2.5.3."
  | .fontMissing path => "TTF Font file not found: " ++ path
  | .fontUnreadable => "Not a TrueType or OpenType font (bad sfntVersion)"
  | .image fault => fault.message
  | .noRoute url => "no route to " ++ url
  | .httpStatus code url => httpMessage code url
  | .outside words => words
  | .markup fault position => fault.message position

/-- failures about a value: its text, its range, its place in a document -/
def isValueFault : Failure → Bool
  | .template _ | .table _ | .setting _ | .expression _ | .json .. | .toml .. | .encoding _ | .nullInPath
  | .noTemplates _ | .badIndex _ | .tooManyDigits _ | .notDecimal _ | .nanInteger | .pageSize _ | .colourRange _
  | .fontExtension _ => true
  | _ => false

/-- failures of the drawing surface itself -/
def isDrawingFault : Failure → Bool
  | .undefinedFont _ | .unencodable .. => true
  | _ => false

/-- failures that a style or a placeholder is let off for -/
def isStyleFault (f : Failure) : Bool :=
  f.isValueFault || f.isDrawingFault ||
    match f with
    | .notNumeric _ => true
    | _ => false

/-- failures about files -/
def isFileFault : Failure → Bool
  | .file .. | .fontMissing _ => true
  | _ => false

/-- failures that a command tells and ends with; all others leave it -/
def isTold : Failure → Bool
  | .infiniteInteger | .integerTooLarge | .quotientTooLarge | .undefinedFont _ | .unencodable .. | .fontUnreadable
  | .noRoute _ | .httpStatus .. | .outside _ | .markup .. => false
  | .image fault => fault == .noMethod
  | _ => true

/-- an image that is just unreadable is no good as an asset -/
def ofImage : ImageFault → Failure
  | .unreadable => .asset .unreadable
  | fault => .image fault

/-- a double that has to be finite, and the failure if it is not -/
def unlessFinite (f : Failure) (x : Float) : Except Failure Float :=
  match Binary64.read x with
  | .finite _ => .ok x
  | _ => .error f

end Failure

end ReportPress
