import ElfInspect.Number.Numeral
import ElfInspect.Text.Blank
import ElfInspect.Text.Case

namespace ElfInspect

/-!
# Styles

A style says in words how a text looks: attributes such as `bold`, a colour, `on` and a colour for
the background, `link` and a target.

* `TextStyle.read`: the style that words describe, or what is wrong with them;
* `TextStyle.text`: the words of a style, each attribute once and in a fixed order;
* `styleName`: the name under which a style is known, whatever the order of its words.

Capitals count as small letters.  A colour given by numbers that cannot be read is more than a
fault of the style: whatever the style was read for stops there.
-/

/-- What a style can switch on or off. -/
inductive Attribute
  | bold
  | dim
  | italic
  | underline
  | blink
  | fastBlink
  | reverse
  | conceal
  | strike
  | doubleUnderline
  | frame
  | encircle
  | overline
  deriving Repr, DecidableEq

namespace Attribute

/-- All attributes in the order in which they are written. -/
def all : List Attribute :=
  [.bold, .dim, .italic, .underline, .blink, .fastBlink, .reverse, .conceal, .strike,
   .doubleUnderline, .frame, .encircle, .overline]

/-- The word for an attribute. -/
def name : Attribute → String
  | bold => "bold"
  | dim => "dim"
  | italic => "italic"
  | underline => "underline"
  | blink => "blink"
  | fastBlink => "blink2"
  | reverse => "reverse"
  | conceal => "conceal"
  | strike => "strike"
  | doubleUnderline => "underline2"
  | frame => "frame"
  | encircle => "encircle"
  | overline => "overline"

/-- The short word for an attribute, if it has one. -/
def short? : Attribute → Option String
  | bold => some "b"
  | dim => some "d"
  | italic => some "i"
  | underline => some "u"
  | reverse => some "r"
  | conceal => some "c"
  | strike => some "s"
  | doubleUnderline => some "uu"
  | overline => some "o"
  | _ => none

/-- The attribute that a word names. -/
def ofWord? (word : String) : Option Attribute :=
  all.find? fun a => a.name = word || a.short? = some word

/-- No attribute has a name that stands for another one. -/
@[simp]
theorem ofWord?_name (a : Attribute) : ofWord? a.name = some a := by
  cases a <;> decide

end Attribute

/-! ### Colours -/

/-- The names of colours. -/
def colourNames : List String :=
  ["default", "black", "red", "green", "yellow", "blue", "magenta", "cyan", "white",
   "bright_black", "bright_red", "bright_green", "bright_yellow", "bright_blue", "bright_magenta",
   "bright_cyan", "bright_white", "navy_blue", "dark_blue", "blue3", "blue1", "dark_green",
   "deep_sky_blue4", "dodger_blue3", "dodger_blue2", "green4", "spring_green4", "turquoise4",
   "deep_sky_blue3", "dodger_blue1", "green3", "spring_green3", "dark_cyan", "light_sea_green",
   "deep_sky_blue2", "deep_sky_blue1", "spring_green2", "cyan3", "dark_turquoise", "turquoise2",
   "green1", "spring_green1", "medium_spring_green", "cyan2", "cyan1", "dark_red", "deep_pink4",
   "purple4", "purple3", "blue_violet", "orange4", "medium_purple4", "slate_blue3",
   "royal_blue1", "chartreuse4", "dark_sea_green4", "pale_turquoise4", "steel_blue",
   "steel_blue3", "cornflower_blue", "chartreuse3", "cadet_blue", "sky_blue3", "steel_blue1",
   "pale_green3", "sea_green3", "aquamarine3", "medium_turquoise", "chartreuse2", "sea_green2",
   "sea_green1", "aquamarine1", "dark_slate_gray2", "dark_magenta", "dark_violet", "purple",
   "light_pink4", "plum4", "medium_purple3", "slate_blue1", "yellow4", "wheat4",
   "light_slate_grey", "light_slate_gray", "medium_purple", "light_slate_blue",
   "dark_olive_green3", "dark_sea_green", "dark_sea_green2", "light_sky_blue3", "sky_blue2",
   "dark_sea_green3", "dark_slate_gray3", "sky_blue1", "chartreuse1", "light_green", "pale_green1",
   "dark_slate_gray1", "red3", "medium_violet_red", "magenta3", "dark_orange3", "indian_red",
   "hot_pink3", "medium_orchid3", "medium_orchid", "medium_purple2", "dark_goldenrod",
   "light_salmon3", "rosy_brown", "medium_purple1", "gold3", "dark_khaki", "navajo_white3",
   "light_steel_blue3", "light_steel_blue", "yellow3", "light_cyan3", "light_sky_blue1",
   "green_yellow", "dark_olive_green2", "dark_sea_green1", "pale_turquoise1", "deep_pink3",
   "magenta2", "hot_pink2", "orchid", "medium_orchid1", "orange3", "light_pink3", "pink3",
   "plum3", "violet", "light_goldenrod3", "tan", "misty_rose3", "thistle3", "plum2", "khaki3",
   "light_goldenrod2", "light_yellow3", "light_steel_blue1", "yellow2", "dark_olive_green1",
   "honeydew2", "light_cyan1", "red1", "deep_pink2", "deep_pink1", "magenta1", "orange_red1",
   "indian_red1", "hot_pink", "dark_orange", "salmon1", "light_coral", "pale_violet_red1",
   "orchid2", "orchid1", "orange1", "sandy_brown", "light_salmon1", "light_pink1", "pink1",
   "plum1", "gold1", "navajo_white1", "misty_rose1", "thistle1", "yellow1", "light_goldenrod1",
   "khaki1", "wheat1", "cornsilk1"]

/-- The shades between black and white that have a name, in percent. -/
def namedShades : List Nat :=
  [0, 3, 7, 11, 15, 19, 23, 27, 30, 35, 37, 39, 42, 46, 50, 53, 54, 58, 62, 63, 66, 69, 70, 74,
   78, 82, 84, 85, 89, 93, 100]

/-- Whether a word names a shade between black and white. -/
def namesShade (word : String) : Bool :=
  namedShades.any fun n => word = "grey" ++ toString n || word = "gray" ++ toString n

/-- What is wrong with a colour. -/
inductive ColourFault
  | unknown (word : String)
  | number (word : String)
  | componentCount (word : String)
  | componentRange (word : String)
  | numeral (fault : NumeralFault)
  deriving Repr, DecidableEq

/-- The text of a fault. -/
def ColourFault.message : ColourFault → String
  | unknown word => quoteText word ++ " is not a valid color"
  | number word => "color number must be <= 255 in " ++ quoteText word
  | componentCount word => "expected three components in " ++ quoteText word
  | componentRange word => "color components must be <= 255 in " ++ quoteText word
  | numeral fault => fault.message

/-- The text between a start and a closing bracket at the end. -/
def argument? (start : String) (word : List Char) : Option (List Char) :=
  if start.toList.isPrefixOf word ∧ word.getLast? = some ')' then
    some (word.drop start.length).dropLast
  else none

/-- What is wrong with a colour given by three numbers. -/
def componentFault? (word : String) (list : List Char) : Option ColourFault :=
  let components := splitAtChar ',' list
  if components.length ≠ 3 then some (.componentCount word)
  else
    match components.mapM readNumeral with
    | .error fault => some (.numeral fault)
    | .ok values => if values.any (255 < ·) then some (.componentRange word) else none

/-- What is wrong with a word as a colour: a name, `#` and six digits, the number of a colour, or
    the three components of one. -/
def colourFault? (word : String) : Option ColourFault :=
  let name := lower word
  let small := name.toList
  if colourNames.contains name ∨ namesShade name then none
  else
    match small with
    | '#' :: digits =>
      if digits.length = 6 ∧ digits.all (fun c => (hexDigitValue? c).isSome) then none
      else some (.unknown word)
    | _ =>
      match argument? "color(" small, argument? "rgb(" small with
      | some digits, _ =>
        if digits.isEmpty ∨ 3 < digits.length ∨ !digits.all Char.isDigit then some (.unknown word)
        -- Three digits may still be above the last number.
        else if (readNumeral digits).toOption.any (255 < ·) then some (.number name)
        else none
      | none, some list =>
        if list.isEmpty ∨ !list.all (fun c => (decimalDigit? c).isSome || c = ',') then
          some (.unknown word)
        else componentFault? word list
      | none, none => some (.unknown word)

/-! ### Styles in words -/

/-- How a text looks.  Of two entries for an attribute the first one counts. -/
structure TextStyle where
  attributes : List (Attribute × Bool) := []
  colour : Option String := none
  background : Option String := none
  link : Option String := none
  deriving Repr, DecidableEq

/-- What is wrong with the words of a style. -/
inductive StyleFault
  | colour (word : String) (fault : ColourFault)
  | background (word : String) (fault : ColourFault)
  | noBackground
  | notAttribute (word : String)
  | noTarget
  deriving Repr, DecidableEq

/-- The number in a fault that could not be read. -/
def StyleFault.numeral? : StyleFault → Option NumeralFault
  | colour _ (.numeral fault) => some fault
  | background _ (.numeral fault) => some fault
  | _ => none

/-- The text of a fault.  A number that could not be read is reported as it is. -/
def StyleFault.message : StyleFault → String
  | colour _ (.numeral fault) => fault.message
  | background _ (.numeral fault) => fault.message
  | colour word fault => "unable to parse " ++ quoteText word ++ " as color; " ++ fault.message
  | background word fault =>
    "unable to parse " ++ quoteText word ++ " as background color; " ++ fault.message
  | noBackground => "color expected after 'on'"
  | notAttribute word =>
    "expected style attribute after 'not', found " ++ quoteText word
  | noTarget => "URL expected after 'link'"

namespace TextStyle

/-- Reads the words of a style one after another. -/
def readWords (style : TextStyle) : List String → Except StyleFault TextStyle
  | [] => .ok style
  | word :: rest =>
    match lower word, rest with
    | "on", [] => .error .noBackground
    | "on", colour :: rest =>
      match colourFault? colour with
      | some fault => .error (.background colour fault)
      | none => readWords { style with background := some (lower colour) } rest
    | "not", [] => .error (.notAttribute "")
    | "not", name :: rest =>
      match Attribute.ofWord? name with
      | some a => readWords { style with attributes := (a, false) :: style.attributes } rest
      | none => .error (.notAttribute name)
    | "link", [] => .error .noTarget
    -- The target is the only word that is kept with its capitals.
    | "link", target :: rest => readWords { style with link := some target } rest
    | small, rest =>
      match Attribute.ofWord? small with
      | some a => readWords { style with attributes := (a, true) :: style.attributes } rest
      | none =>
        match colourFault? small with
        | some fault => .error (.colour small fault)
        | none => readWords { style with colour := some small } rest

/-- The style that a text describes.  No words, and the word `none`, change nothing. -/
def read (description : String) : Except StyleFault TextStyle :=
  match (blankWords description.toList).map String.ofList with
  | ["none"] => .ok {}
  | words => readWords {} words

/-- The words for the attributes of a style. -/
def attributeWords (style : TextStyle) : List String :=
  Attribute.all.filterMap fun a =>
    (style.attributes.lookup a).map fun on => if on then a.name else "not " ++ a.name

/-- The words of a style. -/
def text (style : TextStyle) : String :=
  let words := style.attributeWords ++ style.colour.toList ++
    (style.background.toList.map ("on " ++ ·)) ++ (style.link.toList.map ("link " ++ ·))
  if words.isEmpty then "none" else " ".intercalate words

@[simp]
theorem text_empty : text {} = "none" := by decide

end TextStyle

/-- The name under which a style is known: its words in order, or the text itself in small letters
    if it describes no style. -/
def styleName (description : String) : Except NumeralFault String :=
  match TextStyle.read description with
  | .ok style => .ok style.text
  | .error fault =>
    match fault.numeral? with
    | some fault => .error fault
    | none => .ok (lower (String.ofList (trim description.toList)))

/-! ### Styles with a name of their own -/

/-- The names of styles that are not described by their words. -/
def namedStyles : List String :=
  ["reset", "bright", "strong", "code", "emphasize", "inspect.attr", "inspect.attr.dunder",
   "inspect.callable", "inspect.async_def", "inspect.def", "inspect.class", "inspect.error",
   "inspect.equals", "inspect.help", "inspect.doc", "inspect.value.border", "live.ellipsis",
   "layout.tree.row", "layout.tree.column", "logging.keyword", "logging.level.notset",
   "logging.level.debug", "logging.level.info", "logging.level.warning", "logging.level.error",
   "logging.level.critical", "log.level", "log.time", "log.message", "log.path", "repr.ellipsis",
   "repr.indent", "repr.error", "repr.str", "repr.brace", "repr.comma", "repr.ipv4", "repr.ipv6",
   "repr.eui48", "repr.eui64", "repr.tag_start", "repr.tag_name", "repr.tag_contents",
   "repr.tag_end", "repr.attrib_name", "repr.attrib_equal", "repr.attrib_value", "repr.number",
   "repr.number_complex", "repr.bool_true", "repr.bool_false", "repr.none", "repr.url",
   "repr.uuid", "repr.call", "repr.path", "repr.filename", "rule.line", "rule.text", "json.brace",
   "json.bool_true", "json.bool_false", "json.null", "json.number", "json.str", "json.key",
   "prompt", "prompt.choices", "prompt.default", "prompt.invalid", "prompt.invalid.choice",
   "pretty", "scope.border", "scope.key", "scope.key.special", "scope.equals", "table.header",
   "table.footer", "table.cell", "table.title", "table.caption", "traceback.error",
   "traceback.border.syntax_error", "traceback.border", "traceback.text", "traceback.title",
   "traceback.exc_type", "traceback.exc_value", "traceback.offset", "bar.back", "bar.complete",
   "bar.finished", "bar.pulse", "progress.description", "progress.filesize",
   "progress.filesize.total", "progress.download", "progress.elapsed", "progress.percentage",
   "progress.remaining", "progress.data.speed", "progress.spinner", "status.spinner", "tree",
   "tree.line", "markdown.paragraph", "markdown.text", "markdown.em", "markdown.emph",
   "markdown.strong", "markdown.code", "markdown.code_block", "markdown.block_quote",
   "markdown.list", "markdown.item", "markdown.item.bullet", "markdown.item.number",
   "markdown.hr", "markdown.h1.border", "markdown.h1", "markdown.h2", "markdown.h3",
   "markdown.h4", "markdown.h5", "markdown.h6", "markdown.h7", "markdown.link",
   "markdown.link_url", "markdown.s", "iso8601.date", "iso8601.time", "iso8601.timezone",
   "traceback.error_range", "traceback.note", "traceback.group.border", "markdown.table.border",
   "markdown.table.header", "scope.section", "scope.success", "scope.warning", "scope.error",
   "scope.info", "scope.dim", "scope.highlight"]

end ElfInspect
