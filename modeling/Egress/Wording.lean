import Egress.Number.Layout
import Egress.Number.Numeral
import Egress.Quotation
import Egress.Suite

/-!
# The wording of faults and notices

Numbers in texts are written with the fewest digits that read back; integers without a point.
Truth values and absent values have names of their own, and a point is a pair in parentheses.
-/

namespace Egress

namespace Moment

/-- Year, month and day joined by hyphens; then hours, minutes and seconds, the microseconds if
there are any, and how far the clock is ahead. -/
def written (moment : Moment) : String :=
  let day := Number.padded 4 moment.year ++ "-" ++ Number.padded 2 moment.month ++ "-" ++
    Number.padded 2 moment.day
  match moment.time with
  | none => day
  | some time =>
    let fraction := if time.micro = 0 then "" else "." ++ Number.padded 6 time.micro
    let ahead := match time.ahead with
      | none => ""
      | some minutes =>
        (if minutes < 0 then "-" else "+") ++ Number.padded 2 (minutes.natAbs / 60) ++ ":" ++
          Number.padded 2 (minutes.natAbs % 60)
    day ++ " " ++ Number.padded 2 time.hour ++ ":" ++ Number.padded 2 time.minute ++ ":" ++
      Number.padded 2 time.second ++ fraction ++ ahead

end Moment

namespace MomentFlaw

def message : MomentFlaw → String
  | ahead minutes =>
    let days := Int.fdiv minutes (24 * 60)
    let seconds := Int.fmod minutes (24 * 60) * 60
    "offset must be a timedelta strictly between -timedelta(hours=24) and timedelta(hours=24), " ++
      "not datetime.timedelta(days=" ++ toString days ++
      (if seconds = 0 then "" else ", seconds=" ++ toString seconds) ++ ")."
  | year given => "year " ++ toString given ++ " is out of range"
  | month => "month must be in 1..12"
  | day => "day is out of range for month"
  | hour => "hour must be in 0..23"
  | minute => "minute must be in 0..59"
  | second => "second must be in 0..59"

end MomentFlaw

namespace Value

/-- A plain value in a text.  Collections have no short text. -/
def written : Value Float → String
  | .null => "None"
  | .bool true => "True"
  | .bool false => "False"
  | .int value => toString value
  | .real value => Number.shortestText value
  | .text value => value
  | .bytes value => quotedBytes value
  | .moment value => value.written
  | .list _ => "[...]"
  | .mapping _ => "\x7b...\x7d"
  | .endless => "..."

/-- A value as a measured number.  A text counts as the number that it spells. -/
def measure : Value Float → Except (Fault Float) Float
  | .text value =>
    match Number.readReal value.toList with
    | some number => .ok number
    | none => .error (.notReal value)
  | value => value.number

/-- Whether a value is short enough to be written in a text. -/
def isWritable : Value Float → Bool
  | .int value => Number.isWritable value
  | _ => true

end Value

namespace Point

def written (point : Point Float) : String :=
  "(" ++ Number.shortestText point.x ++ ", " ++ Number.shortestText point.y ++ ")"

end Point

namespace Category

/-- The vocabulary as a list of quoted words. -/
def writtenVocabulary : String :=
  "[" ++ ", ".intercalate (vocabulary.map fun category => "'" ++ category.label ++ "'") ++ "]"

end Category

namespace Fault

/-- An integer has more digits than are read or written. -/
def tooManyDigits (count : String) : String :=
  "Exceeds the limit (" ++ toString Number.digitLimit ++
    " digits) for integer string conversion" ++ count ++
    "; use sys.set_int_max_str_digits() to increase the limit"

/-- A text around a value; a value that is too long to be written takes its place. -/
def given (before : String) (value : Value Float) (after : String) : String :=
  if value.isWritable then before ++ value.written ++ after else tooManyDigits ""

def message : Fault Float → String
  | unlocated point => "No region contains point " ++ point.written
  | noRoute source target =>
    "No known path from region " ++ toString source ++ " to " ++ toString target
  | invalidFactor sensor factor =>
    "Sensor " ++ sensor ++ " wrote invalid factor " ++ Number.shortestText factor
  | emptyBuilding => "Building geometry has no regions"
  | unknownExit region target =>
    "Region " ++ region ++ " connects to unknown region " ++ target
  | unregistered agent => "Agent " ++ toString agent ++ " is not registered"
  | reported _ text => text
  | unknownCategory name =>
    given "Invalid region category: " name (". Must be one of " ++ Category.writtenVocabulary)
  | categoryFactorNotPositive category value =>
    given ("Category factor for " ++ category.label ++ " must be positive, got ") value ""
  | notPositive setting value => given (setting.key ++ " must be positive, got ") value ""
  | negative setting value => given (setting.key ++ " must be >= 0, got ") value ""
  | notMapping path => "Config file " ++ path ++ " must contain a mapping"
  | duplicateRegion region => "Region " ++ region ++ " already exists"
  | tooFewPoints => "A linearring requires at least 4 coordinates."
  | badOutline region => "Region " ++ region ++ " has an invalid or empty outline"
  | overlap region other => "Region " ++ region ++ " overlaps region " ++ other
  | undeclaredRegion region => "Region " ++ region ++ " does not exist"
  | badExitArea => "Exit area must be a valid, non-empty polygon"
  | negativeDistance given =>
    "Waypoint distance must be >= 0, got " ++ Number.shortestText given
  | seedOutOfRange => "Seed must be between 0 and 2**32 - 1"
  | densityOutOfRange value => given "Smoke density must be within [0, 1], got " value ""
  | unmonitoredRegion index => "Region " ++ toString index ++ " does not exist"
  | unmonitoredConnection index => "Connection " ++ toString index ++ " does not exist"
  | duplicateSensor name => "Sensor name " ++ name ++ " is already registered"
  | duplicateAgent agent => "Agent " ++ toString agent ++ " is already registered"
  | notConnected source target =>
    "Regions " ++ toString source ++ " and " ++ toString target ++ " are not connected"
  | noRegionIndex index => "Region index " ++ toString index ++ " does not exist"
  | noConnectionIndex index => "Connection " ++ toString index ++ " does not exist"
  | noRegionNamed region => "Region " ++ region ++ " does not exist"
  | noSensorNamed name => "No sensor named " ++ name
  | noCategoryFactor label => label
  | noSource index => toString index
  | wrongType => "a value is of the wrong kind"
  | outOfRange => "index out of range"
  | unsupported => "a sensor without an observation"
  | malformedText => "the text is not well formed"
  | notInteger base text =>
    "invalid literal for int() with base " ++ toString base ++ ": " ++
      String.ofList ((quoted text).toList.take 200)
  | notReal text => "could not convert string to float: " ++ quoted text
  | notTruth text => text
  | notMoment => "the text is no moment"
  | numeralTooLong digits => tooManyDigits (": value has " ++ toString digits ++ " digits")
  | unwritable => tooManyDigits ""
  | badMoment flaw => flaw.message
  | noSuchCharacter => "chr() arg not in range(0x110000)"
  | tooLarge => "the number is too large"
  | tooDeep => "the nesting is too deep"

end Fault

namespace Sensor

/-- What a sensor is called, whatever name it writes under. -/
def kindLabel : Sensor Float → String
  | blank => "Sensor"
  | discovery => "DiscoverDoorsSensor"
  | category _ => "RoomCategorySensor"
  | history _ => "LastDestinationsSensor"
  | smoke _ _ => "SmokeSensor"
  | blocked _ _ => "BlockedConnectionSensor"
  | custom _ _ => "CustomSensor"

def description (sensor : Sensor Float) : String :=
  sensor.kindLabel ++ "(name=" ++ quoted sensor.name ++ ")"

end Sensor

namespace Notice

/-- A notice as a line, with the time in front. -/
def line : Notice Float → String
  | skipped time sensor agent fault =>
    "[T=" ++ time.written ++ "] Sensor " ++ sensor ++ " skipped for agent " ++ toString agent ++
      ": " ++ fault.message
  | unlocated time agent fault =>
    "[T=" ++ time.written ++ "] Agent " ++ toString agent ++ " could not be located: " ++
      fault.message

end Notice

end Egress
