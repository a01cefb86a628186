import NodeShader.Guid
import NodeShader.Ron.Skip

/-! Reading typed values from a RON text. The type that is asked for decides how the text is read:
the same spelling may be a struct in one place and a value to pass over in another. -/
namespace NodeShader.Ron

structure Place where
  dialect : Dialect
  /-- The number of levels that may still be nested. -/
  room : Nat
  /-- Whether the value stands without its name and parentheses. -/
  bare : Bool

namespace Place

def outermost (dialect : Dialect) : Place := ⟨dialect, 128, false⟩

def inside (place : Place) (levels : Nat) (bare : Bool) : Option Place :=
  if levels ≤ place.room then some ⟨place.dialect, place.room - levels, bare⟩ else none

end Place

abbrev Reader := ReaderT Place Scan

namespace Reader
variable {α β : Type}

def inside (levels : Nat) (bare : Bool) (reader : Reader α) : Reader α := fun place => do
  reader (← place.inside levels bare)

/-- Reads what stands in brackets, given how to read each of the items. -/
def nested (item : Reader α) (body : (item : Scan α) → Place → Scan β) : Reader β := fun place => do
  let _ ← place.inside 1 false
  body (item.inside 2 false place) place

def text : Reader String := fun _ => Scan.text

def bool : Reader Bool := fun _ => do
  if ← .found (.word "true") then return true
  else
    .word "false"
    return false

def single : Reader Single := fun _ => Scan.single

def natural (width : Nat) : Reader Nat := fun _ => Scan.natural width

def guid : Reader Guid := do Guid.read? (← text).toList

def option (reader : Reader α) : Reader (Option α) := fun place =>
  Scan.optional place.dialect place.bare fun bare => reader.inside 1 bare place

def list (item : Reader α) : Reader (List α) :=
  item.nested fun item _ => .enclosed '[' ']' (.items ']' item)

def table (key : Reader α) (value : Reader β) : Reader (List (α × β)) := fun place =>
  key.nested (fun key _ => .enclosed '\x7b' '\x7d' (.items '\x7d' (.paired key fun key => do
    return (key, ← value.inside 2 false place)))) place

def vector (count : Nat) (item : Reader α) : Reader (Vector α count) :=
  item.nested fun item place => do
    let items ← Scan.parenthesized place.bare (.someItems item count true)
    if fits : items.toArray.size = count then return ⟨items.toArray, fits⟩ else failure

def pair (item : Reader α) : Reader (α × α) := do
  let both ← vector 2 item
  return (both[0], both[1])

def newtype (name : String) (reader : Reader α) : Reader α := fun place => do
  if place.bare || place.dialect.bareNewtypes then reader.inside 1 false place
  else
    let _ ← place.dialect.structName name
    .blanks
    .wrapped (reader.inside 1 false place)

def unit (name : String) : Reader Unit := fun place => do
  if place.bare then return
  else if ← place.dialect.structName name then return
  else .spelled "()"

def variantName : Reader String := inside 2 false fun _ => do
  .blanks
  .name

def word (choices : List α) (name : α → String) : Reader α := do
  let spelling ← variantName
  choices.find? fun choice => name choice = spelling

def variant (variants : List (String × Reader α)) : Reader α := fun place => do
  let payload ← variants.lookup (← variantName place)
  .blanks
  .wrapped (payload.inside 2 place.dialect.bareVariants place)

def run (reader : Reader α) (text : String) : Option α :=
  let whole : Scan α := do
    let dialect ← Dialect.read
    let value ← reader (.outermost dialect)
    .blanks
    if (← .next).isSome then failure
    return value
  (whole.run text.toList).map (·.1)

end Reader

/-- How the fields of a struct are read. `State` holds what has been read so far; a field that is
known gives an update of it. -/
structure Fields (α : Type) where
  State : Type
  start : State
  field : String → Option (Reader (State → Option State))
  finish : State → Option α

namespace Fields
variable {α : Type}

/-- A field that is read at most once; `absent` stands for one that is not there. -/
def known (name : String) (reader : Reader α) (absent : Option α) : Fields α where
  State := Option α
  start := none
  field key :=
    if key = name then
      some ((fun value old => if old.isSome then none else some (some value)) <$> reader)
    else none
  finish state := state.or absent

def required (name : String) (reader : Reader α) : Fields α := known name reader none

def defaulted (name : String) (reader : Reader α) (absent : α) : Fields α :=
  known name reader (some absent)

def nullable (name : String) (reader : Reader α) : Fields (Option α) :=
  defaulted name reader.option none

instance : Applicative Fields where
  pure a := ⟨Unit, (), fun _ => none, fun _ => some a⟩
  seq f x :=
    let x := x ()
    { State := f.State × x.State
      start := (f.start, x.start)
      field := fun key =>
        ((f.field key).map fun reader =>
          (fun update state => (update state.1).map (·, state.2)) <$> reader).or
        ((x.field key).map fun reader =>
          (fun update state => (update state.2).map (state.1, ·)) <$> reader)
      finish := fun state => do (← f.finish state.1) (← x.finish state.2) }

/-- Reads the update that one field makes; an unknown one makes none. -/
def entry (fields : Fields α) (place : Place) : Scan (fields.State → Option fields.State) :=
  .paired (Reader.inside 2 false (fun _ => .name) place) fun key =>
    Reader.inside 2 false ((fields.field key).getD fun place => do
      Scan.skip place.dialect place.room place.bare
      return some) place

end Fields

def Reader.struct {α : Type} (name : String) (fields : Fields α) : Reader α := fun place => do
  if !place.bare then
    let _ ← place.dialect.structName name
    .blanks
  let _ ← place.inside 1 false
  let updates ← .parenthesized place.bare (.items ')' (fields.entry place))
  fields.finish (← updates.foldlM (fun state update => update state) fields.start)

end NodeShader.Ron
