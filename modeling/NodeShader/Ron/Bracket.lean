import NodeShader.Ron.Dialect

/-! What stands in brackets: items with commas between them, and at most one after the last. -/
namespace NodeShader.Ron.Scan
variable {α β : Type}

/-- Reads items up to a closing mark, which stays. An item may begin where `fresh`, that is, at the
start and after a comma; `room` bounds the number of items. -/
def itemsWithin (closing : Char) (item : Scan α) : (room : Nat) → (fresh : Bool) → Scan (List α)
  | 0, _ => failure
  | room + 1, fresh => do
    blanks
    if ← isNext closing then return []
    if !fresh then failure
    let first ← item
    return first :: (← itemsWithin closing item room (← comma))

def items (closing : Char) (item : Scan α) : Scan (List α) := do
  itemsWithin closing item ((← get).length + 1) true

def someItems (item : Scan α) : (count : Nat) → (fresh : Bool) → Scan (List α)
  | 0, _ => return []
  | count + 1, fresh => do
    blanks
    if !fresh then failure
    let first ← item
    return first :: (← someItems item count (← comma))

def enclosed (opening closing : Char) (body : Scan α) : Scan α := do
  mark opening
  let value ← body
  blanks
  mark closing
  return value

/-- Reads a body in parentheses; a bare one does without. -/
def parenthesized (bare : Bool) (body : Scan α) : Scan α :=
  if bare then do
    let value ← body
    blanks
    return value
  else enclosed '(' ')' body

def wrapped (item : Scan α) : Scan α := enclosed '(' ')' do
  blanks
  let value ← item
  let _ ← comma
  return value

def paired (first : Scan α) (second : α → Scan β) : Scan β := do
  let key ← first
  blanks
  mark ':'
  blanks
  second key

/-- Reads an optional value. Without parentheses, it is as bare as the place where it stands. -/
def optional (dialect : Dialect) (bare : Bool) (value : (bare : Bool) → Scan α) :
    Scan (Option α) := do
  if ← found (word "None") then return none
  else
    let marked ← found (word "Some")
    if marked then blanks
    if marked && (← isNext '(') then return some (← wrapped (value dialect.bareVariants))
    else if dialect.implicitSome then return some (← value bare)
    else failure

end NodeShader.Ron.Scan
