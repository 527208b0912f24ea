import RouteTypes.Check.Scalar

/-!
# Checks of collections

Lists, mappings from keys of one kind to values of one kind, and records: mappings with declared
fields, each under one or more names. The fields that a record does not declare are its extras.
-/

namespace RouteTypes.Check

/-- The step to the value of a key. -/
def keyPart : Scalar → Part
  | .text name => .name name
  | .bool value => .position value.toNat
  | .int value => if isShort value then .position value else .name (toString value)
  | key => .name key.shown

/-- The items of a list, with their positions. -/
def itemsFrom (check : Value → Checked α) (position : Nat) :
    List Value → List (Checked α)
  | [] => []
  | item :: rest =>
    (check item).within (.position position) :: itemsFrom check (position + 1) rest

/-- A list of items of one kind. -/
def list (check : Value → Checked α) : Value → Checked (List α)
  | .list items => Checked.all (itemsFrom check 0 items)
  | .tuple items => Checked.all (itemsFrom check 0 items)
  | .set items => Checked.all (itemsFrom check 0 (items.map .scalar))
  | _ => Checked.fail .list

/-- An entry of a mapping. A problem with the key stands behind the key. -/
def entry (checkKey : Scalar → Checked κ) (check : Value → Checked α)
    (entry : Scalar × Value) : Checked (κ × α) :=
  let part := keyPart entry.1
  Checked.both (((checkKey entry.1).within (.name "[key]")).within part)
    ((check entry.2).within part)

/-- A mapping from keys of one kind to values of one kind. Keys that become equal count once, at
the first position and with the last value. -/
def mapping [BEq κ] (checkKey : Scalar → Checked κ) (check : Value → Checked α) :
    Value → Checked (List (κ × α))
  | .mapping entries =>
    (Checked.all (entries.map (entry checkKey check))).map (Fields.putAll [])
  | _ => Checked.fail .mapping

/-- A mapping from texts to values of one kind. -/
def fields (check : Value → Checked α) : Value → Checked (List (String × α)) :=
  mapping scalarText check

/-- A mapping from texts to any values. -/
def anyFields : Value → Checked Fields :=
  fields .ok

/-- The entries of a record with the given name. -/
def record (name : String) : Value → Checked Entries
  | .mapping entries => .ok entries
  | _ => Checked.fail (.record name)

/-- The first of several names that a record has, with its value. -/
def find? (entries : Entries) (names : List String) : Option (String × Value) :=
  names.findSome? fun name => (Entries.get? entries (.text name)).map fun value => (name, value)

/-- A field with the first of its names that the record has, or a default. -/
def fieldOr (default : α) (entries : Entries) (names : List String)
    (check : Value → Checked α) : Checked α :=
  match find? entries names with
  | some (name, value) => (check value).within (.name name)
  | none => .ok default

/-- A field that has to be there; its first name is the one that is missed. -/
def field (entries : Entries) (names : List String) (check : Value → Checked α) :
    Checked α :=
  match find? entries names with
  | some (name, value) => (check value).within (.name name)
  | none => (Checked.fail .missing).within (.name (names.headD ""))

/-- The fields of a record under other names than the given ones, all of which are texts. -/
def extrasBeside (used : List String) : Entries → Checked Fields
  | [] => .ok []
  | (.text name, value) :: rest =>
    if used.contains name then extrasBeside used rest
    else (extrasBeside used rest).map ((name, value) :: ·)
  | (key, _) :: rest =>
    (Checked.both ((Checked.fail .key : Checked Unit).within (keyPart key))
      (extrasBeside used rest)).map Prod.snd

/-- The fields that a record does not declare. Of the names of a declared field only the one
that is used counts as declared. -/
def extras (entries : Entries) (declared : List (List String)) : Checked Fields :=
  extrasBeside (declared.filterMap fun names => (find? entries names).map Prod.fst) entries

end RouteTypes.Check
