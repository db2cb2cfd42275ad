import Mathlib.Data.List.Basic

/-!
# JSON documents as `encoding/json` reads them

A document is the tree the bytes denote, with object members in the order they were written;
the byte syntax itself is the library's. Decoding into a Go struct walks an object's members
in order: a key goes to the field whose name it matches under the library's case folding, a
later member overrides an earlier one, unknown keys are skipped, `null` leaves a field as it
was, and a value of the wrong kind is an error. Decoding into a pointer field gives `nil` for
`null` and a freshly allocated struct for an object.
-/

namespace McpGateway

inductive Json where
  | null
  | bool (b : Bool)
  | num (n : Int)
  | str (s : String)
  | arr (items : List Json)
  | obj (members : List (String × Json))
  deriving Repr

namespace Json

/-- `foldName` of `encoding/json` (Go 1.21 on) on one rune: `unicode.ToUpper(unicode.ToLower(r))`,
which is ASCII upper case on ASCII. The struct field names are ASCII, and the only other runes
whose fold is ASCII are these four; any other rune is kept, which tells it from every ASCII
character as its fold does. -/
def foldRune (c : Char) : Char :=
  if c = '\u0130' ∨ c = '\u0131' then 'I'
  else if c = '\u017F' then 'S'
  else if c = '\u212A' then 'K'
  else c.toUpper

/-- Key comparison of the struct decoder against the ASCII name `field`. -/
def keyIs (field key : String) : Bool := key.data.map foldRune == field.data.map foldRune

@[simp] theorem keyIs_self (field : String) : keyIs field field = true := by
  simp [keyIs]

example : keyIs "message" "me\u017F\u017Fage" = true ∧ keyIs "ID" "\u0131d" = true ∧ keyIs "ID" "IDs" = false := by
  decide

def decodeString (old : String) : Json → Except String String
  | .null => .ok old
  | .str s => .ok s
  | _ => .error "json: cannot unmarshal into Go value of type string"

@[simp] theorem decodeString_str (old s : String) : decodeString old (.str s) = .ok s := rfl

/-- The members of one object, applied in order to the struct value `acc` by `set`,
the struct's own field dispatcher. The first type error ends the decoding. -/
def decodeMembers (set : σ → String → Json → Except String σ) :
    σ → List (String × Json) → Except String σ
  | acc, [] => .ok acc
  | acc, (key, value) :: rest =>
    match set acc key value with
    | .ok acc => decodeMembers set acc rest
    | .error e => .error e

@[simp] theorem decodeMembers_nil (set : σ → String → Json → Except String σ) (acc : σ) :
    decodeMembers set acc [] = .ok acc := rfl

def decodeStruct (set : σ → String → Json → Except String σ) (zero : σ) : Json → Except String σ
  | .obj members => decodeMembers set zero members
  | .null => .ok zero
  | _ => .error "json: cannot unmarshal into Go struct"

def decodePointer (set : σ → String → Json → Except String σ) (zero : σ) :
    Json → Except String (Option σ)
  | .null => .ok none
  | .obj members => (decodeMembers set zero members).map some
  | _ => .error "json: cannot unmarshal into Go struct"

end Json

end McpGateway
