import Telecontrol.Fault
import Telecontrol.Octets.Hex

/-!
# Plain data

The values of the library as plain data: numbers, texts, lists and records with named fields. In this
form they are exchanged with programs that know nothing of the library.

* `Plain`: plain data.
* `Refusal`: why plain data is not taken: it has the wrong shape, or the library refuses the value.
* `Form`: how a value is read from plain data and written as such, and what a missing one is.
* `Form.record`: a record from its fields; fields that are missing are those of a default.
-/

namespace Telecontrol

/-- Plain data. -/
inductive Plain where
  | null
  | bit (b : Bool)
  | number (n : Int)
  | text (s : String)
  | list (items : List Plain)
  | record (fields : List (String × Plain))
  deriving Inhabited

namespace Plain

def get? : Plain → String → Option Plain
  | record fields, key => fields.lookup key
  | _, _ => none

/-- A list of names as a record of their values, without those that have none. -/
def present (fields : List (String × Option Plain)) : Plain :=
  record (fields.filterMap fun (key, value) => value.map fun v => (key, v))

end Plain

/-- Why plain data is not taken: it does not have the shape of the value, or the library refuses
the value. -/
inductive Refusal where
  | malformed (text : String)
  | fault (fault : Fault)
  deriving Inhabited

namespace Refusal

/-- A result of the library while plain data is read. -/
def ofResult {α : Type} : Except Fault α → Except Refusal α
  | .ok a => .ok a
  | .error f => .error (.fault f)

end Refusal

/-- How a value is read from plain data and written as such. -/
structure Form (α : Type) where
  read : Plain → Except Refusal α
  write : α → Plain
  default : α

namespace Form

variable {α β : Type}

/-! ## Building blocks -/

def int : Form Int where
  read
    | .number n => .ok n
    | _ => .error (.malformed "number expected")
  write := .number
  default := 0

def map (f : Form α) (view : α → β) (back : β → α) : Form β where
  read p := view <$> f.read p
  write b := f.write (back b)
  default := view f.default

/-- A natural number; a negative one counts as zero. -/
def nat : Form Nat := int.map Int.toNat Int.ofNat

def octet : Form UInt8 := nat.map UInt8.ofNat UInt8.toNat

def word16 : Form UInt16 := nat.map UInt16.ofNat UInt16.toNat

def word32 : Form UInt32 := nat.map UInt32.ofNat UInt32.toNat

def bit : Form Bool where
  read
    | .bit b => .ok b
    | _ => .error (.malformed "truth value expected")
  write := .bit
  default := false

def text : Form String where
  read
    | .text s => .ok s
    | _ => .error (.malformed "text expected")
  write := .text
  default := ""

/-- An octet string in hexadecimal digits. -/
def octets : Form Octets where
  read p := do
    match Octets.ofHex? (← text.read p) with
    | some bs => return bs
    | none => throw (.malformed "hexadecimal digits expected")
  write bs := .text bs.hex
  default := []

/-- A value that goes by its name. -/
def named (all : List α) (label : α → String) (default : α) : Form α where
  read p := do
    let name ← text.read p
    match all.find? (label · == name) with
    | some a => return a
    | none => throw (.malformed s!"unknown name {name}")
  write a := .text (label a)
  default := default

def nothing : Form Unit := ⟨fun _ => .ok (), fun _ => .null, ()⟩

def list (f : Form α) : Form (List α) where
  read
    | .list items => items.mapM f.read
    | _ => .error (.malformed "list expected")
  write items := .list (items.map f.write)
  default := []

/-! ## Records -/

/-- A field of a record, or another value where it is missing. -/
def getD (f : Form α) (p : Plain) (key : String) (default : α) : Except Refusal α :=
  match p.get? key with
  | some v => f.read v
  | none => .ok default

def get (f : Form α) (p : Plain) (key : String) : Except Refusal α := f.getD p key f.default

def get? (f : Form α) (p : Plain) (key : String) : Except Refusal (Option α) :=
  (p.get? key).mapM f.read

/-- A named field of a record, which keeps its own value where none is given. -/
structure Field (σ : Type) where
  read : Plain → σ → Except Refusal σ
  write : σ → String × Plain

def field {σ : Type} (key : String) (f : Form α) (get : σ → α) (set : σ → α → σ) : Field σ where
  read p s := set s <$> f.getD p key (get s)
  write s := (key, f.write (get s))

def record {σ : Type} (default : σ) (fields : List (Field σ)) : Form σ where
  read p := fields.foldlM (fun s field => field.read p s) default
  write s := .record (fields.map (·.write s))
  default := default

/-! ## Constructors -/

def argument (f : Form α) (args : List Plain) (i : Nat) : Except Refusal α :=
  match args[i]? with
  | some v => f.read v
  | none => .error (.malformed "argument missing")

/-- A value that may also be given by the arguments of its constructor, under the name `new`. -/
def orNew (f : Form α) (construct : List Plain → Except Refusal α) : Form α :=
  { f with
    read := fun p =>
      match p.get? "new" with
      | some (.list args) => construct args
      | _ => f.read p }

/-- A value that may also be given in another form, under a name of its own. -/
def orAs (f : Form α) (key : String) (other : Form β) (convert : β → α) : Form α :=
  { f with
    read := fun p =>
      match p.get? key with
      | some v => convert <$> other.read v
      | none => f.read p }

end Form

end Telecontrol
