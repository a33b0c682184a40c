import OpticalBench.TextMap

/-!
# Records

A record is what a text says about the declared fields of a structure. Fields may be written by name,
or by position in the order of their declaration. How a record is found in a text is up to the format
of the text; `δ` is what a field's content looks like there.

- `Record.declared?`: the declared fields among named ones. Others are passed over, a declared field
  that is repeated is an error.
- `Record.required?`, `Record.orElse?`, `Record.optional?`: decode one field.
-/

namespace OpticalBench

/-- The declared fields found in a text. -/
structure Record (δ : Type) where
  /-- Whether the fields are written by name. -/
  named : Bool
  found : List (String × δ)

namespace Record

variable {α δ : Type}

/-- The declared fields among named ones, unless one of them is repeated or a name cannot be read. -/
def declared? (declared : List String) : List (Option String × δ) → Option (List (String × δ))
  | [] => some []
  | (none, _) :: _ => none
  | (some key, d) :: rest => do
    let found ← declared? declared rest
    if key ∈ declared then
      if found.any (fun e => e.1 == key) then none else some ((key, d) :: found)
    else some found

/-- The content of a field. -/
def get? (r : Record δ) (field : String) : Option δ := TextMap.lookup? field r.found

/-- A field that must be there. -/
def required? (r : Record δ) (field : String) (decode : δ → Option α) : Option α :=
  (r.get? field).bind decode

/-- A field that has a default. -/
def orElse? (r : Record δ) (field : String) (decode : δ → Option α) (default : α) : Option α :=
  match r.get? field with
  | none => some default
  | some d => decode d

/-- A field that may be absent or say that there is nothing. In a record by position it may only say
so. -/
def optional? (r : Record δ) (field : String) (decode : δ → Option (Option α)) :
    Option (Option α) :=
  match r.get? field with
  | none => if r.named then some none else none
  | some d => decode d

end Record

end OpticalBench
