import OpticalBench.Json.Document
import OpticalBench.Proofs.Text.Rewriting

/-!
# Reading JSON documents

The reader keeps what is still open on a stack. Here it is shown that it reads a document from the
tokens of that document, whatever is on the stack and whatever follows.

- `Document.tokens`: the tokens of a document.
- `foldlM_tokens`: reading them where a value must follow completes that value.
- `ofTokens?_tokens`: a document is read from its tokens.
-/

namespace OpticalBench.Json.Document

/-! ## The tokens of a document -/

mutual

/-- The tokens of a document. -/
def tokens : Document → List Token
  | .null => [.null]
  | .boolean b => [.boolean b]
  | .numeral n => [.numeral n]
  | .text content => [.text content]
  | .array items => .openBracket :: itemTokens true items ++ [.closeBracket]
  | .object fields => .openBrace :: fieldTokens true fields ++ [.closeBrace]

/-- The tokens of items, with a comma in front of all but the first. -/
def itemTokens (first : Bool) : List Document → List Token
  | [] => []
  | d :: ds => (if first then [] else [.comma]) ++ d.tokens ++ itemTokens false ds

/-- The tokens of fields, with a comma in front of all but the first. -/
def fieldTokens (first : Bool) : List (Option String × Document) → List Token
  | [] => []
  | (key, d) :: rest =>
    (if first then [] else [.comma]) ++ .text key :: .colon :: d.tokens ++ fieldTokens false rest

end

theorem itemTokens_false (ds : List Document) :
    itemTokens false ds = ds.flatMap fun d => [.comma] ++ d.tokens := by
  induction ds with
  | nil => rfl
  | cons d ds ih => rw [itemTokens, if_neg (by simp), ih, List.flatMap_cons]

/-- Items stand between commas. -/
theorem itemTokens_true (ds : List Document) :
    itemTokens true ds = Text.separated [.comma] tokens ds := by
  cases ds with
  | nil => rfl
  | cons d ds => rw [itemTokens, if_pos rfl, itemTokens_false, List.nil_append, Text.separated]

theorem fieldTokens_false (fields : List (Option String × Document)) :
    fieldTokens false fields =
      fields.flatMap fun field => [.comma] ++ .text field.1 :: .colon :: field.2.tokens := by
  induction fields with
  | nil => rfl
  | cons field fields ih =>
    obtain ⟨key, d⟩ := field
    rw [fieldTokens, if_neg (by simp), ih, List.flatMap_cons]

/-- Fields stand between commas. -/
theorem fieldTokens_true (fields : List (Option String × Document)) :
    fieldTokens true fields =
      Text.separated [.comma] (fun field => .text field.1 :: .colon :: field.2.tokens) fields := by
  cases fields with
  | nil => rfl
  | cons field fields =>
    obtain ⟨key, d⟩ := field
    rw [fieldTokens, if_pos rfl, fieldTokens_false, List.nil_append, Text.separated]

/-! ## Reading them -/

/-- A state in which a value must follow, if not the end of an array. -/
def Awaits (s : State) (stack : List Frame) : Prop :=
  ∀ t, t ≠ .closeBracket → step? s t = begin? stack t

theorem awaits_value (stack : List Frame) : Awaits (.value stack) stack := fun _ _ => rfl

theorem awaits_firstItem (stack : List Frame) : Awaits (.firstItem stack) (.array [] :: stack) := by
  intro t ht
  cases t with
  | closeBracket => exact absurd rfl ht
  | _ => rfl

variable {s : State} {stack : List Frame}

/-- Reading goes on from the state after the first token. -/
theorem foldlM_cons_of_step {s' : State} {t : Token} (h : step? s t = some s') (ts : List Token) :
    (t :: ts).foldlM step? s = ts.foldlM step? s' := by
  rw [List.foldlM_cons, h]
  rfl

mutual

/-- Where a value must follow, reading the tokens of a document completes it. -/
theorem foldlM_tokens (d : Document) {s : State} {stack : List Frame} (hs : Awaits s stack)
    (ts : List Token) : (d.tokens ++ ts).foldlM step? s = ts.foldlM step? (.complete d stack) := by
  cases d with
  | null => exact foldlM_cons_of_step (hs _ (by simp)) ts
  | boolean b => exact foldlM_cons_of_step (hs _ (by simp)) ts
  | numeral n => exact foldlM_cons_of_step (hs _ (by simp)) ts
  | text content => exact foldlM_cons_of_step (hs _ (by simp)) ts
  | array items =>
    rw [tokens, List.cons_append, List.cons_append, foldlM_cons_of_step (hs _ (by simp)),
      List.append_assoc]
    -- an empty array is closed at once, otherwise the first item has no comma in front of it
    cases items with
    | nil => rfl
    | cons d ds =>
      rw [itemTokens, if_pos rfl, List.nil_append, List.append_assoc,
        foldlM_tokens d (awaits_firstItem stack)]
      exact foldlM_itemTokens ds d [] stack ts
  | object fields =>
    rw [tokens, List.cons_append, List.cons_append, foldlM_cons_of_step (hs _ (by simp)),
      List.append_assoc]
    cases fields with
    | nil => rfl
    | cons field fields =>
      obtain ⟨key, d⟩ := field
      rw [fieldTokens, if_pos rfl]
      show ((d.tokens ++ fieldTokens false fields) ++ _).foldlM step?
        (.value (.object [] key :: stack)) = _
      rw [List.append_assoc, foldlM_tokens d (awaits_value _)]
      exact foldlM_fieldTokens fields key d [] stack ts

/-- After an item, reading the other items and the closing bracket completes the array. -/
theorem foldlM_itemTokens (ds : List Document) (d : Document) (items : List Document)
    (stack : List Frame) (ts : List Token) :
    (itemTokens false ds ++ (Token.closeBracket :: ts)).foldlM step?
        (.complete d (.array items :: stack)) =
      ts.foldlM step? (.complete (.array ((d :: items).reverse ++ ds)) stack) := by
  cases ds with
  | nil =>
    rw [List.append_nil]
    rfl
  | cons e es =>
    rw [itemTokens, if_neg (by simp), List.append_assoc, List.append_assoc]
    show (e.tokens ++ _).foldlM step? (.value (.array (d :: items) :: stack)) = _
    rw [foldlM_tokens e (awaits_value _), foldlM_itemTokens es e (d :: items) stack ts]
    simp

/-- After a field, reading the other fields and the closing brace completes the object. -/
theorem foldlM_fieldTokens (rest : List (Option String × Document)) (key : Option String)
    (d : Document) (fields : List (Option String × Document)) (stack : List Frame)
    (ts : List Token) :
    (fieldTokens false rest ++ (Token.closeBrace :: ts)).foldlM step?
        (.complete d (.object fields key :: stack)) =
      ts.foldlM step? (.complete (.object (((key, d) :: fields).reverse ++ rest)) stack) := by
  cases rest with
  | nil =>
    rw [List.append_nil]
    rfl
  | cons field rest =>
    obtain ⟨key', e⟩ := field
    rw [fieldTokens, if_neg (by simp), List.append_assoc, List.append_assoc]
    show (e.tokens ++ _).foldlM step? (.value (.object ((key, d) :: fields) key' :: stack)) = _
    rw [foldlM_tokens e (awaits_value _),
      foldlM_fieldTokens rest key' e ((key, d) :: fields) stack ts]
    simp

end

/-- A document is read from its tokens. -/
theorem ofTokens?_tokens (d : Document) : ofTokens? d.tokens = some d := by
  have hfold := foldlM_tokens d (awaits_value []) []
  rw [List.append_nil] at hfold
  rw [ofTokens?, hfold]
  rfl

end OpticalBench.Json.Document
