/-!
# Joining texts
-/

namespace PatternSql

namespace Text

/-- The texts one after the other, with a separator between them. -/
def join (separator : String) : List String → String
  | [] => ""
  | [text] => text
  | text :: rest => text ++ separator ++ join separator rest

/-- Nothing is joined to the empty text. -/
@[simp] theorem join_nil (separator : String) : join separator [] = "" := rfl

/-- A single text stays as it is. -/
@[simp] theorem join_singleton (separator text : String) : join separator [text] = text := rfl

/-- The first text is followed by the separator and by the others, joined. -/
theorem join_cons_cons (separator first second : String) (rest : List String) :
    join separator (first :: second :: rest) =
      first ++ separator ++ join separator (second :: rest) := rfl

end Text

end PatternSql
